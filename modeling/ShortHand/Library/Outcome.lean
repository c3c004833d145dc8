import Mathlib.Logic.Basic

/-! Inversion of computations in `Except`. -/

namespace ShortHand.Library

open List

universe u v w

variable {ε : Type u} {α : Type v} {β : Type v} {result : β}

theorem bind_eq_ok {rest : α → Except ε β} : (computation >>= rest) = .ok result ↔
      ∃ value, computation = .ok value ∧ rest value = .ok result := by
  cases computation with
  | error failure =>
    constructor
    · intro impossible
      cases impossible
    · rintro ⟨_, impossible, _⟩
      cases impossible
  | ok value =>
    constructor
    · intro succeeded
      exact ⟨value, rfl, succeeded⟩
    · rintro ⟨_, same, succeeded⟩
      cases same
      exact succeeded

/-- A check before a computation. -/
theorem check_eq_ok {check : Except ε Unit} {rest : Except ε δ} {outcome : δ} :
    (check >>= fun _ => rest) = .ok outcome ↔ check = .ok () ∧ rest = .ok outcome := by
  rw [bind_eq_ok]
  constructor
  · rintro ⟨_, passed, finished⟩
    exact ⟨passed, finished⟩
  · rintro ⟨passed, finished⟩
    exact ⟨(), passed, finished⟩

theorem map_eq_ok {computation : Except ε α} {change : α → β} :
    computation.map change = .ok result ↔ ∃ value, computation = .ok value ∧ change value = result := by
  cases computation <;> simp [Except.map]

/-- Go on if a condition holds, and fail otherwise. -/
def ensure (condition : Bool) (failure : ε) : Except ε Unit :=
  if condition then .ok () else .error failure

@[simp] theorem ensure_eq_ok {failure : ε} {done : Unit} :
    ensure condition failure = .ok done ↔ condition = true := by
  unfold ensure
  split
  · simp [*]
  · simp [*]

/-- The value of a computation that is known to succeed. -/
def valueOr (fallback : α) : Except ε α → α
  | .ok value => value
  | .error _ => fallback

theorem eq_ok_valueOr {computation : Except ε α} (fallback : α)
    (succeeds : computation.isOk = true) :
    computation = .ok (valueOr fallback computation) := by
  cases computation with
  | error failure => cases succeeds
  | ok value => rfl

/-- What a computation guarantees of its value and of its failure. -/
def Meets {ε : Type u} {α : Type v} (good : α → Prop) (bad : ε → Prop) : Except ε α → Prop
  | .ok value => good value
  | .error failure => bad failure

theorem Meets.mono {bad worse : ε → Prop} {computation : Except ε α}
    (meets : Meets good bad computation) (values : ∀ value, good value → better value)
    (failures : ∀ failure, bad failure → worse failure) : Meets better worse computation := by
  cases computation with
  | ok value => exact values value meets
  | error failure => exact failures failure meets

theorem Meets.bind {bad : ε → Prop}
    {computation : Except ε α} {rest : α → Except ε β} (meets : Meets good bad computation)
    (continues : ∀ value, good value → Meets better bad (rest value)) :
    Meets better bad (computation >>= rest) := by
  cases computation with
  | ok value => exact continues value meets
  | error failure => exact meets

/-- What holds of every value a computation can return. -/
def Yields {ε : Type u} {α : Type v} (good : α → Prop) (computation : Except ε α) : Prop :=
  ∀ value, computation = .ok value → good value

section Yields

variable {good better : α → Prop} {value : α} {failure : ε} {computation : Except ε α}

theorem Yields.ok (held : good value) : Yields good (.ok value : Except ε α) := by
  intro _ same
  cases same
  exact held

theorem Yields.error : Yields good (.error failure : Except ε α) := nofun

theorem Yields.mono (yields : Yields good computation) (values : ∀ value, good value → better value) :
    Yields better computation :=
  fun value succeeded => values value (yields value succeeded)

theorem Yields.bind {rest : α → Except ε β} (yields : Yields good computation)
    (continues : ∀ value, good value → Yields best (rest value)) :
    Yields best (computation >>= rest) := by
  intro result succeeded
  obtain ⟨value, first, later⟩ := bind_eq_ok.mp succeeded
  exact continues value (yields value first) result later

/-- The same when nothing is known of the value. -/
theorem Yields.after {rest : α → Except ε β}
    (continues : ∀ value, Yields best (rest value)) : Yields best (computation >>= rest) := by
  intro result succeeded
  obtain ⟨value, _, later⟩ := bind_eq_ok.mp succeeded
  exact continues value result later

end Yields

/-- What holds between the values of two computations wherever both return. -/
def Alike {ε : Type u} {α : Type v} (relation : α → α → Prop) (first second : Except ε α) : Prop :=
  ∀ one two, first = .ok one → second = .ok two → relation one two

theorem Alike.ok (held : relation one two) : Alike relation (.ok one : Except ε α) (.ok two) := by
  intro _ _ returned also
  cases returned
  cases also
  exact held

theorem Alike.refl {computation : Except ε α} : Alike Eq computation computation :=
  fun _ _ returned also => Except.ok.inj (returned.symm.trans also)

theorem Alike.bind {first second : Except ε α}
    {rest others : α → Except ε β} (alike : Alike relation first second)
    (continues : ∀ one two, relation one two → Alike better (rest one) (others two)) :
    Alike better (first >>= rest) (second >>= others) := by
  intro one two returned also
  obtain ⟨value, this, later⟩ := bind_eq_ok.mp returned
  obtain ⟨same, that, further⟩ := bind_eq_ok.mp also
  exact continues value same (alike value same this that) one two later further

/-- One value that both read. -/
theorem Alike.read {rest others : α → Except ε β}
    (continues : ∀ value, Alike relation (rest value) (others value)) :
    Alike relation (computation >>= rest) (computation >>= others) :=
  Alike.refl.bind fun value _ same => same ▸ continues value

/-- A value that only the first reads. -/
theorem Alike.skip {rest : α → Except ε β}
    {other : Except ε β} (continues : ∀ value, Alike relation (rest value) other) :
    Alike relation (computation >>= rest) other := by
  intro one two returned also
  obtain ⟨value, _, later⟩ := bind_eq_ok.mp returned
  exact continues value one two later also

/-- Checks of each. -/
theorem Alike.check {check also : Except ε Unit}
    {rest others : Unit → Except ε δ} (continues : Alike relation (rest ()) (others ())) :
    Alike relation (check >>= rest) (also >>= others) :=
  (show Alike Eq check also from fun _ _ _ _ => rfl).bind fun _ _ _ => continues

section Loops

variable {σ τ : Type} {failure : Type} {round : σ → τ → Except failure σ} {state final : σ}
  {items : List τ}

/-- A loop keeps what each of its rounds keeps. -/
theorem Meets.foldlM {good : List τ → σ → Prop} {bad : failure → Prop} (start : good [] state)
    (step : ∀ earlier item later, items = earlier ++ item :: later → ∀ before,
      good earlier before → Meets (good (earlier ++ [item])) bad (round before item)) :
    Meets (good items) bad (items.foldlM round state) := by
  have general : ∀ (rest earlier : List τ) (before : σ), items = earlier ++ rest →
      good earlier before → Meets (good items) bad (rest.foldlM round before) := by
    intro rest
    induction rest with
    | nil =>
      intro earlier before whole held
      rwa [whole, append_nil]
    | cons item rest ih =>
      intro earlier before whole held
      refine (step earlier item rest whole before held).bind fun after kept => ?_
      exact ih (earlier ++ [item]) after (by simpa using whole) kept
  exact general items [] state rfl start

/-- A loop whose rounds agree with another's, unless those stop in one of some ways, agrees
with it unless it stops in one of them. -/
theorem foldlM_extends {stops : failure → Prop}
    (agree : ∀ before item, (∀ stop, stops stop → round before item ≠ .error stop) →
      other before item = round before item)
    (settled : ∀ stop, stops stop → items.foldlM round state ≠ .error stop) :
    items.foldlM other state = items.foldlM round state := by
  induction items generalizing state with
  | nil => rfl
  | cons item items ih =>
    simp only [foldlM_cons] at settled
    rw [foldlM_cons, foldlM_cons]
    cases this : round state item with
    | error found =>
      rw [agree state item (this ▸ settled), this]
      rfl
    | ok after =>
      rw [this] at settled
      rw [agree state item (by rw [this]; nofun), this]
      exact ih settled

/-- Every round of a loop that ended well ended well. -/
theorem foldlM_eq_ok_forall (finished : items.foldlM round state = .ok final) :
    ∀ item ∈ items, ∃ before after, round before item = .ok after := by
  induction items generalizing state with
  | nil => simp
  | cons item items ih =>
    rw [foldlM_cons, bind_eq_ok] at finished
    obtain ⟨after, first, rest⟩ := finished
    exact forall_mem_cons.mpr ⟨⟨state, after, first⟩, ih rest⟩

/-- A loop ends well if every round does from any state. -/
theorem exists_foldlM_eq_ok (rounds : ∀ item ∈ items, ∀ before, ∃ after, round before item = .ok after) :
    ∃ final, items.foldlM round state = .ok final := by
  induction items generalizing state with
  | nil => exact ⟨state, rfl⟩
  | cons item items ih =>
    rw [forall_mem_cons] at rounds
    obtain ⟨after, first⟩ := rounds.1 state
    obtain ⟨final, rest⟩ := @ih after rounds.2
    exact ⟨final, by rw [foldlM_cons, first]; exact rest⟩

/-- What each round keeps of the items before it holds of all items at the end. -/
theorem foldlM_invariant {holds : List τ → σ → Prop} (start : holds [] state)
    (step : ∀ earlier item later, items = earlier ++ item :: later → ∀ before after,
      holds earlier before → round before item = .ok after → holds (earlier ++ [item]) after)
    (finished : items.foldlM round state = .ok final) : holds items final := by
  have meets : Meets (holds items) (fun _ => True) (items.foldlM round state) := by
    refine .foldlM start fun earlier item later whole before held => ?_
    cases this : round before item with
    | error => trivial
    | ok after => exact step earlier item later whole before after held this
  rwa [finished] at meets

/-- A loop ends well if every round does from what the rounds before it keep. -/
theorem exists_foldlM_of_invariant {holds : List τ → σ → Prop} (start : holds [] state)
    (step : ∀ earlier item later, items = earlier ++ item :: later → ∀ before,
      holds earlier before → ∃ after, round before item = .ok after ∧ holds (earlier ++ [item]) after) :
    ∃ final, items.foldlM round state = .ok final ∧ holds items final := by
  have meets : Meets (holds items) (fun _ => False) (items.foldlM round state) := by
    refine .foldlM start fun earlier item later whole before held => ?_
    obtain ⟨after, this, kept⟩ := step earlier item later whole before held
    rwa [this]
  cases finished : items.foldlM round state with
  | error => rw [finished] at meets; exact meets.elim
  | ok final => rw [finished] at meets; exact ⟨final, rfl, meets⟩

/-- What two loops keep between them round by round. -/
theorem Alike.foldlM {relation : σ → σ → Prop} {start : σ} (held : relation state start)
    (step : ∀ one two item, relation one two → Alike relation (round one item) (other two item)) :
    Alike relation (items.foldlM round state) (items.foldlM other start) := by
  induction items generalizing state start with
  | nil => exact .ok held
  | cons item items ih =>
    exact (step state start item held).bind fun _ _ => ih

/-- A check of every item passes just if each of them does. -/
theorem forM_eq_ok {check : τ → Except failure Unit} :
    items.forM check = .ok () ↔ ∀ item ∈ items, check item = .ok () := by
  induction items with
  | nil => exact iff_of_true rfl nofun
  | cons item items ih =>
    rw [forall_mem_cons, ← ih]
    exact check_eq_ok

end Loops

/-- What each action guarantees of its result. -/
theorem mapM_eq_ok {α β ε : Type} {action : α → Except ε β} {good : β → Prop} {items : List α}
    {results : List β} (each : ∀ item ∈ items, ∀ result, action item = .ok result → good result)
    (mapped : items.mapM action = .ok results) : ∀ result ∈ results, good result := by
  induction items generalizing results with
  | nil =>
    cases mapped
    nofun
  | cons item rest ih =>
    rw [mapM_cons] at mapped
    obtain ⟨first, here, mapped⟩ := bind_eq_ok.mp mapped
    obtain ⟨others, later, mapped⟩ := bind_eq_ok.mp mapped
    cases mapped
    rw [forall_mem_cons] at each ⊢
    exact ⟨each.1 first here, ih each.2 later⟩

end ShortHand.Library
