import Mathlib.Logic.Function.Basic

/-! Stateful computations that return, fail or run out of fuel: what a run ensures, how two runs
agree, and that more fuel changes no answer. -/

namespace ShortHand.Library

inductive Outcome (σ ε α : Type) where
  | ok (value : α) (state : σ)
  | failed (error : ε) (state : σ)
  | exhausted
  deriving DecidableEq

def Exec (σ ε α : Type) : Type := σ → Outcome σ ε α

namespace Exec

variable {σ τ ε α β : Type}

instance : Monad (Exec σ ε) where
  pure value := fun state => .ok value state
  bind first later := fun state =>
    match first state with
    | .ok value next => later value next
    | .failed error next => .failed error next
    | .exhausted => .exhausted

def fail (error : ε) : Exec σ ε α := fun state => .failed error state

def exhaust : Exec σ ε α := fun _ => .exhausted

def get : Exec σ ε σ := fun state => .ok state state

def modify (change : σ → σ) : Exec σ ε Unit := fun state => .ok () (change state)

theorem bind_of_ok {later : α → Exec σ ε β} (ran : first state = .ok value next) :
    (first >>= later) state = later value next := by
  change (match first state with
    | .ok value next => later value next
    | .failed error next => .failed error next
    | .exhausted => .exhausted) = _
  rw [ran]

theorem bind_of_failed {later : α → Exec σ ε β} (ran : first state = .failed error next) :
    (first >>= later) state = .failed error next := by
  change (match first state with
    | .ok value next => later value next
    | .failed error next => .failed error next
    | .exhausted => .exhausted) = _
  rw [ran]

/-- Two computations go the same way if their first parts do and what follows the value
of the first part does. -/
theorem bind_congr {later other : α → Exec σ ε β} (start : first state = second state)
    (next : ∀ value after, second state = .ok value after → later value after = other value after) :
    (first >>= later) state = (second >>= other) state := by
  change (match first state with
    | .ok value next => later value next
    | .failed error next => .failed error next
    | .exhausted => .exhausted) = (match second state with
    | .ok value next => other value next
    | .failed error next => .failed error next
    | .exhausted => .exhausted)
  rw [start]
  cases ran : second state with
  | ok value after => exact next value after ran
  | failed error after => rfl
  | exhausted => rfl

theorem bind_assoc {γ : Type} {second : α → Exec σ ε β} {third : β → Exec σ ε γ} :
    (first >>= second >>= third) = first >>= fun value => second value >>= third := by
  funext state
  change (match (match first state with
      | .ok value next => second value next
      | .failed error next => .failed error next
      | .exhausted => .exhausted) with
    | .ok value next => third value next
    | .failed error next => .failed error next
    | .exhausted => .exhausted) = (match first state with
    | .ok value next => (second value >>= third) next
    | .failed error next => .failed error next
    | .exhausted => .exhausted)
  cases first state <;> rfl

theorem bind_pure_self {first : Exec σ ε α} : (first >>= fun value => pure value) = first := by
  funext state
  change (match first state with
    | .ok value next => .ok value next
    | .failed error next => .failed error next
    | .exhausted => .exhausted) = first state
  cases first state <;> rfl

@[simp] theorem get_bind {later : σ → Exec σ ε α} :
    (get >>= later) state = later state state := rfl

@[simp] theorem modify_bind {change : σ → σ} {later : Unit → Exec σ ε α} :
    (modify change >>= later) state = later () (change state) := rfl

/-- Run a body between an entry and an exit change; the exit change sees the state
before the entry and happens after a failure too. -/
def bracket (enter : σ → σ) (leave : σ → σ → σ) (body : Exec σ ε α) : Exec σ ε α :=
  fun state =>
    match body (enter state) with
    | .ok value after => .ok value (leave state after)
    | .failed error after => .failed error (leave state after)
    | .exhausted => .exhausted

def collect (action : β → Exec σ ε α) : List β → Exec σ ε (List α)
  | [] => pure []
  | item :: rest => do
    let value ← action item
    let values ← collect action rest
    return value :: values

def each (action : β → Exec σ ε Unit) : List β → Exec σ ε Unit
  | [] => pure ()
  | item :: rest => do
    action item
    each action rest

end Exec

namespace Outcome

variable {σ τ υ ε α β : Type}

def value? : Outcome σ ε α → Option α
  | .ok value _ => some value
  | _ => none

def error? : Outcome σ ε α → Option ε
  | .failed error _ => some error
  | _ => none

/-- The run returns, and its last state passes the test. -/
def endsWith (test : σ → Bool) : Outcome σ ε α → Bool
  | .ok _ state => test state
  | _ => false

theorem eq_ok_of_endsWith {outcome : Outcome σ ε α} (ends : outcome.endsWith test = true) :
    ∃ value state, outcome = .ok value state ∧ test state = true := by
  cases outcome with
  | ok value state => exact ⟨value, state, rfl, ends⟩
  | failed error state => cases ends
  | exhausted => cases ends

/-- What an outcome ensures: one condition on results, one on failures. -/
def Ensures (result : α → σ → Prop) (failure : ε → σ → Prop) : Outcome σ ε α → Prop
  | .ok value state => result value state
  | .failed error state => failure error state
  | .exhausted => True

/-- Two outcomes with equal results or errors, in related states. The first run
may also have stopped with an error that the comparison disregards. -/
inductive Agree (disregarded : ε → Prop) (result : α → σ → τ → Prop)
    (failure : σ → τ → Prop) : Outcome σ ε α → Outcome τ ε α → Prop where
  | ok {value : α} {first : σ} {second : τ} (related : result value first second) :
      Agree disregarded result failure (.ok value first) (.ok value second)
  | failed {error : ε} {first : σ} {second : τ} (related : failure first second) :
      Agree disregarded result failure (.failed error first) (.failed error second)
  | exhausted : Agree disregarded result failure .exhausted .exhausted
  | stopped {error : ε} {first : σ} {other : Outcome τ ε α} (stop : disregarded error) :
      Agree disregarded result failure (.failed error first) other

section Ensures

variable {result : β → σ → Prop} {failure : ε → σ → Prop} {first : Exec σ ε α}
  {later : α → Exec σ ε β} {state : σ}

@[simp] theorem ensures_pure :
    ((pure value : Exec σ ε β) state).Ensures result failure ↔ result value state := Iff.rfl

@[simp] theorem ensures_fail :
    ((Exec.fail error : Exec σ ε β) state).Ensures result failure ↔ failure error state := Iff.rfl

theorem ensures_bind :
    ((first >>= later) state).Ensures result failure ↔
      (first state).Ensures (fun value next => (later value next).Ensures result failure)
        failure := by
  change Ensures result failure (match first state with
    | .ok value next => later value next
    | .failed error next => .failed error next
    | .exhausted => .exhausted) ↔ _
  cases first state <;> rfl

theorem Ensures.bind (start : (first state).Ensures middle failure)
    (next : ∀ value state, middle value state → (later value state).Ensures result failure) :
    ((first >>= later) state).Ensures result failure := by
  rw [ensures_bind]
  cases ran : first state with
  | ok value state =>
    rw [ran] at start
    exact next value state start
  | failed error state =>
    rwa [ran] at start
  | exhausted => trivial

theorem Ensures.mono {outcome : Outcome σ ε α} {weaker stronger : α → σ → Prop}
    {failure permitted : ε → σ → Prop} (holds : outcome.Ensures stronger failure)
    (results : ∀ value state, stronger value state → weaker value state)
    (failures : ∀ error state, failure error state → permitted error state) :
    outcome.Ensures weaker permitted := by
  cases outcome with
  | ok value state => exact results value state holds
  | failed error state => exact failures error state holds
  | exhausted => trivial

theorem Ensures.and {outcome : Outcome σ ε α} {holds also : α → σ → Prop}
    {failure permitted : ε → σ → Prop} (first : outcome.Ensures holds failure)
    (second : outcome.Ensures also permitted) :
    outcome.Ensures (fun value state => holds value state ∧ also value state) failure := by
  cases outcome with
  | ok value state => exact ⟨first, second⟩
  | failed error state => exact first
  | exhausted => trivial

theorem ensures_bracket {enter : σ → σ} {leave : σ → σ → σ} :
    (Exec.bracket enter leave body state).Ensures result failure ↔
      (body (enter state)).Ensures (fun value after => result value (leave state after))
        fun error after => failure error (leave state after) := by
  unfold Exec.bracket
  cases body (enter state) <;> rfl

/-- What the last part of a computation ensures from every state. -/
theorem Ensures.last (failures : ∀ error state, failure error state)
    (results : ∀ value state, (later value state).Ensures result failure) :
    ((first >>= later) state).Ensures result failure := by
  rw [ensures_bind]
  cases first state with
  | ok value next => exact results value next
  | failed error next => exact failures error next
  | exhausted => trivial

end Ensures

section Agree

variable {disregarded : ε → Prop} {relation : α → σ → τ → Prop} {result : β → σ → τ → Prop}
  {failure : σ → τ → Prop} {state : σ} {other : τ}

theorem Agree.bind {later : α → Exec σ ε β} {after : α → Exec τ ε β}
    (start : (first state).Agree disregarded relation failure (second other))
    (next : ∀ value state other, relation value state other →
      (later value state).Agree disregarded result failure (after value other)) :
    ((first >>= later) state).Agree disregarded result failure ((second >>= after) other) := by
  change Agree disregarded result failure (match first state with
      | .ok value next => later value next
      | .failed error next => .failed error next
      | .exhausted => .exhausted) (match second other with
      | .ok value next => after value next
      | .failed error next => .failed error next
      | .exhausted => .exhausted)
  generalize first state = before at start
  generalize second other = before' at start
  cases start with
  | ok related => exact next _ _ _ related
  | failed related => exact .failed related
  | exhausted => exact .exhausted
  | stopped stop => exact .stopped stop

theorem Agree.mono {first : Outcome σ ε α} {weaker : α → σ → τ → Prop} {permitted : σ → τ → Prop}
    (agrees : first.Agree disregarded relation failure second)
    (results : ∀ value state other, relation value state other → weaker value state other)
    (failures : ∀ state other, failure state other → permitted state other) :
    first.Agree disregarded weaker permitted second := by
  cases agrees with
  | ok related => exact .ok (results _ _ _ related)
  | failed related => exact .failed (failures _ _ related)
  | exhausted => exact .exhausted
  | stopped stop => exact .stopped stop

/-- Add to an agreement what the second outcome ensures. -/
theorem Agree.ensuring {first : Outcome σ ε α} {holds : α → τ → Prop} {failing : ε → τ → Prop}
    (agrees : first.Agree disregarded relation failure second)
    (ensures : second.Ensures holds failing) :
    first.Agree disregarded (fun value state other => relation value state other ∧ holds value other)
      failure second := by
  cases agrees with
  | ok related => exact .ok ⟨related, ensures⟩
  | failed related => exact .failed related
  | exhausted => exact .exhausted
  | stopped stop => exact .stopped stop

/-- An outcome in an agreement without common failures. -/
theorem Agree.ensures {first : Outcome σ ε α}
    (agrees : first.Agree disregarded relation failure second)
    (never : ∀ state other, ¬failure state other) :
    first.Ensures (fun value state => ∃ other, relation value state other)
      fun error _ => disregarded error := by
  cases agrees with
  | ok related => exact ⟨_, related⟩
  | failed related => exact absurd related (never _ _)
  | exhausted => trivial
  | stopped stop => exact stop

/-- An outcome next to itself. -/
theorem Ensures.agree {outcome : Outcome σ ε α} {holds : α → σ → Prop} {failing : ε → σ → Prop}
    {lost : σ → σ → Prop} (ensures : outcome.Ensures holds failing)
    (fails : ∀ error state, failing error state → lost state state ∨ disregarded error) :
    outcome.Agree disregarded (fun value state other => state = other ∧ holds value other) lost
      outcome := by
  cases outcome with
  | ok value state => exact .ok ⟨rfl, ensures⟩
  | failed error state => exact (fails error state ensures).elim .failed .stopped
  | exhausted => exact .exhausted

theorem Agree.eq {first second : Outcome σ ε α}
    (agrees : first.Agree disregarded (fun _ => Eq) Eq second)
    (regarded : ∀ error state, first = .failed error state → ¬disregarded error) :
    first = second := by
  cases agrees with
  | ok related => rw [related]
  | failed related => rw [related]
  | exhausted => rfl
  | stopped stop => exact absurd stop (regarded _ _ rfl)

/-- Two outcomes that agree with a third agree with each other. -/
theorem Agree.join {first : Outcome σ ε α} {others : α → υ → τ → Prop} {failing : υ → τ → Prop}
    (agrees : first.Agree (fun _ => False) relation failure middle)
    (also : second.Agree (fun _ => False) others failing middle) :
    first.Agree (fun _ => False)
      (fun value state third => ∃ other, relation value state other ∧ others value third other)
      (fun state third => ∃ other, failure state other ∧ failing third other) second := by
  cases agrees with
  | ok related =>
    cases also with
    | ok other => exact .ok ⟨_, related, other⟩
    | stopped stop => exact stop.elim
  | failed related =>
    cases also with
    | failed other => exact .failed ⟨_, related, other⟩
    | stopped stop => exact stop.elim
  | exhausted =>
    cases also with
    | exhausted => exact .exhausted
    | stopped stop => exact stop.elim
  | stopped stop => exact stop.elim

theorem Agree.bracket {enter : σ → σ} {leave : σ → σ → σ} {enter' : τ → τ} {leave' : τ → τ → τ}
    {inside : σ → τ → Prop}
    (body : (first (enter state)).Agree disregarded relation inside (second (enter' other)))
    {outcome : α → σ → τ → Prop}
    (results : ∀ value after after', relation value after after' →
      outcome value (leave state after) (leave' other after'))
    (failures : ∀ after after', inside after after' →
      failure (leave state after) (leave' other after')) :
    (Exec.bracket enter leave first state).Agree disregarded outcome failure
      (Exec.bracket enter' leave' second other) := by
  unfold Exec.bracket
  generalize first (enter state) = before at body
  generalize second (enter' other) = before' at body
  cases body with
  | ok related => exact .ok (results _ _ _ related)
  | failed related => exact .failed (failures _ _ related)
  | exhausted => exact .exhausted
  | stopped stop => exact .stopped stop

end Agree

end Outcome

end ShortHand.Library
