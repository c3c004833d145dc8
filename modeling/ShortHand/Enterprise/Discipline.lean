import ShortHand.Library.Outcome
import ShortHand.Enterprise.Statements

/-! What an accepted statement may access and how it moves the borrow table and the ownership
states. -/

namespace ShortHand.Enterprise

open ShortHand.Library

variable {numerals : Numerals} {env : Env} {tokens rest : List Token} {parser after : Parser}
  {done : Executed}

/-- The tracker's view of a value. -/
abbrev Env.snapshot (env : Env) (name : String) : Option OwnershipSnapshot :=
  env.ownership.snapshot name

/-- A read that `reference` lets pass: through the handle of a borrow, or directly
on a value that is neither moved nor mutably borrowed. -/
inductive Env.Allows (env : Env) : Access → Prop where
  | through {access : Access} {borrow : Borrow} (found : env.borrows.lookup access.via = some borrow)
      (handle : borrow.view = false) (owner : borrow.owner = access.value) : env.Allows access
  | direct {access : Access} {value : OwnershipSnapshot} (same : access.via = access.value)
      (found : env.snapshot access.value = some value)
      (usable : value.state = .owned ∨ value.state = .sharedBorrowed) : env.Allows access

theorem checked_eq_ok : checked tokens outcome = .ok value ↔ outcome = .ok value := by
  cases outcome <;> simp [checked, fail]

theorem checked_yields {good : α → Prop}
    (yields : Yields good outcome) : Yields good (checked tokens outcome) :=
  fun value accepted => yields value (checked_eq_ok.mp accepted)

theorem reference_read : Yields (fun result => env.Allows result.2.1 ∧ result.2.1.via = name ∧
      (env.borrows.lookup name = none → result.2.1.value = name)) (reference env name false) := by
  rintro ⟨parsed, access, ownership⟩ accepted
  obtain ⟨⟨owner, tracker⟩, resolved, found⟩ := bind_eq_ok.mp accepted
  have identity : access = ⟨owner, name⟩ := by
    cases stored : env.values.lookup owner with
    | none => simp [stored] at found
    | some value =>
      simp only [stored, Except.ok.injEq, Prod.mk.injEq] at found
      exact found.2.1.symm
  subst identity
  unfold resolve at resolved
  split at resolved
  · rename_i owner' mutable known
    simp only [Bool.false_and, Bool.false_eq_true, if_false, Except.ok.injEq, Prod.mk.injEq]
      at resolved
    refine ⟨.through known rfl resolved.1, rfl, ?_⟩
    intro absent
    simp [absent] at known
  · simp only [Bool.false_eq_true, if_false] at resolved
    obtain ⟨_, checked, same⟩ := map_eq_ok.mp resolved
    obtain ⟨value, snapshot, usable⟩ := OwnershipTracker.read_ok checked
    cases same
    exact ⟨.direct rfl snapshot usable, rfl, fun _ => rfl⟩

/-- How `set` resolves its target: through a mutable borrow, which changes nothing,
or directly, which makes the value owned. -/
inductive Env.Targets (env : Env) (access : Access) (ownership : OwnershipTracker) : Prop where
  | through {borrow : Borrow} (found : env.borrows.lookup access.via = some borrow)
      (handle : borrow.view = false) (mutable : borrow.mutable = true)
      (owner : borrow.owner = access.value) (same : ownership = env.ownership)
  | direct {value : OwnershipSnapshot} (same : access.via = access.value)
      (found : env.snapshot access.value = some value)
      (free : value.state ≠ .sharedBorrowed ∧ value.state ≠ .mutablyBorrowed)
      (assigned : ownership = env.ownership.store access.value ⟨.owned, 0⟩)

theorem reference_write :
    Yields (fun result => env.Targets result.2.1 result.2.2 ∧ result.1.name = result.2.1.value)
      (reference env name true) := by
  rintro ⟨parsed, access, ownership⟩ accepted
  obtain ⟨⟨owner, tracker⟩, resolved, found⟩ := bind_eq_ok.mp accepted
  cases stored : env.values.lookup owner with
  | none => simp [stored] at found
  | some value =>
    simp only [stored, Except.ok.injEq, Prod.mk.injEq] at found
    obtain ⟨rfl, rfl, rfl⟩ := found
    refine ⟨?_, rfl⟩
    unfold resolve at resolved
    split at resolved
    · rename_i owner' mutable known
      split at resolved
      · cases resolved
      · rename_i allowed
        simp only [Except.ok.injEq, Prod.mk.injEq] at resolved
        exact .through known rfl (by simpa using allowed) resolved.1 resolved.2.symm
    · simp only [if_true] at resolved
      obtain ⟨_, assigned, same⟩ := map_eq_ok.mp resolved
      obtain ⟨snapshot, known, free, stored⟩ := OwnershipTracker.transition_ok assigned
      cases same
      refine .direct rfl known ?_ stored
      simpa [not_or] using free

theorem take_length (taken : take text tokens = some rest) : rest.length < tokens.length := by
  cases tokens with
  | nil => cases taken
  | cons token others =>
    obtain ⟨_, same⟩ := Option.ite_none_right_eq_some.mp taken
    cases same
    exact Nat.lt_succ_self _

theorem expect_length : Yields (fun rest => rest.length < tokens.length) (expect text tokens) := by
  unfold expect
  split
  · rename_i taken
    exact .ok (take_length taken)
  · exact .error

theorem takeName_length :
    Yields (fun result => result.2.length < tokens.length) (takeName tokens) := by
  cases tokens with
  | nil => exact .error
  | cons token others =>
    simp only [takeName]
    split
    · exact .ok (Nat.lt_succ_self _)
    · exact .error

theorem separator_length :
    Yields (fun rest => rest.length ≤ tokens.length) (separator first tokens) := by
  unfold separator
  split
  · exact .ok (Nat.le_refl _)
  · exact expect_length.mono fun _ => Nat.le_of_lt

/-- A parser that reads only what the environment allows and moves forward. -/
def Sound {α : Type} (env : Env)
    (parse : List Token → Except Failure (α × List Access × List Token)) : Prop :=
  ∀ tokens value reads rest, parse tokens = .ok (value, reads, rest) →
    (∀ access ∈ reads, env.Allows access) ∧ rest.length < tokens.length

/-- The same of one result, which may have taken no token. -/
def Env.Reads {α : Type} (env : Env) (tokens : List Token) (result : α × List Access × List Token) :
    Prop :=
  (∀ access ∈ result.2.1, env.Allows access) ∧ result.2.2.length ≤ tokens.length

section Expressions

variable {α : Type} {parse : List Token → Except Failure (Expression × List Access × List Token)}

theorem Sound.yields {parse : List Token → Except Failure (α × List Access × List Token)}
    (sound : Sound env parse) :
    Yields (fun result => (∀ access ∈ result.2.1, env.Allows access) ∧
      result.2.2.length < tokens.length) (parse tokens) :=
  fun ⟨value, reads, rest⟩ => sound tokens value reads rest

theorem constructorFields_sound (sound : Sound env parse) {fields : List ScalarType} :
    Yields (env.Reads tokens) (constructorFields parse fields first tokens) := by
  induction fields generalizing first tokens with
  | nil => exact .ok ⟨nofun, Nat.le_refl _⟩
  | cons field fields ih =>
    refine separator_length.bind fun separated start => ?_
    refine sound.yields.bind fun ⟨value, reads, middle⟩ ⟨allowed, shorter⟩ => ?_
    refine ih.bind fun ⟨others, later, last⟩ ⟨allowedLater, shorterLater⟩ => ?_
    refine .ok ⟨List.forall_mem_append.mpr ⟨allowed, allowedLater⟩, ?_⟩
    dsimp only at shorter shorterLater ⊢
    omega

theorem constructVariant_sound (sound : Sound env parse) :
    Yields (env.Reads tokens) (constructVariant parse c name isOption tokens) := by
  refine expect_length.bind fun dotted dotLength => ?_
  refine takeName_length.bind fun ⟨variant, named⟩ nameLength => ?_
  dsimp only at nameLength ⊢
  split
  · exact .error
  split
  · exact .ok ⟨nofun, by dsimp only; omega⟩
  refine expect_length.bind fun opened openLength => ?_
  refine sound.yields.bind fun ⟨payload, reads, inner⟩ ⟨allowed, shorter⟩ => ?_
  refine expect_length.bind fun closed closeLength => .ok ⟨allowed, ?_⟩
  dsimp only at shorter closeLength ⊢
  omega

theorem construct_sound (sound : Sound env parse) :
    Yields (env.Reads tokens) (construct parse c name tokens) := by
  unfold construct
  split
  · exact .error
  · refine expect_length.bind fun dotted dotLength => ?_
    refine takeName_length.bind fun ⟨variant, named⟩ nameLength => ?_
    dsimp only at nameLength ⊢
    split
    · exact .ok ⟨nofun, by dsimp only; omega⟩
    · exact .error
  · exact constructVariant_sound sound
  · exact constructVariant_sound sound
  · refine expect_length.bind fun opened openLength => ?_
    refine (constructorFields_sound sound).bind fun ⟨operands, reads, inner⟩ ⟨allowed, shorter⟩ => ?_
    refine expect_length.bind fun closed closeLength => .ok ⟨allowed, ?_⟩
    dsimp only at shorter closeLength ⊢
    omega

theorem selector_sound (sound : Sound env parse) {base : Expression} :
    Yields (env.Reads tokens) (selector env parse base tokens) := by
  unfold selector
  split
  · rename_i dotted taken
    have dotLength := take_length taken
    refine takeName_length.bind fun ⟨field, named⟩ nameLength => ?_
    dsimp only at nameLength ⊢
    split
    · exact .error
    · split
      · exact .error
      · exact .ok ⟨nofun, by dsimp only; omega⟩
  · split
    · rename_i opened taken
      have openLength := take_length taken
      refine sound.yields.bind fun ⟨index, reads, inner⟩ ⟨allowed, shorter⟩ => ?_
      refine expect_length.bind fun closed closeLength => ?_
      have shorter : closed.length ≤ tokens.length := by
        dsimp only at shorter closeLength
        omega
      split
      · split
        · exact .error
        · exact .ok ⟨allowed, shorter⟩
      · exact .ok ⟨allowed, shorter⟩
    · split
      · exact .error
      · exact .ok ⟨nofun, Nat.le_refl _⟩

/-- A literal is one token. -/
theorem tail_length (present : (peek tokens).text.toList ≠ [] ∨ (peek tokens).quoted = true) :
    tokens.tail.length < tokens.length := by
  cases tokens with
  | nil => simp [peek] at present
  | cons token others => exact Nat.lt_succ_self _

theorem expressionImpl_sound (sound : Sound env parse) :
    Sound env (expressionImpl numerals env parse) := by
  intro tokens parsed reads rest accepted
  refine (?_ : Yields (fun result => (∀ access ∈ result.2.1, env.Allows access) ∧
    result.2.2.length < tokens.length) _) _ accepted
  unfold expressionImpl
  dsimp only
  split
  · rename_i quoted
    exact .ok ⟨nofun, tail_length (.inr quoted)⟩
  split
  · exact .ok ⟨nofun, take_length ‹_›⟩
  · exact .ok ⟨nofun, take_length ‹_›⟩
  split
  · rename_i starts
    have shorter : tokens.tail.length < tokens.length := by
      refine tail_length (.inl ?_)
      intro empty
      simp [empty] at starts
    split
    · split
      · exact .ok ⟨nofun, shorter⟩
      · exact .error
    · split
      · exact .ok ⟨nofun, shorter⟩
      · exact .error
  · refine takeName_length.bind fun ⟨name, named⟩ nameLength => ?_
    split
    · exact (construct_sound sound).mono fun _ ⟨allowed, shorter⟩ =>
        ⟨allowed, Nat.lt_of_le_of_lt shorter nameLength⟩
    · refine (checked_yields reference_read).bind fun ⟨base, access, _⟩ ⟨first, _⟩ => ?_
      refine (selector_sound sound).bind fun ⟨selected, later, last⟩ ⟨allowed, shorter⟩ => ?_
      exact .ok ⟨List.forall_mem_cons.mpr ⟨first, allowed⟩, Nat.lt_of_le_of_lt shorter nameLength⟩

theorem expressionAt_sound (depth : Nat) : Sound env (expressionAt numerals env depth) := by
  induction depth with
  | zero =>
    intro tokens parsed reads rest accepted
    cases accepted
  | succ depth ih =>
    intro tokens parsed reads rest accepted
    obtain ⟨⟨value, found, last⟩, impl, accepted⟩ := bind_eq_ok.mp accepted
    cases accepted
    exact expressionImpl_sound ih _ _ _ _ impl

/-- Every name an accepted expression reads passed the ownership check. -/
theorem expression_sound : Sound env (expression numerals env) := expressionAt_sound 128

end Expressions

end ShortHand.Enterprise
