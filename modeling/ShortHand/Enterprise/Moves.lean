import ShortHand.Enterprise.Borrows

/-! Use after move. The tracker refuses every read of a moved value, but `set` owns its target
again before the right side is parsed. -/

namespace ShortHand.Enterprise

open ShortHand.Library List

/-- The statement takes the value: a move of it, or the release of it as a view. -/
def Effect.takes (name : String) : Effect → Prop
  | .move owner _ => owner = name
  | .release handle held => held.view = true ∧ handle = name
  | .nothing | .declare _ | .assign _ | .update _ | .borrow _ _ => False

namespace Executed

def ReadsValue (done : Executed) (name : String) : Prop :=
  ∃ access ∈ done.reads, access.value = name

/-- An assignment of the whole value whose right side does not read it. -/
def Renews (done : Executed) (name : String) : Prop :=
  ∃ target, done.effect = .assign target ∧ target.value = name ∧ ¬ done.ReadsValue name

/-- Any other `set` of the value: a field, an element, or the whole from itself. -/
def Revives (done : Executed) (name : String) : Prop :=
  ∃ target, target.value = name ∧
    (done.effect = .update target ∨ done.effect = .assign target ∧ done.ReadsValue name)

end Executed

/-- Every read after a move has a whole assignment in between. -/
def NoUseAfterMove (history : List Executed) : Prop :=
  ∀ earlier mover between reader later name,
    history = earlier ++ mover :: (between ++ reader :: later) → mover.effect.takes name →
    reader.ReadsValue name → ∃ renewer ∈ between, renewer.Renews name

/-- A `set` that revives a taken value neither reads it nor is followed by a read
of it before the next whole assignment. -/
def RevivedUnread (history : List Executed) : Prop :=
  ∀ earlier mover between reviver later name,
    history = earlier ++ mover :: (between ++ reviver :: later) → mover.effect.takes name →
    (∀ done ∈ between, ¬ done.Renews name) → reviver.Revives name →
    ¬ reviver.ReadsValue name ∧
      ∀ upTo reader rest, later = upTo ++ reader :: rest → reader.ReadsValue name →
        ∃ renewer ∈ upTo, renewer.Renews name

variable {name : String} {before after : Env} {done : Executed}

theorem Executed.Revives.not_renews (revives : done.Revives name) : ¬ done.Renews name := by
  rintro ⟨assigned, assignment, _, unread⟩
  obtain ⟨target, _, update | ⟨_, reads⟩⟩ := revives
  · cases assignment.symm.trans update
  · exact unread reads

/-- The tracker's state of a taken value. -/
def OwnershipTracker.Taken (tracker : OwnershipTracker) (name : String) : Prop :=
  ∃ value, tracker.snapshot name = some value ∧ value.state = .moved

section Taken

variable {tracker : OwnershipTracker} {other : String} {value : OwnershipSnapshot}

theorem OwnershipTracker.Taken.store (taken : tracker.Taken name) (different : name ≠ other) :
    (tracker.store other value).Taken name := by
  obtain ⟨found, present, moved⟩ := taken
  refine ⟨found, ?_, moved⟩
  rwa [snapshot_store, if_neg different]

theorem OwnershipTracker.taken_store (moved : value.state = .moved) :
    (tracker.store name value).Taken name := by
  refine ⟨value, ?_, moved⟩
  rw [snapshot_store, if_pos rfl]

theorem OwnershipTracker.Taken.ne_of_found (taken : tracker.Taken name)
    (found : tracker.snapshot other = some value) (usable : value.state ≠ .moved) :
    name ≠ other := by
  rintro rfl
  obtain ⟨_, present, moved⟩ := taken
  cases present.symm.trans found
  exact usable moved

theorem OwnershipTracker.Taken.ne_of_fresh (taken : tracker.Taken name)
    (fresh : tracker.snapshot other = none) : name ≠ other := by
  rintro rfl
  obtain ⟨_, present, _⟩ := taken
  cases present.symm.trans fresh

end Taken

theorem OwnershipTracker.Taken.unread {env : Env} (taken : env.ownership.Taken name)
    (disciplined : Disciplined env.ownership env.borrows) (allowed : env.Allows access) :
    access.value ≠ name := by
  obtain ⟨value, found, moved⟩ := taken
  intro reaches
  cases allowed with
  | through lent _ owns =>
    have member := mem_holders.mpr ⟨lent, owns.trans reaches⟩
    rw [(disciplined.unheld found (by simp [moved])).1] at member
    cases member
  | direct _ present usable =>
    rw [reaches] at present
    cases found.symm.trans present
    simp [moved] at usable

/-- A statement that takes a value leaves it moved. -/
theorem Step.takes (step : Step before done after) (takes : done.effect.takes name) :
    after.ownership.Taken name := by
  cases step with
  | quiet effect _ _ _ _ | declare effect _ _ _ _ _ | borrow effect _ _ _ _ _ _ _ _
  | view effect _ _ _ _ _ _ _ _ => simp [effect, Effect.takes] at takes
  | set effect _ _ _ _ => rcases effect with effect | effect <;> simp [effect, Effect.takes] at takes
  | move effect _ found _ fresh _ _ ownership =>
    rw [effect] at takes
    obtain rfl := takes
    rw [ownership]
    apply (OwnershipTracker.taken_store rfl).store
    rintro rfl
    cases found.symm.trans fresh
  | release effect _ _ _ _ _ _ ownership =>
    rw [effect] at takes
    obtain ⟨isView, rfl⟩ := takes
    rcases ownership with ⟨_, notView⟩ | ⟨viewed, _, _, _, moved⟩
    · rw [isView] at notView
      cases notView
    · rw [moved]
      exact OwnershipTracker.taken_store rfl

/-- A taken value stays taken through every statement other than a `set` of it. -/
theorem Step.taken_kept (step : Step before done after) (taken : before.ownership.Taken name) :
    after.ownership.Taken name ∨ ∃ target, target.value = name ∧
      (done.effect = .assign target ∨ done.effect = .update target) := by
  cases step with
  | quiet _ _ _ _ ownership => exact .inl (ownership ▸ taken)
  | declare _ fresh _ _ _ ownership => exact .inl (ownership ▸ taken.store (taken.ne_of_fresh fresh))
  | @set target effect targets _ _ _ =>
    by_cases same : target.value = name
    · exact .inr ⟨target, same, effect⟩
    left
    cases targets with
    | through _ _ _ _ unchanged => exact unchanged ▸ taken
    | direct _ _ _ assigned => exact assigned ▸ taken.store (Ne.symm same)
  | move _ _ found owned fresh _ _ ownership =>
    left
    rw [ownership]
    exact (taken.store (taken.ne_of_found found (by simp [owned]))).store (taken.ne_of_fresh fresh)
  | @borrow _ _ value _ _ found usable _ _ _ _ ownership =>
    have free : value.state ≠ .moved := by
      rcases usable with owned | ⟨_, shared⟩ <;> simp [*]
    exact .inl (ownership ▸ taken.store (taken.ne_of_found found free))
  | @view _ _ value _ _ found usable fresh _ _ _ ownership =>
    have free : value.state ≠ .moved := by
      rcases usable with owned | shared <;> simp [*]
    left
    rw [ownership]
    exact (taken.store (taken.ne_of_found found free)).store (taken.ne_of_fresh fresh)
  | @release _ held value _ _ found borrowed _ _ _ ownership =>
    have lent : value.state ≠ .moved := by
      split at borrowed <;> simp [borrowed]
    have released :
        (before.ownership.store held.owner (value.released held.mutable)).Taken name :=
      taken.store (taken.ne_of_found found lent)
    left
    rcases ownership with ⟨same, _⟩ | ⟨viewed, present, owned, _, moved⟩
    · exact same ▸ released
    · exact moved ▸ released.store (released.ne_of_found present (by simp [owned]))

/-- The only statements that follow a taken value into use are those that set it. -/
theorem Step.taken_cases (step : Step before done after)
    (disciplined : Disciplined before.ownership before.borrows) (taken : before.ownership.Taken name) :
    (after.ownership.Taken name ∧ ¬ done.ReadsValue name) ∨ done.Renews name ∨ done.Revives name := by
  rcases step.taken_kept taken with kept | ⟨target, reaches, assigned | updated⟩
  · left
    refine ⟨kept, ?_⟩
    rintro ⟨access, read, value⟩
    rcases step.reads_allowed read with allowed | allowed
    · exact taken.unread disciplined allowed value
    · exact kept.unread (step.disciplined disciplined) allowed value
  · right
    by_cases reads : done.ReadsValue name
    · exact .inr ⟨target, reaches, .inr ⟨assigned, reads⟩⟩
    · exact .inl ⟨target, assigned, reaches, reads⟩
  · exact .inr (.inr ⟨target, reaches, .inl updated⟩)

/-- A read of a taken value that no whole assignment precedes: a reviving `set`
comes before it, or it is one. -/
theorem Run.revived (run : Run before (between ++ reader :: later) after)
    (disciplined : Disciplined before.ownership before.borrows)
    (taken : before.ownership.Taken name) (reads : reader.ReadsValue name)
    (unrenewed : ∀ done ∈ between, ¬ done.Renews name) :
    reader.Revives name ∨ ∃ front reviver back, between = front ++ reviver :: back ∧
      reviver.Revives name := by
  induction between generalizing before with
  | nil =>
    cases run with
    | next step _ =>
      rcases step.taken_cases disciplined taken with ⟨_, unread⟩ | renews | revives
      · exact absurd reads unread
      · obtain ⟨_, _, _, unread⟩ := renews
        exact absurd reads unread
      · exact .inl revives
  | cons first rest ih =>
    cases run with
    | next step remaining =>
      rcases step.taken_cases disciplined taken with ⟨kept, _⟩ | renews | revives
      · rcases ih remaining (step.disciplined disciplined) kept
            fun done membership => unrenewed done (mem_cons_of_mem _ membership) with
          self | ⟨front, reviver, back, split, revives⟩
        · exact .inl self
        · exact .inr ⟨first :: front, reviver, back, by rw [split]; rfl, revives⟩
      · exact absurd renews (unrenewed first mem_cons_self)
      · exact .inr ⟨[], first, rest, rfl, revives⟩

/-- Use after move in accepted sources: the checks exclude it exactly as long as no
taken value is revived by a partial update, or by an assignment from itself, and
then read before a whole assignment. -/
theorem lowerValueSource_noUseAfterMove_iff {numerals : Numerals} {limits : ParserLimits}
    {source : List Char} {program : ProgramIR} {history : List Executed}
    (accepted : lowerValueSource numerals limits source = .ok (program, history)) :
    NoUseAfterMove history ↔ RevivedUnread history := by
  obtain ⟨last, run, _, _⟩ := lowerValueSource_run accepted
  constructor
  · intro unused earlier mover between reviver later name split takes unrenewed revives
    refine ⟨?_, ?_⟩
    · intro reads
      obtain ⟨renewer, membership, renews⟩ :=
        unused earlier mover between reviver later name split takes reads
      exact unrenewed renewer membership renews
    · rintro upTo reader rest rfl reads
      obtain ⟨renewer, membership, renews⟩ :=
        unused earlier mover (between ++ reviver :: upTo) reader rest name
          (by rw [split, append_assoc]; rfl) takes reads
      rw [mem_append, mem_cons] at membership
      rcases membership with inside | rfl | inside
      · exact absurd renews (unrenewed renewer inside)
      · exact absurd renews revives.not_renews
      · exact ⟨renewer, inside, renews⟩
  · rintro unread earlier mover between reader later name rfl takes reads
    by_contra missing
    have unrenewed : ∀ done ∈ between, ¬ done.Renews name :=
      fun done membership renews => missing ⟨done, membership, renews⟩
    obtain ⟨start, first, rest⟩ := run.split
    cases rest with
    | next step remaining =>
      have disciplined := step.disciplined (first.disciplined disciplined_empty)
      rcases remaining.revived disciplined (step.takes takes) reads unrenewed with
        self | ⟨front, reviver, back, rfl, revives⟩
      · exact (unread _ _ _ _ _ name rfl takes unrenewed self).1 reads
      obtain ⟨_, followed⟩ := unread earlier mover front reviver (back ++ reader :: later) name
        (by rw [append_assoc]; rfl) takes
        (fun done membership => unrenewed done (mem_append_left _ membership)) revives
      obtain ⟨renewer, membership, renews⟩ := followed back reader later rfl reads
      exact unrenewed renewer
        (mem_append_right _ (mem_cons_of_mem _ membership)) renews

/-- A moved value that is assigned anew and printed. -/
def renewedSource : List Char :=
  ("language shorthand.enterprise_language.v2; namespace n; owned int32 x = 1; " ++
    "move x to y; set x = y; print x;").toList

theorem renewedSource_noUseAfterMove :
    ∃ program history,
      lowerValueSource ⟨fun _ => none⟩ {} renewedSource = .ok (program, history) ∧
      history.map (fun done => (done.reads, done.effect)) =
        [([], .declare "x"), ([⟨"x", "x"⟩], .move "x" "y"), ([⟨"y", "y"⟩], .assign ⟨"x", "x"⟩),
          ([⟨"x", "x"⟩], .nothing)] ∧ NoUseAfterMove history := by
  obtain ⟨program, history, accepted, record⟩ := accepted_of_observed (show
    observed ⟨fun _ => none⟩ {} renewedSource =
      some [([], .declare "x"), ([⟨"x", "x"⟩], .move "x" "y"), ([⟨"y", "y"⟩], .assign ⟨"x", "x"⟩),
        ([⟨"x", "x"⟩], .nothing)] by decide +kernel)
  refine ⟨program, history, accepted, record, (lowerValueSource_noUseAfterMove_iff accepted).mpr ?_⟩
  -- the only `set` is of `x`, and it reads `y`
  have unrevived : ∀ done ∈ history, ∀ name, ¬ done.Revives name := by
    rintro done membership name ⟨target, reaches, revival⟩
    have entry : (done.reads, done.effect) ∈ history.map fun done => (done.reads, done.effect) :=
      mem_map_of_mem membership
    simp only [record, mem_cons, not_mem_nil, or_false, Prod.mk.injEq] at entry
    rcases revival with updated | ⟨assigned, access, read, value⟩
    · simp [updated] at entry
    simp only [assigned, reduceCtorEq, and_false, false_or, or_false, Effect.assign.injEq] at entry
    obtain ⟨reads, rfl⟩ := entry
    rw [reads] at read
    cases mem_singleton.mp read
    exact absurd (reaches.trans value.symm) (by decide)
  rintro earlier mover between reviver later name rfl _ _ revives
  exact absurd revives (unrevived reviver (by simp) name)

/-- A moved value that is assigned from itself: the target is owned again before
the right side is read. -/
def revivedSource : List Char :=
  ("language shorthand.enterprise_language.v2; namespace n; owned int32 x = 1; " ++
    "move x to y; set x = x;").toList

theorem revivedSource_usesAfterMove :
    ∃ program history,
      lowerValueSource ⟨fun _ => none⟩ {} revivedSource = .ok (program, history) ∧
        ¬ NoUseAfterMove history := by
  obtain ⟨program, history, accepted, record⟩ := accepted_of_observed (show
    observed ⟨fun _ => none⟩ {} revivedSource =
      some [([], .declare "x"), ([⟨"x", "x"⟩], .move "x" "y"),
        ([⟨"x", "x"⟩], .assign ⟨"x", "x"⟩)] by decide +kernel)
  refine ⟨program, history, accepted, ?_⟩
  intro unused
  obtain ⟨first, later, rfl, _, record⟩ := map_eq_cons_iff.mp record
  obtain ⟨mover, later, rfl, moves, record⟩ := map_eq_cons_iff.mp record
  obtain ⟨reader, later, rfl, reads, _⟩ := map_eq_cons_iff.mp record
  simp only [Prod.mk.injEq] at moves reads
  obtain ⟨renewer, membership, _⟩ := unused [first] mover [] reader later "x" rfl
    (by rw [moves.2]; rfl) ⟨⟨"x", "x"⟩, by rw [reads.1]; exact mem_singleton_self _, rfl⟩
  cases membership

end ShortHand.Enterprise
