import ShortHand.Enterprise.Runs

/-! Borrow exclusivity. The tracker's state of a value matches the borrows that the table holds
of it. -/

namespace ShortHand.Enterprise

open ShortHand.Library
open List (mem_cons mem_singleton)

abbrev BorrowTable := AList (fun _ : String => Borrow)

/-- The live borrows of a value. -/
def holders (borrows : BorrowTable) (owner : String) : List (Sigma fun _ : String => Borrow) :=
  borrows.entries.filter fun entry => entry.2.owner == owner

variable {tracker : OwnershipTracker} {borrows : BorrowTable} {handle owner other : String}
  {borrow : Borrow}

theorem mem_holders :
    (⟨handle, borrow⟩ : Sigma fun _ : String => Borrow) ∈ holders borrows owner ↔
      borrows.lookup handle = some borrow ∧ borrow.owner = owner := by
  rw [holders, List.mem_filter, ← AList.mem_lookup_iff, Option.mem_def, beq_iff_eq]

theorem holders_insert (unused : borrows.lookup handle = none) :
    holders (borrows.insert handle borrow) other =
      if borrow.owner = other then ⟨handle, borrow⟩ :: holders borrows other
      else holders borrows other := by
  rw [holders, AList.entries_insert_of_notMem (AList.lookup_eq_none.mp unused), List.filter_cons]
  simp only [beq_iff_eq]
  rfl

theorem holders_erase (known : borrows.lookup handle = some borrow) :
    (borrow.owner = other → ∃ front back, holders borrows other = front ++ ⟨handle, borrow⟩ :: back ∧
      holders (borrows.erase handle) other = front ++ back) ∧
    (borrow.owner ≠ other → holders (borrows.erase handle) other = holders borrows other) := by
  have member : handle ∈ borrows.entries.keys :=
    AList.lookup_isSome.mp (Option.isSome_of_eq_some known)
  obtain ⟨found, front, back, _, entries, erased⟩ := List.exists_of_kerase member
  have same : found = borrow := by
    have present : (⟨handle, found⟩ : Sigma fun _ : String => Borrow) ∈ borrows.entries := by
      rw [entries]
      simp
    rw [← AList.mem_lookup_iff, known] at present
    exact (Option.some.inj present).symm
  subst same
  have remaining : (borrows.erase handle).entries = front ++ back := erased
  constructor
  · intro owns
    refine ⟨front.filter fun entry => entry.2.owner == other,
      back.filter fun entry => entry.2.owner == other, ?_, ?_⟩
    · rw [holders, entries]
      simp [owns]
    · rw [holders, remaining, List.filter_append]
  · intro different
    rw [holders, holders, remaining, entries, List.filter_append, List.filter_append,
      List.filter_cons]
    simp [different]

/-- A value's snapshot against its live borrows. -/
inductive Holding : Option OwnershipSnapshot → List (Sigma fun _ : String => Borrow) → Prop where
  | undeclared : Holding none []
  | free {state : OwnershipState}
      (unborrowed : state ≠ .sharedBorrowed ∧ state ≠ .mutablyBorrowed) :
      Holding (some ⟨state, 0⟩) []
  | shared {count : Nat} {live : List (Sigma fun _ : String => Borrow)}
      (counted : count = live.length) (nonempty : live ≠ [])
      (allShared : ∀ entry ∈ live, entry.2.mutable = false) :
      Holding (some ⟨.sharedBorrowed, count⟩) live
  | mutable {handle : String} {borrow : Borrow} (exclusive : borrow.mutable = true) :
      Holding (some ⟨.mutablyBorrowed, 0⟩) [⟨handle, borrow⟩]

/-- Tracker and borrow table agree on every value. -/
def Disciplined (tracker : OwnershipTracker) (borrows : BorrowTable) : Prop :=
  ∀ name, Holding (tracker.snapshot name) (holders borrows name)

/-- A value in an unborrowed state has no live borrow. -/
theorem Holding.of_unborrowed (holding : Holding (some value) live)
    (unborrowed : value.state ≠ .sharedBorrowed ∧ value.state ≠ .mutablyBorrowed) :
    live = [] ∧ value.sharedBorrows = 0 := by
  cases holding with
  | free _ => exact ⟨rfl, rfl⟩
  | shared _ _ _ => exact absurd rfl unborrowed.1
  | mutable _ => exact absurd rfl unborrowed.2

/-- Storing an unborrowed state for a value without live borrows. -/
theorem Disciplined.storeFree (disciplined : Disciplined tracker borrows)
    (none_ : holders borrows owner = [])
    (unborrowed : state ≠ .sharedBorrowed ∧ state ≠ .mutablyBorrowed) :
    Disciplined (tracker.store owner ⟨state, 0⟩) borrows := by
  intro name
  rw [OwnershipTracker.snapshot_store]
  split
  · rename_i same
    rw [same, none_]
    exact .free unborrowed
  · exact disciplined name

theorem Disciplined.unheld_of_undeclared (disciplined : Disciplined tracker borrows)
    (fresh : tracker.snapshot owner = none) : holders borrows owner = [] := by
  have holding := disciplined owner
  rw [fresh] at holding
  generalize holders borrows owner = live at holding
  cases holding
  rfl

theorem Disciplined.unheld (disciplined : Disciplined tracker borrows)
    (found : tracker.snapshot owner = some value)
    (unborrowed : value.state ≠ .sharedBorrowed ∧ value.state ≠ .mutablyBorrowed) :
    holders borrows owner = [] ∧ value.sharedBorrows = 0 :=
  (found ▸ disciplined owner).of_unborrowed unborrowed

variable (borrow) in
/-- Borrowing an owned value, or sharing a shared one further. -/
theorem Disciplined.lend (disciplined : Disciplined tracker borrows)
    (unused : borrows.lookup handle = none) (found : tracker.snapshot borrow.owner = some value)
    (usable : value.state = .owned ∨ (borrow.mutable = false ∧ value.state = .sharedBorrowed)) :
    Disciplined (tracker.store borrow.owner (value.borrowed borrow.mutable))
      (borrows.insert handle borrow) := by
  intro name
  rw [OwnershipTracker.snapshot_store, holders_insert unused]
  by_cases same : name = borrow.owner
  · subst same
    rw [if_pos rfl, if_pos rfl]
    have holding := disciplined borrow.owner
    rw [found] at holding
    rcases usable with owned | ⟨isShared, shared⟩
    · obtain ⟨unheld, zero⟩ := disciplined.unheld found (by simp [owned])
      rw [unheld, OwnershipSnapshot.borrowed]
      cases mode : borrow.mutable with
      | true =>
        simp only [if_true, zero]
        exact .mutable mode
      | false =>
        simp only [Bool.false_eq_true, if_false, zero]
        exact .shared rfl (by simp) (by simpa using mode)
    · generalize holders borrows borrow.owner = live at holding
      cases holding with
      | free unborrowed => exact absurd shared unborrowed.1
      | mutable _ => cases shared
      | shared counted nonempty allShared =>
        rw [OwnershipSnapshot.borrowed, isShared]
        refine .shared (by simp [counted]) (by simp) ?_
        intro entry membership
        rcases mem_cons.mp membership with rfl | later
        · exact isShared
        · exact allShared entry later
  · rw [if_neg same, if_neg (Ne.symm same)]
    exact disciplined name

/-- Releasing one borrow of its owner. -/
theorem Disciplined.release (disciplined : Disciplined tracker borrows)
    {value : OwnershipSnapshot} (known : borrows.lookup handle = some borrow)
    (found : tracker.snapshot borrow.owner = some value) :
    Disciplined (tracker.store borrow.owner (value.released borrow.mutable))
      (borrows.erase handle) := by
  intro name
  rw [OwnershipTracker.snapshot_store]
  by_cases same : name = borrow.owner
  · subst same
    rw [if_pos rfl]
    obtain ⟨front, back, before, after⟩ := (holders_erase known).1 rfl
    have holding := disciplined borrow.owner
    rw [found, before] at holding
    rw [after]
    generalize whole : front ++ ⟨handle, borrow⟩ :: back = live at holding
    cases holding with
    | free _ => simp at whole
    | mutable exclusive =>
      cases front with
      | nil =>
        simp only [List.nil_append, List.cons.injEq] at whole
        obtain ⟨entry, rfl⟩ := whole
        cases entry
        simp only [OwnershipSnapshot.released, exclusive, if_true]
        exact .free (by simp)
      | cons entry rest => simp at whole
    | @shared count _ counted nonempty allShared =>
      subst whole
      have isShared : borrow.mutable = false := allShared ⟨handle, borrow⟩ (by simp)
      have fewer : count - 1 = (front ++ back).length := by
        simp only [counted, List.length_append, List.length_cons]
        omega
      simp only [OwnershipSnapshot.released, isShared, Bool.false_eq_true, if_false, fewer]
      by_cases empty : front ++ back = []
      · rw [empty]
        exact .free (by simp)
      rw [if_neg (by simpa [List.length_eq_zero_iff] using empty)]
      refine .shared rfl empty ?_
      intro entry membership
      apply allShared
      rcases List.mem_append.mp membership with earlier | later
      · exact List.mem_append_left _ earlier
      · exact List.mem_append_right _ (List.mem_cons_of_mem _ later)
  · rw [if_neg same, (holders_erase known).2 (Ne.symm same)]
    exact disciplined name

/-- Every accepted statement keeps tracker and table in agreement. -/
theorem Step.disciplined (step : Step before done after)
    (disciplined : Disciplined before.ownership before.borrows) :
    Disciplined after.ownership after.borrows := by
  cases step with
  | quiet _ _ _ borrows ownership =>
    rwa [ownership, borrows]
  | declare _ fresh _ _ borrows ownership =>
    rw [ownership, borrows]
    exact disciplined.storeFree (disciplined.unheld_of_undeclared fresh) (by simp)
  | set _ targets _ _ borrows =>
    rw [borrows]
    cases targets with
    | through _ _ _ _ same =>
      rwa [same]
    | direct _ found free assigned =>
      rw [assigned]
      exact disciplined.storeFree (disciplined.unheld found free).1 (by simp)
  | @move owner name value _ _ found owned fresh _ borrows ownership =>
    obtain ⟨unheld, zero⟩ := disciplined.unheld found (by simp [owned])
    have moved : Disciplined (before.ownership.store owner { value with state := .moved })
        before.borrows := by
      rw [zero]
      exact disciplined.storeFree unheld (by simp)
    rw [ownership, borrows]
    exact moved.storeFree (disciplined.unheld_of_undeclared fresh) (by simp)
  | borrow _ unused found usable _ _ _ borrows ownership =>
    rw [ownership, borrows]
    exact disciplined.lend _ unused found usable
  | @view handle owner value _ unused found usable fresh _ _ borrows ownership =>
    have lent : Disciplined (before.ownership.store owner (value.borrowed false))
        (before.borrows.insert handle ⟨owner, false, true⟩) :=
      disciplined.lend ⟨owner, false, true⟩ unused found (usable.imp_right fun shared => ⟨rfl, shared⟩)
    have different : owner ≠ handle := by
      rintro rfl
      cases found.symm.trans fresh
    rw [ownership, borrows]
    refine lent.storeFree ?_ (by simp)
    rw [holders_insert unused, if_neg different]
    exact disciplined.unheld_of_undeclared fresh
  | release _ known found _ _ _ borrows ownership =>
    have released := disciplined.release known found
    rw [borrows]
    rcases ownership with ⟨same, _⟩ | ⟨viewed, present, owned, _, moved⟩
    · rwa [same]
    · obtain ⟨unheld, zero⟩ := released.unheld present (by simp [owned])
      rw [moved, zero]
      exact released.storeFree unheld (by simp)

theorem Run.disciplined (run : Run before history after)
    (disciplined : Disciplined before.ownership before.borrows) :
    Disciplined after.ownership after.borrows := by
  induction run with
  | done => exact disciplined
  | next step _ ih => exact ih (step.disciplined disciplined)

theorem disciplined_empty : Disciplined {} ∅ := by
  intro name
  exact .undeclared

/-- The values a statement writes, gives away or brings into being, each with the
name that reaches it. -/
def Effect.writes : Effect → List Access
  | .nothing | .release _ _ => []
  | .declare name => [⟨name, name⟩]
  | .assign target | .update target => [target]
  | .move owner name => [⟨owner, owner⟩, ⟨name, name⟩]
  | .borrow handle borrow => if borrow.view then [⟨handle, handle⟩] else []

theorem Step.stores_written {before after : Env} (step : Step before done after)
    {statement : Statement} (emitted : statement ∈ done.emitted)
    (stores : statement.stores = some name) :
    ∃ access ∈ done.effect.writes, access.value = name := by
  cases step with
  | quiet _ _ silent _ _ => simp [silent _ emitted] at stores
  | declare effect _ _ kept _ _ | view effect _ _ _ _ _ kept _ _ =>
    cases (kept _ emitted).symm.trans stores
    exact ⟨_, by rw [effect]; exact List.mem_singleton_self _, rfl⟩
  | @set target effect _ _ kept _ =>
    cases (kept _ emitted).symm.trans stores
    refine ⟨target, ?_, rfl⟩
    rcases effect with effect | effect <;> rw [effect] <;> exact List.mem_singleton_self _
  | move effect _ _ _ _ kept _ _ =>
    cases (kept _ emitted).symm.trans stores
    exact ⟨_, by rw [effect]; exact List.mem_cons_of_mem _ (List.mem_singleton_self _), rfl⟩
  | borrow _ _ _ _ _ _ silent _ _ | release _ _ _ _ _ silent _ _ => simp [silent] at emitted

/-- A known borrow is among the live ones of its owner. -/
theorem Disciplined.holding (disciplined : Disciplined tracker borrows)
    (known : borrows.lookup handle = some borrow) :
    ∃ live, Holding (tracker.snapshot borrow.owner) live ∧ ⟨handle, borrow⟩ ∈ live ∧
      ∀ other held, borrows.lookup other = some held → held.owner = borrow.owner →
        ⟨other, held⟩ ∈ live :=
  ⟨_, disciplined borrow.owner, mem_holders.mpr ⟨known, rfl⟩,
    fun _ _ present owns => mem_holders.mpr ⟨present, owns⟩⟩

/-- The owner's snapshot under a live shared borrow. -/
theorem Disciplined.of_shared (disciplined : Disciplined tracker borrows)
    (known : borrows.lookup handle = some borrow) (isShared : borrow.mutable = false) :
    ∃ count, tracker.snapshot borrow.owner = some ⟨.sharedBorrowed, count⟩ ∧
      ∀ other held, borrows.lookup other = some held → held.owner = borrow.owner →
        held.mutable = false := by
  obtain ⟨live, holding, member, others⟩ := disciplined.holding known
  generalize tracker.snapshot borrow.owner = snapshot at holding
  cases holding with
  | undeclared => cases member
  | free _ => cases member
  | mutable exclusive =>
    cases mem_singleton.mp member
    rw [isShared] at exclusive
    cases exclusive
  | @shared count _ _ _ allShared =>
    exact ⟨count, rfl, fun other held present owns => allShared _ (others other held present owns)⟩

/-- The owner's snapshot under a live mutable borrow, which is the only one. -/
theorem Disciplined.of_mutable (disciplined : Disciplined tracker borrows)
    (known : borrows.lookup handle = some borrow) (exclusive : borrow.mutable = true) :
    tracker.snapshot borrow.owner = some ⟨.mutablyBorrowed, 0⟩ ∧
      ∀ other held, borrows.lookup other = some held → held.owner = borrow.owner →
        other = handle := by
  obtain ⟨live, holding, member, others⟩ := disciplined.holding known
  generalize tracker.snapshot borrow.owner = snapshot at holding
  cases holding with
  | undeclared => cases member
  | free _ => cases member
  | shared _ _ allShared =>
    have isShared := allShared _ member
    rw [exclusive] at isShared
    cases isShared
  | mutable _ =>
    cases mem_singleton.mp member
    refine ⟨rfl, ?_⟩
    intro other held present owns
    cases mem_singleton.mp (others other held present owns)
    rfl

/-- Under a mutable borrow every permitted read of the owner uses the handle. -/
theorem Env.Allows.through_handle {env : Env} (allowed : env.Allows access)
    (disciplined : Disciplined env.ownership env.borrows)
    (known : env.borrows.lookup handle = some borrow) (exclusive : borrow.mutable = true)
    (reaches : access.value = borrow.owner) : access.via = handle := by
  obtain ⟨lent, only⟩ := disciplined.of_mutable known exclusive
  cases allowed with
  | through found _ owns => exact only _ _ found (owns.trans reaches)
  | direct _ found usable =>
    rw [reaches] at found
    cases lent.symm.trans found
    simp at usable

/-- What a statement owes to a live borrow. -/
structure Executed.Respects (done : Executed) (handle : String) (borrow : Borrow) : Prop where
  unreleased : ∀ released, done.effect ≠ .release handle released
  shared : borrow.mutable = false →
    (∀ access ∈ done.effect.writes, access.value ≠ borrow.owner) ∧
      ∀ statement ∈ done.emitted, statement.stores ≠ some borrow.owner
  exclusive : borrow.mutable = true →
    (∀ access ∈ done.reads ++ done.effect.writes, access.value = borrow.owner →
      access.via = handle)

section Windows

variable {before after : Env} {done : Executed}

/-- A written value is new, unborrowed, or reached through a mutable borrow. -/
theorem Step.writes_permitted (step : Step before done after)
    (written : access ∈ done.effect.writes) :
    before.snapshot access.value = none ∨
      (∃ value, before.snapshot access.value = some value ∧
        value.state ≠ .sharedBorrowed ∧ value.state ≠ .mutablyBorrowed) ∨
      ∃ held, before.borrows.lookup access.via = some held ∧ held.mutable = true ∧
        held.owner = access.value := by
  cases step with
  | quiet effect _ _ _ _ => simp [effect, Effect.writes] at written
  | declare effect fresh _ _ _ _ | view effect _ _ _ fresh _ _ _ _ =>
    rw [effect] at written
    cases mem_singleton.mp written
    exact .inl fresh
  | @set target effect targets _ _ _ =>
    have same : access = target := by
      rcases effect with effect | effect <;> rw [effect] at written <;>
        exact mem_singleton.mp written
    subst same
    cases targets with
    | through found _ isMutable owns _ => exact .inr (.inr ⟨_, found, isMutable, owns⟩)
    | direct _ found free _ => exact .inr (.inl ⟨_, found, free⟩)
  | move effect _ found owned fresh _ _ _ =>
    rw [effect, Effect.writes, mem_cons, mem_singleton] at written
    rcases written with rfl | rfl
    · exact .inr (.inl ⟨_, found, by simp [owned]⟩)
    · exact .inl fresh
  | borrow effect _ _ _ handleOnly _ _ _ _ => simp [effect, Effect.writes, handleOnly] at written
  | release effect _ _ _ _ _ _ _ => simp [effect, Effect.writes] at written

theorem Step.reads_allowed (step : Step before done after) (read : access ∈ done.reads) :
    before.Allows access ∨ after.Allows access := by
  cases step with
  | quiet _ reads _ _ _ | view _ _ _ _ _ reads _ _ _ => exact .inl (reads _ read)
  | declare _ _ reads _ _ _ => exact reads _ read
  | set _ _ reads _ _ => exact .inr (reads _ read)
  | move _ reads found owned _ _ _ _ =>
    rw [reads] at read
    cases mem_singleton.mp read
    exact .inl (.direct rfl found (.inl owned))
  | borrow _ _ _ _ _ reads _ _ _ | release _ _ _ _ reads _ _ _ => simp [reads] at read

/-- A live borrow stays in the table until its own release. -/
theorem Step.borrow_kept (step : Step before done after)
    (known : before.borrows.lookup handle = some borrow) :
    done.effect = .release handle borrow ∨
      (∀ released, done.effect ≠ .release handle released) ∧
        after.borrows.lookup handle = some borrow := by
  have inserted : ∀ {other : String} {held : Borrow}, before.borrows.lookup other = none →
      (before.borrows.insert other held).lookup handle = some borrow := by
    intro other held unused
    rw [AList.lookup_insert_ne, known]
    rintro rfl
    cases known.symm.trans unused
  cases step with
  | quiet effect _ _ borrows _ | declare effect _ _ _ borrows _ | move effect _ _ _ _ _ borrows _ =>
    exact .inr ⟨by simp [effect], borrows ▸ known⟩
  | set effect _ _ _ borrows =>
    refine .inr ⟨?_, borrows ▸ known⟩
    rcases effect with effect | effect <;> simp [effect]
  | borrow effect unused _ _ _ _ _ borrows _ | view effect unused _ _ _ _ _ borrows _ =>
    exact .inr ⟨by simp [effect], borrows ▸ inserted unused⟩
  | @release other held _ effect found _ _ _ _ borrows _ =>
    by_cases same : other = handle
    · subst same
      cases known.symm.trans found
      exact .inl effect
    · refine .inr ⟨?_, ?_⟩
      · intro released
        simp [effect, same]
      · rw [borrows, AList.lookup_erase_ne (Ne.symm same), known]

/-- Between its creation and its release a borrow is respected by every statement. -/
theorem Step.respects (step : Step before done after)
    (disciplined : Disciplined before.ownership before.borrows)
    (known : before.borrows.lookup handle = some borrow) :
    done.effect = .release handle borrow ∨
      done.Respects handle borrow ∧ after.borrows.lookup handle = some borrow := by
  refine (step.borrow_kept known).imp_right ?_
  rintro ⟨unreleased, kept⟩
  refine ⟨⟨unreleased, ?_, ?_⟩, kept⟩
  · intro isShared
    obtain ⟨count, lent, others⟩ := disciplined.of_shared known isShared
    have unwritten : ∀ access ∈ done.effect.writes, access.value ≠ borrow.owner := by
      intro access written reaches
      have permitted := step.writes_permitted written
      rw [reaches] at permitted
      rcases permitted with undeclared | ⟨value, found, free⟩ | ⟨held, found, isMutable, owns⟩
      · cases lent.symm.trans undeclared
      · cases lent.symm.trans found
        exact free.1 rfl
      · rw [others _ held found owns] at isMutable
        cases isMutable
    refine ⟨unwritten, ?_⟩
    intro statement emitted stores
    obtain ⟨access, written, reaches⟩ := step.stores_written emitted stores
    exact unwritten access written reaches
  · intro exclusive access used reaches
    rcases List.mem_append.mp used with read | written
    · rcases step.reads_allowed read with allowed | allowed
      · exact allowed.through_handle disciplined known exclusive reaches
      · exact allowed.through_handle (step.disciplined disciplined) kept exclusive reaches
    · obtain ⟨lent, only⟩ := disciplined.of_mutable known exclusive
      rcases step.writes_permitted written with undeclared | ⟨value, found, free⟩ |
        ⟨held, found, _, owns⟩
      · rw [reaches] at undeclared
        cases lent.symm.trans undeclared
      · rw [reaches] at found
        cases lent.symm.trans found
        exact absurd rfl free.2
      · exact only _ held found (owns.trans reaches)

/-- A live borrow of a run that ends without it: the run releases it, and every
statement before that respects it. -/
theorem Run.released (run : Run before history after)
    (disciplined : Disciplined before.ownership before.borrows)
    (known : before.borrows.lookup handle = some borrow)
    (gone : after.borrows.lookup handle = none) :
    ∃ window releaser rest, history = window ++ releaser :: rest ∧
      releaser.effect = .release handle borrow ∧ ∀ done ∈ window, done.Respects handle borrow := by
  induction run with
  | done => cases known.symm.trans gone
  | @next _ _ _ first later step _ ih =>
    rcases step.respects disciplined known with released | ⟨respects, kept⟩
    · exact ⟨[], first, later, rfl, released, by simp⟩
    obtain ⟨window, releaser, rest, same, released, respected⟩ :=
      ih (step.disciplined disciplined) kept gone
    refine ⟨first :: window, releaser, rest, by rw [same]; rfl, released, ?_⟩
    intro done membership
    rcases mem_cons.mp membership with rfl | later
    · exact respects
    · exact respected done later

/-- The statement that creates a borrow enters it in the table. -/
theorem Step.borrow_entered (step : Step before done after)
    (effect : done.effect = .borrow handle borrow) :
    after.borrows.lookup handle = some borrow := by
  cases step with
  | quiet other _ _ _ _ | declare other _ _ _ _ _ | move other _ _ _ _ _ _ _
  | release other _ _ _ _ _ _ _ => cases other.symm.trans effect
  | set other _ _ _ _ => rcases other with other | other <;> cases other.symm.trans effect
  | borrow other _ _ _ _ _ _ borrows _ | view other _ _ _ _ _ _ borrows _ =>
    cases other.symm.trans effect
    rw [borrows, AList.lookup_insert]

end Windows

/-- Borrow exclusivity. In an accepted source every borrow and every slice view
is released, and up to that release each statement respects it: nothing assigns,
updates or moves the owner of a shared borrow, and the owner of a mutable one is
read and written through its handle only. -/
theorem lowerValueSource_respects_borrows {numerals : Numerals} {limits : ParserLimits}
    {source : List Char} {program : ProgramIR} {history : List Executed}
    (accepted : lowerValueSource numerals limits source = .ok (program, history)) :
    program.body = history.flatMap Executed.emitted ∧
      ∀ earlier creator later handle borrow, history = earlier ++ creator :: later →
        creator.effect = .borrow handle borrow →
        ∃ window releaser rest, later = window ++ releaser :: rest ∧
          releaser.effect = .release handle borrow ∧
          ∀ done ∈ window, done.Respects handle borrow := by
  obtain ⟨last, run, released, body⟩ := lowerValueSource_run accepted
  refine ⟨body, ?_⟩
  rintro earlier creator later handle borrow rfl effect
  obtain ⟨start, before, rest⟩ := run.split
  cases rest with
  | next step remaining =>
    have disciplined := before.disciplined disciplined_empty
    refine remaining.released (step.disciplined disciplined) (step.borrow_entered effect) ?_
    have empty : last.borrows = ∅ := AList.ext released
    rw [empty, AList.lookup_empty]

/-- A value that is written and printed through a mutable borrow. -/
def lentSource : List Char :=
  ("language shorthand.enterprise_language.v2; namespace n; owned int32 x = 1; " ++
    "borrow mutable x as h; set h = 2; print h; release h; print x;").toList

theorem lentSource_respects_borrow :
    ∃ program history, lowerValueSource ⟨fun _ => none⟩ {} lentSource = .ok (program, history) ∧
      history.map (fun done => (done.reads, done.effect)) =
        [([], .declare "x"), ([], .borrow "h" ⟨"x", true, false⟩), ([], .assign ⟨"x", "h"⟩),
          ([⟨"x", "h"⟩], .nothing), ([], .release "h" ⟨"x", true, false⟩),
          ([⟨"x", "x"⟩], .nothing)] ∧
      ∀ earlier creator later handle borrow, history = earlier ++ creator :: later →
        creator.effect = .borrow handle borrow →
        ∃ window releaser rest, later = window ++ releaser :: rest ∧
          releaser.effect = .release handle borrow ∧
          ∀ done ∈ window, done.Respects handle borrow := by
  refine (accepted_of_observed ?_).imp fun _ => Exists.imp fun _ lowered =>
    ⟨lowered.1, lowered.2, (lowerValueSource_respects_borrows lowered.1).2⟩
  decide +kernel

end ShortHand.Enterprise
