import ShortHand.Enterprise.Discipline

/-! The parser implements `Step`: one accepted statement as a transition of the two tables. -/

namespace ShortHand.Enterprise

open ShortHand.Library
open OwnershipTracker (snapshot_store store_store transition_ok)

/-- What borrowing makes of the owner's snapshot. -/
def OwnershipSnapshot.borrowed (value : OwnershipSnapshot) (mutable : Bool) : OwnershipSnapshot :=
  if mutable then { value with state := .mutablyBorrowed }
  else ⟨.sharedBorrowed, value.sharedBorrows + 1⟩

/-- What releasing makes of it. -/
def OwnershipSnapshot.released (value : OwnershipSnapshot) (mutable : Bool) : OwnershipSnapshot :=
  if mutable then { value with state := .owned }
  else ⟨if value.sharedBorrows - 1 = 0 then .owned else .sharedBorrowed, value.sharedBorrows - 1⟩

inductive Step (before : Env) (done : Executed) (after : Env) : Prop where
  | quiet (effect : done.effect = .nothing)
      (reads : ∀ access ∈ done.reads, before.Allows access)
      (stores : ∀ statement ∈ done.emitted, statement.stores = none)
      (borrows : after.borrows = before.borrows)
      (ownership : after.ownership = before.ownership)
  | declare {name : String} (effect : done.effect = .declare name)
      (fresh : before.snapshot name = none)
      (reads : ∀ access ∈ done.reads, before.Allows access ∨ after.Allows access)
      (stores : ∀ statement ∈ done.emitted, statement.stores = some name)
      (borrows : after.borrows = before.borrows)
      (ownership : after.ownership = before.ownership.store name ⟨.owned, 0⟩)
  | set {target : Access} (effect : done.effect = .assign target ∨ done.effect = .update target)
      (targets : before.Targets target after.ownership)
      (reads : ∀ access ∈ done.reads, after.Allows access)
      (stores : ∀ statement ∈ done.emitted, statement.stores = some target.value)
      (borrows : after.borrows = before.borrows)
  | move {owner name : String} {value : OwnershipSnapshot}
      (effect : done.effect = .move owner name) (reads : done.reads = [⟨owner, owner⟩])
      (found : before.snapshot owner = some value) (owned : value.state = .owned)
      (fresh : before.snapshot name = none)
      (stores : ∀ statement ∈ done.emitted, statement.stores = some name)
      (borrows : after.borrows = before.borrows)
      (ownership : after.ownership =
        (before.ownership.store owner { value with state := .moved }).store name ⟨.owned, 0⟩)
  | borrow {handle : String} {borrow : Borrow} {value : OwnershipSnapshot}
      (effect : done.effect = .borrow handle borrow)
      (unused : before.borrows.lookup handle = none)
      (found : before.snapshot borrow.owner = some value)
      (usable : value.state = .owned ∨ (borrow.mutable = false ∧ value.state = .sharedBorrowed))
      (handleOnly : borrow.view = false) (reads : done.reads = []) (stores : done.emitted = [])
      (borrows : after.borrows = before.borrows.insert handle borrow)
      (ownership : after.ownership =
        before.ownership.store borrow.owner (value.borrowed borrow.mutable))
  | view {handle owner : String} {value : OwnershipSnapshot}
      (effect : done.effect = .borrow handle ⟨owner, false, true⟩)
      (unused : before.borrows.lookup handle = none)
      (found : before.snapshot owner = some value)
      (usable : value.state = .owned ∨ value.state = .sharedBorrowed)
      (fresh : before.snapshot handle = none)
      (reads : ∀ access ∈ done.reads, before.Allows access)
      (stores : ∀ statement ∈ done.emitted, statement.stores = some handle)
      (borrows : after.borrows = before.borrows.insert handle ⟨owner, false, true⟩)
      (ownership : after.ownership =
        (before.ownership.store owner (value.borrowed false)).store handle ⟨.owned, 0⟩)
  | release {handle : String} {borrow : Borrow} {value : OwnershipSnapshot}
      (effect : done.effect = .release handle borrow)
      (known : before.borrows.lookup handle = some borrow)
      (found : before.snapshot borrow.owner = some value)
      (borrowed : if borrow.mutable then value.state = .mutablyBorrowed
        else value.state = .sharedBorrowed)
      (reads : done.reads = []) (stores : done.emitted = [])
      (borrows : after.borrows = before.borrows.erase handle)
      (ownership : after.ownership =
          before.ownership.store borrow.owner (value.released borrow.mutable) ∧
          borrow.view = false ∨
        ∃ viewed, (before.ownership.store borrow.owner (value.released borrow.mutable)).snapshot
            handle = some viewed ∧ viewed.state = .owned ∧ borrow.view = true ∧
          after.ownership = (before.ownership.store borrow.owner
            (value.released borrow.mutable)).store handle { viewed with state := .moved })

/-- An accepted statement that started at `tokens`: the transition, progress in
the text, and the statements it appended to the program. -/
structure Accepted (parser : Parser) (tokens : List Token) (done : Executed) (after : Parser) :
    Prop where
  step : Step parser.env done after.env
  shorter : after.tokens.length < tokens.length
  body : after.program.body = parser.program.body ++ done.emitted

/-- The same of what a parser returns. -/
abbrev Parser.Takes (parser : Parser) (tokens : List Token) (result : Parser × Executed) : Prop :=
  Accepted parser tokens result.2 result.1

variable {numerals : Numerals} {parser after : Parser} {tokens : List Token} {done : Executed}
  {line : Nat}

/-- What entering a fresh value makes of the parser. -/
structure Entered (parser : Parser) (name : String) (after : Parser) : Prop where
  fresh : parser.env.snapshot name = none
  borrows : after.env.borrows = parser.env.borrows
  ownership : after.env.ownership = parser.env.ownership.store name ⟨.owned, 0⟩
  tokens : after.tokens = parser.tokens

theorem declareValue_ok :
    Yields (fun after => Entered parser v.name after ∧ after.program.body = parser.program.body)
      (declareValue parser v) := by
  intro after accepted
  obtain ⟨declared, fresh, accepted⟩ := bind_eq_ok.mp accepted
  obtain ⟨initialized, owned, accepted⟩ := bind_eq_ok.mp accepted
  cases accepted
  obtain ⟨absent, stored⟩ := OwnershipTracker.declareValue_ok fresh
  obtain ⟨value, _, _, changed⟩ := transition_ok owned
  refine ⟨⟨absent, rfl, ?_, rfl⟩, rfl⟩
  rw [changed, stored, store_store]

theorem addValue_ok :
    Yields (fun result => Entered parser v.name result.1 ∧ parser.env.borrows.lookup v.name = none ∧
      result.1.program.body = parser.program.body ++ result.2 ∧
      ∀ statement ∈ result.2, statement.stores = some v.name) (addValue parser v init) := by
  unfold addValue
  split
  · exact .error
  rename_i unused
  refine (checked_yields declareValue_ok).bind fun declared ⟨entered, body⟩ => .ok ⟨?_, ?_, ?_, ?_⟩
  · exact { entered with }
  · simp only [Bool.or_eq_true, not_or, Bool.not_eq_true, Option.isSome_eq_false_iff,
      Option.isNone_iff_eq_none] at unused
    exact unused.2
  · simp only [append, body]
  · exact List.forall_mem_singleton.mpr rfl

theorem payload_length :
    Yields (fun result => result.2.length < tokens.length) (payload kind tokens) := by
  refine expect_length.bind fun opened openLength => ?_
  refine takeName_length.bind fun ⟨first, named⟩ nameLength => ?_
  dsimp only at nameLength ⊢
  split
  · exact .error
  split
  · refine expect_length.bind fun separated commaLength => ?_
    refine takeName_length.bind fun ⟨second, others⟩ otherLength => ?_
    split
    · exact .error
    · refine expect_length.bind fun closed closeLength => .ok ?_
      dsimp only
      omega
  · refine expect_length.bind fun closed closeLength => .ok ?_
    dsimp only
    omega

theorem memberType_length :
    Yields (fun result => result.2.length ≤ tokens.length) (memberType isRecord tokens) := by
  unfold memberType
  split
  · refine takeName_length.bind fun ⟨name, named⟩ nameLength => ?_
    dsimp only
    split
    · exact .error
    · exact .ok (Nat.le_of_lt nameLength)
  · exact .ok (Nat.le_refl _)

theorem members_length :
    Yields (fun result => result.2.length < tokens.length) (members isRecord room tokens) := by
  induction room generalizing tokens with
  | zero =>
    rw [members]
    split
    · exact .ok (take_length ‹_›)
    · exact .error
  | succ room ih =>
    rw [members]
    split
    · exact .ok (take_length ‹_›)
    refine memberType_length.bind fun ⟨type, typed⟩ typeLength => ?_
    refine takeName_length.bind fun ⟨field, named⟩ nameLength => ?_
    refine expect_length.bind fun ended endLength => ?_
    refine ih.bind fun ⟨later, last⟩ restLength => .ok ?_
    dsimp only at typeLength nameLength endLength restLength ⊢
    omega

theorem declarationBody_length :
    Yields (fun result => result.2.length < tokens.length) (declarationBody kind tokens) := by
  unfold declarationBody
  split
  · refine expect_length.bind fun opened openLength => ?_
    refine members_length.bind fun ⟨entries, last⟩ listed => .ok ?_
    exact Nat.lt_trans listed openLength
  · exact payload_length

theorem declaration_accepted : Yields (parser.Takes tokens) (declaration parser kind tokens) := by
  refine takeName_length.bind fun ⟨name, named⟩ nameLength => ?_
  dsimp only at nameLength ⊢
  split
  · exact .error
  refine declarationBody_length.bind fun ⟨body, closed⟩ bodyLength => ?_
  refine .after fun _ => ?_
  refine expect_length.bind fun ended endLength => .ok ?_
  refine ⟨.quiet rfl nofun nofun rfl rfl, ?_, (List.append_nil _).symm⟩
  dsimp only at bodyLength endLength ⊢
  omega

theorem ownedStatement_accepted : Yields (parser.Takes tokens) (ownedStatement numerals parser line tokens) := by
  refine takeName_length.bind fun ⟨typeName, typed⟩ typeLength => ?_
  refine .after fun ⟨type, composite⟩ => ?_
  refine takeName_length.bind fun ⟨name, named⟩ nameLength => ?_
  refine expect_length.bind fun equated equalLength => ?_
  refine expression_sound.yields.bind fun ⟨init, reads, valued⟩ ⟨allowed, shorter⟩ => ?_
  refine expect_length.bind fun ended endLength => ?_
  dsimp only at typeLength nameLength equalLength shorter endLength ⊢
  split
  · exact .error
  refine addValue_ok.bind fun ⟨last, emitted⟩ ⟨entered, _, body, stores⟩ => .ok ?_
  refine ⟨.declare rfl entered.fresh (fun access read => .inl (allowed access read)) stores
    entered.borrows entered.ownership, ?_, body⟩
  rw [entered.tokens]
  dsimp only
  omega

theorem arrayElements_sound :
    Yields (fun result => env.Reads tokens result ∧
      ∀ statement ∈ result.1, statement.stores = some v.name)
      (arrayElements numerals env v count index tokens) := by
  induction count generalizing index tokens with
  | zero => exact .ok ⟨⟨nofun, Nat.le_refl _⟩, nofun⟩
  | succ count ih =>
    refine separator_length.bind fun separated start => ?_
    refine expression_sound.yields.bind fun ⟨init, first, valued⟩ ⟨allowed, shorter⟩ => ?_
    refine ih.bind fun ⟨others, later, last⟩ ⟨⟨allowedLater, shorterLater⟩, stores⟩ => .ok ?_
    refine ⟨⟨List.forall_mem_append.mpr ⟨allowed, allowedLater⟩, ?_⟩,
      List.forall_mem_cons.mpr ⟨rfl, stores⟩⟩
    dsimp only at shorter shorterLater ⊢
    omega

theorem arrayStatement_accepted : Yields (parser.Takes tokens) (arrayStatement numerals parser line tokens) := by
  refine takeName_length.bind fun ⟨typeName, typed⟩ typeLength => ?_
  refine takeName_length.bind fun ⟨name, named⟩ nameLength => ?_
  refine expect_length.bind fun opened openLength => ?_
  refine expression_sound.yields.bind fun ⟨extent, extentReads, sized⟩ ⟨allowed, shorter⟩ => ?_
  refine expect_length.bind fun closed closeLength => ?_
  dsimp only at typeLength nameLength openLength shorter closeLength ⊢
  split
  · exact .error
  split
  · exact .error
  refine expect_length.bind fun equated equalLength => ?_
  refine expect_length.bind fun listed listLength => ?_
  split
  · exact .error
  refine (checked_yields declareValue_ok).bind fun declared ⟨entered, body⟩ => ?_
  refine arrayElements_sound.bind fun ⟨emitted, reads, filled⟩ ⟨⟨later, short⟩, stores⟩ => ?_
  refine expect_length.bind fun unlisted unlistLength => ?_
  refine expect_length.bind fun ended endLength => .ok ?_
  refine ⟨.declare rfl entered.fresh ?_ stores entered.borrows entered.ownership, ?_, ?_⟩
  · -- The extent is read before the array exists, its elements afterwards.
    exact List.forall_mem_append.mpr
      ⟨fun access read => .inl (allowed access read), fun access read => .inr (later access read)⟩
  · dsimp only [append] at short unlistLength ⊢
    omega
  · simp only [append, body]

/-- A value that is fresh after another was stored was fresh before. -/
theorem fresh_of_store {tracker : OwnershipTracker}
    (fresh : (tracker.store owner value).snapshot name = none) : tracker.snapshot name = none := by
  rw [snapshot_store] at fresh
  split at fresh
  · cases fresh
  · exact fresh

theorem viewStatement_accepted : Yields (parser.Takes tokens) (viewStatement numerals parser line tokens) := by
  refine takeName_length.bind fun ⟨typeName, typed⟩ typeLength => ?_
  dsimp only at typeLength ⊢
  split
  · exact .error
  split
  · exact .error
  refine takeName_length.bind fun ⟨name, named⟩ nameLength => ?_
  refine expect_length.bind fun equated equalLength => ?_
  refine takeName_length.bind fun ⟨owner, owned⟩ ownerLength => ?_
  refine expect_length.bind fun opened openLength => ?_
  refine expression_sound.yields.bind fun ⟨offset, offsetReads, placed⟩ ⟨inOffset, first⟩ => ?_
  refine expect_length.bind fun separated commaLength => ?_
  refine expression_sound.yields.bind fun ⟨length, lengthReads, sized⟩ ⟨inLength, second⟩ => ?_
  refine expect_length.bind fun closed closeLength => ?_
  refine expect_length.bind fun ended endLength => ?_
  refine (checked_yields fun _ => transition_ok).bind
    fun tracker ⟨value, found, allowed, stored⟩ => ?_
  refine addValue_ok.bind fun ⟨last, emitted⟩ ⟨entered, unused, body, stores⟩ => .ok ?_
  have usable : value.state = .owned ∨ value.state = .sharedBorrowed := by
    simpa using allowed
  refine ⟨.view rfl unused found usable (fresh_of_store (stored ▸ entered.fresh)) ?_ stores ?_ ?_,
    ?_, body⟩
  · exact List.forall_mem_append.mpr
      ⟨List.forall_mem_cons.mpr ⟨.direct rfl found usable, inOffset⟩, inLength⟩
  · exact congrArg (AList.insert name ⟨owner, false, true⟩) entered.borrows
  · rw [entered.ownership, stored]
    rfl
  · rw [entered.tokens]
    dsimp only at *
    omega

theorem printed_sound :
    Yields (fun result => (∀ access ∈ result.2.1, env.Allows access) ∧
      result.2.2.length < tokens.length) (printed numerals env room tokens) := by
  induction room generalizing tokens with
  | zero => exact .error
  | succ room ih =>
    refine expression_sound.yields.bind fun ⟨first, reads, valued⟩ ⟨allowed, shorter⟩ => ?_
    dsimp only at shorter ⊢
    split
    · exact .ok ⟨allowed, shorter⟩
    rename_i separated taken
    refine ih.bind fun ⟨others, later, last⟩ ⟨allowedLater, shorterLater⟩ => .ok ?_
    have commaLength := take_length taken
    refine ⟨List.forall_mem_append.mpr ⟨allowed, allowedLater⟩, ?_⟩
    dsimp only at shorterLater ⊢
    omega

theorem printStatement_accepted : Yields (parser.Takes tokens) (printStatement numerals parser line tokens) := by
  refine printed_sound.bind fun ⟨expressions, reads, valued⟩ ⟨allowed, shorter⟩ => ?_
  refine expect_length.bind fun ended endLength => .ok ?_
  exact ⟨.quiet rfl allowed (by simp [Statement.stores]) rfl rfl, Nat.lt_trans endLength shorter, rfl⟩

theorem place_sound : Yields (env.Reads tokens) (place numerals env target tokens) := by
  unfold place
  split
  · rename_i dotted taken
    have dotLength := take_length taken
    refine takeName_length.bind fun ⟨field, named⟩ nameLength => ?_
    dsimp only at nameLength ⊢
    split
    · exact .error
    · split
      · exact .ok ⟨nofun, by dsimp only; omega⟩
      · exact .error
  · split
    · rename_i opened taken
      have openLength := take_length taken
      refine expression_sound.yields.bind fun ⟨index, reads, valued⟩ ⟨allowed, shorter⟩ => ?_
      refine expect_length.bind fun closed closeLength => .ok ⟨allowed, ?_⟩
      dsimp only at shorter closeLength ⊢
      omega
    · split
      · exact .error
      · exact .ok ⟨nofun, Nat.le_refl _⟩

theorem stores_setEmitted (target value : Expression) (line : Nat) (found : Place) :
    (setEmitted target value line found).stores = some target.name := by
  cases target
  cases found <;> rfl

theorem setStatement_accepted : Yields (parser.Takes tokens) (setStatement numerals parser line tokens) := by
  refine takeName_length.bind fun ⟨name, named⟩ nameLength => ?_
  refine (checked_yields reference_write).bind fun ⟨target, access, _⟩ ⟨targets, sameName⟩ => ?_
  refine place_sound.bind fun ⟨found, placeReads, placed⟩ ⟨inPlace, placeShorter⟩ => ?_
  refine expect_length.bind fun equated equalLength => ?_
  refine expression_sound.yields.bind fun ⟨value, reads, valued⟩ ⟨inValue, shorter⟩ => ?_
  refine expect_length.bind fun ended endLength => .ok ?_
  refine ⟨.set ?_ targets (List.forall_mem_append.mpr ⟨inPlace, inValue⟩) ?_ rfl, ?_, rfl⟩
  · cases found
    · exact .inl rfl
    · exact .inr rfl
    · exact .inr rfl
  · simp [stores_setEmitted, sameName]
  · dsimp only [append] at *
    omega

theorem moveStatement_accepted : Yields (parser.Takes tokens) (moveStatement parser line tokens) := by
  refine takeName_length.bind fun ⟨owner, owned⟩ ownerLength => ?_
  refine (checked_yields reference_read).bind fun ⟨init, ⟨value, via⟩, _⟩ ⟨_, same, direct⟩ => ?_
  refine expect_length.bind fun directed toLength => ?_
  dsimp only at ownerLength same direct toLength ⊢
  split
  · exact .error
  rename_i unborrowed
  refine takeName_length.bind fun ⟨name, named⟩ nameLength => ?_
  refine expect_length.bind fun ended endLength => ?_
  refine (checked_yields fun _ => transition_ok).bind
    fun tracker ⟨snapshot, found, allowed, stored⟩ => ?_
  refine addValue_ok.bind fun ⟨last, emitted⟩ ⟨entered, _, body, stores⟩ => .ok ?_
  obtain rfl := direct (by simpa using unborrowed)
  refine ⟨.move rfl (by rw [same]) found (by simpa using allowed)
    (fresh_of_store (stored ▸ entered.fresh)) stores entered.borrows ?_, ?_, body⟩
  · rw [entered.ownership, stored]
  · rw [entered.tokens]
    dsimp only at nameLength endLength ⊢
    omega

theorem borrowMode_length :
    Yields (fun result => result.2.length < tokens.length) (borrowMode tokens) := by
  unfold borrowMode
  split
  · exact .ok (take_length ‹_›)
  · exact expect_length.bind fun shared keyword => .ok keyword

theorem borrow_ok {tracker : OwnershipTracker} :
    Yields (fun after => ∃ value, tracker.snapshot owner = some value ∧
      (value.state = .owned ∨ mutable = false ∧ value.state = .sharedBorrowed) ∧
      after = tracker.store owner (value.borrowed mutable))
      (if mutable then tracker.borrowMutable owner else tracker.borrowShared owner) := by
  intro after accepted
  cases mutable with
  | true =>
    obtain ⟨value, found, allowed, stored⟩ := transition_ok accepted
    exact ⟨value, found, .inl (by simpa using allowed), stored⟩
  | false =>
    obtain ⟨value, found, allowed, stored⟩ := transition_ok accepted
    exact ⟨value, found, by simpa using allowed, stored⟩

theorem borrowStatement_accepted : Yields (parser.Takes tokens) (borrowStatement parser tokens) := by
  refine borrowMode_length.bind fun ⟨mutable, moded⟩ modeLength => ?_
  refine takeName_length.bind fun ⟨owner, owned⟩ ownerLength => ?_
  refine expect_length.bind fun directed asLength => ?_
  refine takeName_length.bind fun ⟨handle, named⟩ nameLength => ?_
  refine expect_length.bind fun ended endLength => ?_
  dsimp only at modeLength ownerLength asLength nameLength endLength ⊢
  split
  · exact .error
  rename_i unused
  have absent : parser.env.borrows.lookup handle = none := by
    simp only [Bool.or_eq_true, not_or, Bool.not_eq_true, Option.isSome_eq_false_iff,
      Option.isNone_iff_eq_none] at unused
    exact unused.2
  refine (checked_yields borrow_ok).bind fun tracker ⟨value, found, usable, stored⟩ => .ok ?_
  refine ⟨.borrow rfl absent found usable rfl rfl rfl rfl stored, ?_, (List.append_nil _).symm⟩
  dsimp only
  omega

theorem release_ok {tracker : OwnershipTracker} :
    Yields (fun after => ∃ value, tracker.snapshot owner = some value ∧
      (if mutable then value.state = .mutablyBorrowed else value.state = .sharedBorrowed) ∧
      after = tracker.store owner (value.released mutable))
      (if mutable then tracker.releaseMutable owner else tracker.releaseShared owner) := by
  intro after accepted
  cases mutable with
  | true =>
    obtain ⟨value, found, allowed, stored⟩ := transition_ok accepted
    exact ⟨value, found, by simpa using allowed, stored⟩
  | false =>
    obtain ⟨value, found, allowed, stored⟩ := transition_ok accepted
    rw [Bool.and_eq_true] at allowed
    exact ⟨value, found, by simpa using allowed.1, stored⟩

theorem releaseStatement_accepted : Yields (parser.Takes tokens) (releaseStatement parser tokens) := by
  refine takeName_length.bind fun ⟨handle, named⟩ nameLength => ?_
  refine expect_length.bind fun ended endLength => ?_
  dsimp only at nameLength endLength ⊢
  split
  · exact .error
  rename_i borrow known
  refine (checked_yields release_ok).bind fun released ⟨value, found, borrowed, stored⟩ => ?_
  refine (checked_yields fun _ => id).bind fun tracker finished => .ok ?_
  refine ⟨.release rfl known found borrowed rfl rfl rfl ?_, by dsimp only; omega,
    (List.append_nil _).symm⟩
  split at finished
  · rename_i view
    right
    obtain ⟨viewed, present, owned, moved⟩ := transition_ok finished
    rw [stored] at present moved
    exact ⟨viewed, present, by simpa using owned, view, moved⟩
  · rename_i handleOnly
    left
    cases finished
    exact ⟨stored, by simpa using handleOnly⟩

/-- Every accepted statement is a step of the ownership discipline. -/
theorem statement_accepted (accepted : statement numerals parser = .ok (after, done)) :
    Accepted parser parser.tokens done after := by
  have started {text : String} {rest : List Token} {outcome : Except Failure (Parser × Executed)}
      (taken : take text parser.tokens = some rest)
      (suffix : Yields (parser.Takes rest) outcome) :
      Yields (parser.Takes parser.tokens) outcome :=
    suffix.mono fun _ kept => ⟨kept.step, Nat.lt_trans kept.shorter (take_length taken), kept.body⟩
  refine (?_ : Yields (parser.Takes parser.tokens) _) _ accepted
  unfold statement
  dsimp only
  split
  · exact started ‹_› declaration_accepted
  · exact started ‹_› declaration_accepted
  · exact started ‹_› declaration_accepted
  · exact started ‹_› declaration_accepted
  · exact started ‹_› declaration_accepted
  · split
    · exact started ‹_› ownedStatement_accepted
    · exact started ‹_› arrayStatement_accepted
    · exact started ‹_› viewStatement_accepted
    · exact started ‹_› printStatement_accepted
    · split
      · exact started ‹_› setStatement_accepted
      · exact started ‹_› moveStatement_accepted
      · exact started ‹_› borrowStatement_accepted
      · exact started ‹_› releaseStatement_accepted
      · exact .error

end ShortHand.Enterprise
