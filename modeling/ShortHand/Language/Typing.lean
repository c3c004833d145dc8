import ShortHand.Language.Lexical

/-! Typed states: a name has the type the analyzer resolved for it, and accepted operators yield
their result type or an arithmetic error. -/

namespace ShortHand.Language

open ShortHand.Library List

variable {H : Host}

mutual

/-- The array declarations of a statement, at any depth. -/
def Stmt.arrays : Stmt H → List (String × ShortType × Int)
  | .declaration declared => declared.typedArrays
  | .block statements => Stmt.arraysAll statements
  | .ifThen _ ifBlock => Stmt.arraysAll ifBlock
  | .ifElse _ ifBlock elseBlock => Stmt.arraysAll ifBlock ++ Stmt.arraysAll elseBlock
  | .forLoop _ _ _ _ body => Stmt.arraysAll body
  | .whileLoop _ body => Stmt.arraysAll body
  | _ => []

def Stmt.arraysAll : List (Stmt H) → List (String × ShortType × Int)
  | [] => []
  | statement :: rest => Stmt.arrays statement ++ Stmt.arraysAll rest

end

def Program.arrays (program : Program H) : List (String × ShortType × Int) :=
  program.globals.typedArrays ++ program.functions.flatMap (fun function =>
    Stmt.arraysAll function.body) ++ Stmt.arraysAll program.code

/-- Some declaration of the program gives the name this extent. -/
def Program.Declares (program : Program H) (name : String) (extent : Nat) : Prop :=
  ∃ entry ∈ program.arrays, entry.1 = name ∧ entry.2.2.toNat = extent

theorem Stmt.arrays_at (member : statement ∈ statements)
    (inside : entry ∈ statement.arrays) : entry ∈ Stmt.arraysAll statements := by
  induction statements with
  | nil => cases member
  | cons first rest ih =>
    rw [Stmt.arraysAll, mem_append]
    rcases mem_cons.mp member with rfl | later
    · exact .inl inside
    · exact .inr (ih later)

/-- An access outside an array of a declared extent. -/
def OutsideExtent (program : Program H) (name : String) : ArrayFault → Prop
  | .outside index extent => program.Declares name extent ∧ ¬(0 ≤ index.toInt ∧ index.toNat < extent)
  | .undeclared | .mistyped => False

/-- The failures that an accepted program may still run into: typed input, the two
budgets, arithmetic, a zero step and array bounds. -/
def Failure.Permitted (program : Program H) : Failure → Prop
  | .readFailed | .callDepth | .gotoBudget => True
  | .floatDivision | .integerDivision | .integerRemainder | .stepZero => True
  | .arrayRead name fault | .arrayWrite name fault => OutsideExtent program name fault
  | .counterBounds fault | .readBounds fault => ∃ name, OutsideExtent program name fault
  | _ => False

/-- What stays the same during one activation of a function or of the main program,
whose outermost scope has no frame. -/
structure Activation where
  depth : Nat
  returns : ShortType
  unframed : Nat

/-- No variable has type `void`. -/
def Valued (scope : Scope) : Prop := ∀ name info, scope name = some info → info.type ≠ .void

structure State.Typed (program : Program H) (activation : Activation) (scopes : List Scope)
    (state : State H) : Prop where
  globals : state.globals.Fits program.Declares (lookupGlobal program)
  locals : Fitted program.Declares scopes state.locals
  exact : state.locals.length + activation.unframed = scopes.length
  valued : ∀ scope ∈ lookupGlobal program :: scopes, Valued scope
  depth : state.callDepth = activation.depth
  returns : state.returnValue.type = activation.returns

section Lookups

variable {declared : String → Nat → Prop} {scopes : List Scope} {frames : List (Frame H)}
  {name : String}

theorem valued_none : Valued fun _ => none := nofun

theorem Valued.declareIn (valued : Valued scope) (types : ∀ entry ∈ entries, entry.2.type ≠ .void) :
    Valued (declareIn entries scope).1 := by
  induction entries generalizing scope with
  | nil => exact valued
  | cons entry rest ih =>
    rw [forall_mem_cons] at types
    rw [Language.declareIn]
    split
    · exact ih valued types.2
    refine ih ?_ types.2
    intro name info bound
    by_cases here : name = entry.1
    · subst here
      rw [Function.update_self] at bound
      cases bound
      exact types.1
    · rw [Function.update_of_ne here] at bound
      exact valued name info bound

/-- Accepted declarations have value types. -/
theorem entries_valued (accepted : declarationDiagnostics block = []) :
    ∀ entry ∈ block.entries, entry.2.type ≠ .void := by
  simp only [declarationDiagnostics, append_eq_nil_iff, flatMap_eq_nil_iff] at accepted
  intro entry member
  rcases mem_append.mp member with scalar | array
  · obtain ⟨declared, inside, rfl⟩ := mem_map.mp scalar
    intro void
    have clean := accepted.1 declared inside
    rw [show declared.2 = ShortType.void from void] at clean
    cases clean
  · obtain ⟨declared, inside, rfl⟩ := mem_map.mp array
    intro void
    have clean := (accepted.2 declared inside).1.1
    rw [show declared.2.1 = ShortType.void from void] at clean
    cases clean

theorem lookupScopes_mem (found : lookupScopes name scopes = some info) :
    ∃ scope ∈ scopes, scope name = some info := by
  induction scopes with
  | nil => cases found
  | cons scope scopes ih =>
    rcases (Option.orElse_eq_some _ _ _).mp found with here | ⟨_, later⟩
    · exact ⟨scope, mem_cons_self, here⟩
    · obtain ⟨outer, member, bound⟩ := ih later
      exact ⟨outer, mem_cons_of_mem _ member, bound⟩

theorem Frame.Fits.scalar_of {frame : Frame H} {type : ShortType}
    (fits : frame.Fits declared scope) (bound : scope name = some ⟨type, false⟩) :
    ∃ value, frame.scalars name = some value ∧ value.type = type := by
  have typed := fits.scalar name
  rw [bound] at typed
  exact Option.map_eq_some_iff.mp typed

theorem Frame.Fits.array_of {frame : Frame H} {type : ShortType}
    (fits : frame.Fits declared scope) (bound : scope name = some ⟨type, true⟩) :
    ∃ values, frame.arrays name = some values ∧ (∀ value ∈ values, value.type = type) ∧
      declared name values.length := by
  have present := fits.array name
  rw [bound] at present
  obtain ⟨values, found⟩ := Option.isSome_iff_exists.mp present
  refine ⟨values, found, fun value member => ?_, fits.extent name values found⟩
  have typed := fits.element name values found value member
  rw [bound] at typed
  cases typed
  rfl

theorem Frame.Fits.absent {frame : Frame H} (fits : frame.Fits declared scope)
    (unbound : scope name = none) : frame.scalars name = none ∧ frame.arrays name = none := by
  have scalar := fits.scalar name
  have array := fits.array name
  rw [unbound] at scalar array
  exact ⟨by simpa using scalar, by simpa using array⟩

/-- A name resolves in the frames as in the scopes. -/
theorem Fitted.resolve (name : String) (fitted : Fitted declared scopes frames)
    (exact : frames.length ≤ scopes.length) :
    match lookupScopes name scopes with
    | none => findIn (·.scalars name) frames = none ∧ findIn (·.arrays name) frames = none
    | some ⟨type, false⟩ => ∃ value, findIn (·.scalars name) frames = some value ∧ value.type = type
    | some ⟨type, true⟩ => ∃ values, findIn (·.arrays name) frames = some values ∧
        (∀ value ∈ values, value.type = type) ∧ declared name values.length := by
  induction scopes generalizing frames with
  | nil =>
    obtain rfl : frames = [] := eq_nil_of_length_eq_zero (Nat.le_zero.mp exact)
    exact ⟨rfl, rfl⟩
  | cons scope scopes ih =>
    cases frames with
    | nil =>
      rw [lookupScopes, fitted.1]
      exact ih fitted.2 (Nat.zero_le _)
    | cons frame frames =>
      have later := ih fitted.2 (Nat.le_of_succ_le_succ exact)
      rw [lookupScopes]
      simp only [findIn]
      rcases bound : scope name with _ | ⟨type, _ | _⟩
      · obtain ⟨scalar, array⟩ := fitted.1.absent bound
        rwa [scalar, array]
      · obtain ⟨value, found, typed⟩ := fitted.1.scalar_of bound
        exact ⟨value, by rw [found]; rfl, typed⟩
      · obtain ⟨values, found, typed⟩ := fitted.1.array_of bound
        exact ⟨values, by rw [found]; rfl, typed⟩

end Lookups

namespace State.Typed

variable {program : Program H} {activation : Activation} {scopes : List Scope}
  {state after : State H} {name : String} {type : ShortType} {value : RuntimeValue H}

/-- A step that keeps the shapes of all frames keeps the types. -/
theorem congr (typed : state.Typed program activation scopes)
    (shapes_ : shapes after.locals = shapes state.locals)
    (globals : after.globals.shape = state.globals.shape)
    (depth : after.callDepth = state.callDepth) (returns : after.returnValue = state.returnValue) :
    after.Typed program activation scopes := by
  refine ⟨typed.globals.congr globals, typed.locals.congr shapes_, ?_, typed.valued,
    depth.trans typed.depth, (congrArg RuntimeValue.type returns).trans typed.returns⟩
  have length : after.locals.length = state.locals.length := by
    simpa [shapes] using congrArg length shapes_
  exact length ▸ typed.exact

theorem push (typed : state.Typed program activation scopes) :
    (state.push {}).Typed program activation ((fun _ => none) :: scopes) := by
  refine ⟨typed.globals, typed.locals.push, ?_, ?_, typed.depth, typed.returns⟩
  · have exact := typed.exact
    simp only [State.push, length_cons]
    omega
  · have valued := typed.valued
    simp only [forall_mem_cons] at valued ⊢
    exact ⟨valued.1, valued_none, valued.2⟩

theorem pop (typed : state.Typed program activation (scope :: scopes))
    (framed : activation.unframed ≤ scopes.length) : state.pop.Typed program activation scopes := by
  have locals := typed.locals
  have exact := typed.exact
  rw [length_cons] at exact
  cases frames : state.locals with
  | nil =>
    rw [frames, length_nil] at exact
    omega
  | cons frame rest =>
    rw [frames] at locals exact
    refine ⟨typed.globals, ?_, ?_, ?_, typed.depth, typed.returns⟩
    · rw [State.pop, frames]
      exact locals.2
    · rw [State.pop, frames]
      rw [length_cons] at exact
      simp only [tail_cons]
      omega
    · have valued := typed.valued
      simp only [forall_mem_cons] at valued ⊢
      exact ⟨valued.1, valued.2.2⟩

theorem lookup_valued (typed : state.Typed program activation scopes)
    (resolved : lookupType program scopes name = some info) : info.type ≠ .void := by
  rcases (Option.orElse_eq_some _ _ _).mp resolved with inner | ⟨_, outer⟩
  · obtain ⟨scope, member, bound⟩ := lookupScopes_mem inner
    exact typed.valued scope (mem_cons_of_mem _ member) name info bound
  · exact typed.valued _ mem_cons_self name info outer

theorem readScalar (typed : state.Typed program activation scopes)
    (resolved : lookupType program scopes name = some ⟨type, false⟩) :
    ∃ value, state.readScalar name = some value ∧ value.type = type := by
  have found := typed.locals.resolve name (Nat.le.intro typed.exact)
  unfold State.readScalar State.find
  rw [lookupType] at resolved
  rcases local_ : lookupScopes name scopes with _ | info
  · rw [local_] at found resolved
    obtain ⟨value, present, same⟩ := typed.globals.scalar_of resolved
    exact ⟨value, by rw [found.1]; exact present, same⟩
  · rw [local_] at found resolved
    cases resolved
    obtain ⟨value, present, same⟩ := found
    exact ⟨value, by rw [present]; rfl, same⟩

theorem findArray (typed : state.Typed program activation scopes)
    (resolved : lookupType program scopes name = some ⟨type, true⟩) :
    ∃ values, state.find (·.arrays name) = some values ∧ (∀ value ∈ values, value.type = type) ∧
      program.Declares name values.length := by
  have found := typed.locals.resolve name (Nat.le.intro typed.exact)
  unfold State.find
  rw [lookupType] at resolved
  rcases local_ : lookupScopes name scopes with _ | info
  · rw [local_] at found resolved
    obtain ⟨values, present, same⟩ := typed.globals.array_of resolved
    exact ⟨values, by rw [found.2]; exact present, same⟩
  · rw [local_] at found resolved
    cases resolved
    obtain ⟨values, present, same⟩ := found
    exact ⟨values, by rw [present]; rfl, same⟩

theorem update_kept : (state.update field change).callDepth = state.callDepth ∧
      (state.update field change).returnValue = state.returnValue := by
  unfold State.update
  split <;> exact ⟨rfl, rfl⟩

theorem writeScalar (typed : state.Typed program activation scopes)
    (resolved : lookupType program scopes name = some ⟨value.type, false⟩) :
    ∃ after, state.writeScalar name value = some after ∧ after.Typed program activation scopes := by
  obtain ⟨old, present, same⟩ := typed.readScalar resolved
  have written : state.writeScalar name value =
      some (state.update (·.scalars name) (·.setScalar name value)) := by
    rw [State.writeScalar, present]
    exact if_pos same
  obtain ⟨locals, globals⟩ := writeScalar_shapes written
  exact ⟨_, written, typed.congr locals globals update_kept.1 update_kept.2⟩

theorem readArray (typed : state.Typed program activation scopes) (index : IntValue)
    (resolved : lookupType program scopes name = some ⟨type, true⟩) :
    match state.readArray name index with
    | .ok value => value.type = type
    | .error fault => OutsideExtent program name fault := by
  obtain ⟨values, present, types, declared⟩ := typed.findArray resolved
  have element := elementAt_spec values index
  rw [State.readArray, present]
  dsimp only
  cases found : elementAt values index with
  | ok value =>
    rw [found] at element
    exact types value (mem_of_getElem? element)
  | error fault =>
    rw [found] at element
    obtain ⟨rfl, outside⟩ := element
    exact ⟨declared, outside⟩

theorem writeArray (typed : state.Typed program activation scopes) (index : IntValue)
    (resolved : lookupType program scopes name = some ⟨value.type, true⟩) :
    match state.writeArray name index value with
    | .ok after => after.Typed program activation scopes
    | .error fault => OutsideExtent program name fault := by
  obtain ⟨values, present, types, declared⟩ := typed.findArray resolved
  have element := elementAt_spec values index
  cases found : elementAt values index with
  | ok old =>
    rw [found] at element
    have written : state.writeArray name index value = .ok
        (state.update (·.arrays name) (·.setArray name (values.set index.toNat value))) := by
      rw [State.writeArray, present]
      simp [found, types old (mem_of_getElem? element)]
    obtain ⟨locals, globals⟩ := writeArray_shapes written
    rw [written]
    exact typed.congr locals globals update_kept.1 update_kept.2
  | error fault =>
    rw [found] at element
    obtain ⟨rfl, outside⟩ := element
    rw [State.writeArray, present]
    simp only [found]
    exact ⟨declared, outside⟩

end State.Typed

theorem floatBinary_typed {program : Program H} {left right : H.Double}
    (accepted : (binaryType op .float .float).2 = []) :
    match floatBinary op left right with
    | .ok value => value.type = (binaryType op .float .float).1
    | .error failure => failure.Permitted program := by
  cases op with
  | divide =>
    unfold floatBinary
    by_cases zero : H.equal right H.zero
    · rw [if_pos zero]
      trivial
    · rw [if_neg zero]
      rfl
  | modulo | or | and => cases accepted
  | _ => rfl

theorem stringBinary_typed (accepted : (binaryType op .string .string).2 = []) :
    (stringBinary op left right : RuntimeValue H).type = (binaryType op .string .string).1 := by
  cases op <;> first | rfl | cases accepted

theorem intBinary_typed (accepted : (binaryType op .int .int).2 = []) :
    match intBinary op left right with
    | .ok (value : RuntimeValue H) => value.type = (binaryType op .int .int).1
    | .error failure => failure.Permitted program := by
  cases op with
  | divide | modulo =>
    unfold intBinary
    dsimp only
    by_cases undefined_ : right = 0 ∨ left = minInt ∧ right = -1
    · rw [if_pos undefined_]
      trivial
    · rw [if_neg undefined_]
      rfl
  | _ => rfl

theorem boolBinary_typed (accepted : (binaryType op .boolean .boolean).2 = []) :
    match intBinary op left right with
    | .ok (value : RuntimeValue H) => value.type = (binaryType op .boolean .boolean).1
    | .error failure => failure.Permitted program := by
  cases op <;> first | rfl | cases accepted

theorem binaryType_same (accepted : (binaryType op left right).2 = []) :
    left = right ∧ left ≠ .void := by
  unfold binaryType at accepted
  split at accepted
  · cases accepted
  rename_i values
  split at accepted
  · cases accepted
  rename_i same
  exact ⟨not_not.mp same, fun void => values (by simp [void])⟩

/-- An accepted operator yields its type or an arithmetic error. -/
theorem applyBinary_typed (program : Program H) {op : BinaryOp} {left right : RuntimeValue H}
    (accepted : (binaryType op left.type right.type).2 = []) :
    match applyBinary op left right with
    | .ok value => value.type = (binaryType op left.type right.type).1
    | .error failure => failure.Permitted program := by
  obtain ⟨same, valued⟩ := binaryType_same accepted
  rw [← same] at accepted ⊢
  unfold applyBinary
  cases type : left.type with
  | int => exact intBinary_typed (type ▸ accepted)
  | boolean => exact boolBinary_typed (type ▸ accepted)
  | float => exact floatBinary_typed (type ▸ accepted)
  | string => exact stringBinary_typed (type ▸ accepted)
  | void => exact absurd type valued

theorem applyMinus_type : (applyMinus value).type = value.type := by
  unfold applyMinus
  split <;> rfl

end ShortHand.Language
