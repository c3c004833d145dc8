import ShortHand.Language.Typing

/-! Type soundness of the clauses with lexical scope: accepted code fails only as permitted. -/

namespace ShortHand.Language

open ShortHand.Library List

variable {H : Host} {program : Program H}

/-- The function around a statement is the one that is running. -/
def Suits (context : Context) (activation : Activation) : Prop :=
  ∀ type, context.returnType = some type → activation.returns = type ∧ activation.depth ≠ 0

/-- What the analyzer and the program say about a block. -/
structure BlockChecked (program : Program H) (activation : Activation) (context : Context)
    (scopes : List Scope) (statements : List (Stmt H)) : Prop where
  accepted : visitStmts program (context.inBlock statements) statements 0 scopes statements = []
  arrays : ∀ entry ∈ Stmt.arraysAll statements, entry ∈ program.arrays
  grounded : ∀ statement ∈ statements, statement.isDeclaration → activation.unframed < scopes.length

abbrev Safe {α : Type} (program : Program H) (result : α → State H → Prop)
    (outcome : Outcome (State H) Failure α) : Prop :=
  outcome.Ensures result fun failure _ => failure.Permitted program

section Clauses

variable {activation : Activation} {scopes : List Scope} {state : State H}

/-- A variable that the analyzer resolved to a type. -/
def Place.Resolves (program : Program H) (scopes : List Scope) (type : ShortType) (place : Place) :
    Prop :=
  lookupType program scopes place.reference.name = some ⟨type, place.reference.isArray⟩

theorem simpleType_resolved (accepted : (simpleType program scopes name).2 = []) :
    lookupType program scopes name = some ⟨(simpleType program scopes name).1, false⟩ := by
  unfold simpleType at accepted ⊢
  split at accepted
  · cases accepted
  · assumption
  · cases accepted

theorem arrayType_resolved (accepted : (arrayType program scopes name index).2 = []) :
    lookupType program scopes name = some ⟨(arrayType program scopes name index).1, true⟩ ∧
      index.2 = [] := by
  unfold arrayType at accepted ⊢
  split at accepted
  · cases accepted
  · cases accepted
  · rename_i found
    exact ⟨found, (append_eq_nil_iff.mp accepted).1⟩

theorem variableType_resolved (accepted : (variableType program scopes target).2 = []) :
    lookupType program scopes target.reference.name =
      some ⟨(variableType program scopes target).1, target.reference.isArray⟩ := by
  cases target with
  | simple name =>
    exact simpleType_resolved accepted
  | array name index =>
    exact (arrayType_resolved accepted).1

theorem validateCall_found (accepted : validateCall program name arity = []) :
    ∃ function, program.findFunction name = some function ∧
      (parameterTypes function).length = arity := by
  unfold validateCall at accepted
  split at accepted
  · cases accepted
  rename_i function found
  split at accepted
  · cases accepted
  split at accepted
  · rename_i same
    exact ⟨function, found, same⟩
  · cases accepted

theorem store_safe {undeclared : String → Failure} {outside : String → ArrayFault → Failure}
    (typed : state.Typed program activation scopes)
    (resolved : place.Resolves program scopes value.type)
    (permitted : ∀ name fault, OutsideExtent program name fault →
      (outside name fault).Permitted program) :
    Safe program (fun _ after => after.Typed program activation scopes)
      (store undeclared outside value place state) := by
  cases place with
  | scalar name =>
    have declared : lookupType program scopes name = some ⟨value.type, false⟩ := resolved
    obtain ⟨after, written, kept⟩ := typed.writeScalar declared
    simp only [store, written]
    exact kept
  | element name index =>
    have declared : lookupType program scopes name = some ⟨value.type, true⟩ := resolved
    have written := typed.writeArray index declared
    simp only [store]
    cases outcome : state.writeArray name index value with
    | ok after =>
      rwa [outcome] at written
    | error fault =>
      rw [outcome] at written
      exact permitted name fault written

theorem readPlace_safe {type : ShortType} (typed : state.Typed program activation scopes)
    (resolved : place.Resolves program scopes type) :
    Safe program (fun found after => (found.2.type = type ∧ found.1.Resolves program scopes type) ∧
      after.Typed program activation scopes) (readPlace place state) := by
  cases place with
  | scalar name =>
    have declared : lookupType program scopes name = some ⟨type, false⟩ := resolved
    obtain ⟨value, present, same⟩ := typed.readScalar declared
    simp only [readPlace, present]
    exact ⟨⟨same, resolved⟩, typed⟩
  | element name index =>
    have declared : lookupType program scopes name = some ⟨type, true⟩ := resolved
    have read := typed.readArray index declared
    simp only [readPlace]
    cases outcome : state.readArray name index with
    | ok value =>
      rw [outcome] at read
      exact ⟨⟨read, resolved⟩, typed⟩
    | error fault =>
      rwa [outcome] at read

theorem scanValue_safe (typed : state.Typed program activation scopes) :
    Safe program (fun value after => value.type = current.type ∧
      after.Typed program activation scopes) (scanValue current state) := by
  have consumed : ∀ input, ({ state with input } : State H).Typed program activation scopes :=
    fun input => typed.congr rfl rfl rfl rfl
  unfold scanValue
  split
  · rename_i float
    cases H.readFloat state.input with
    | none => trivial
    | some scanned => exact ⟨rfl, consumed _⟩
  · cases H.readInt state.input with
    | none => trivial
    | some scanned => exact ⟨rfl, consumed _⟩

theorem intDiagnostics_clean {types : List (ShortType × List Diagnostic)}
    (accepted : intDiagnostics types code message = []) : ∀ type ∈ types, type = (.int, []) := by
  rw [intDiagnostics, append_eq_nil_iff, flatMap_eq_nil_iff] at accepted
  intro type member
  refine Prod.ext ?_ (accepted.1 type member)
  have integers := accepted.2
  split at integers
  · rename_i all
    simpa using all_eq_true.mp all type member
  · cases integers

theorem returnDiagnostics_clean {type : ShortType} (returns : context.returnType = some type)
    (accepted : returnDiagnostics program scopes context (some value) = []) :
    (expressionType program scopes value).2 = [] ∧ (expressionType program scopes value).1 = type := by
  unfold returnDiagnostics at accepted
  rw [returns] at accepted
  cases type with
  | void => cases accepted
  | _ =>
    obtain ⟨clean, same⟩ := append_eq_nil_iff.mp accepted
    refine ⟨clean, ?_⟩
    by_contra different
    split at same
    · cases same
    · simp at same

theorem requireConditionType_clean (accepted : requireConditionType program scopes condition = []) :
    (expressionType program scopes condition).2 = [] :=
  (append_eq_nil_iff.mp accepted).1

theorem assignmentDiagnostics_clean (valued : target ≠ .void)
    (assignable : assignmentDiagnostics target source = []) : target = source := by
  unfold assignmentDiagnostics at assignable
  split at assignable
  · cases assignable
  split at assignable
  · cases assignable
  · rename_i mismatch
    by_contra different
    exact mismatch ⟨valued, different⟩

theorem minus_clean (accepted : (expressionType program scopes (.unaryMinus operand)).2 = []) :
    (expressionType program scopes operand).2 = [] ∧
      (expressionType program scopes (.unaryMinus operand)).1 =
        (expressionType program scopes operand).1 := by
  rw [expressionType, minusType] at accepted ⊢
  split at accepted
  · rename_i numeric
    rw [if_pos numeric]
    exact ⟨accepted, rfl⟩
  · simp at accepted

/-- The arguments of an accepted call have the types of the parameters. -/
theorem argumentTypes_clean {expected : List ShortType}
    (arity : expected.length = arguments.length)
    (accepted : argumentTypes program scopes name position expected arguments = []) :
    (∀ argument ∈ arguments, (expressionType program scopes argument).2 = []) ∧
      arguments.map (fun argument => (expressionType program scopes argument).1) = expected := by
  induction arguments generalizing expected position with
  | nil =>
    obtain rfl := eq_nil_of_length_eq_zero arity
    exact ⟨nofun, rfl⟩
  | cons argument rest ih =>
    cases expected with
    | nil => cases arity
    | cons type types =>
      simp only [argumentTypes, append_eq_nil_iff] at accepted
      obtain ⟨⟨clean, matching⟩, others⟩ := accepted
      have same : (expressionType program scopes argument).1 = type := by
        unfold argumentDiagnostics at matching
        split at matching
        · cases matching
        split at matching
        · cases matching
        · rename_i same
          exact not_not.mp same
      obtain ⟨accepted, typed⟩ := ih (Nat.succ.inj arity) others
      exact ⟨forall_mem_cons.mpr ⟨clean, accepted⟩, by rw [map_cons, same, typed]⟩

theorem call_clean (accepted : (expressionType program scopes (.call name arguments)).2 = []) :
    ∃ function, program.findFunction name = some function ∧
      (∀ argument ∈ arguments, (expressionType program scopes argument).2 = []) ∧
      arguments.map (fun argument => (expressionType program scopes argument).1) =
        parameterTypes function := by
  simp only [expressionType, append_eq_nil_iff] at accepted
  obtain ⟨valid, typed⟩ := accepted
  obtain ⟨function, found, arity⟩ := validateCall_found valid
  have expected : expectedTypes program name arguments.length = some (parameterTypes function) := by
    rw [expectedTypes, found]
    exact if_pos arity
  rw [expected] at typed
  exact ⟨function, found, argumentTypes_clean arity typed⟩

theorem initializeDeclarations_safe (typed : state.Typed program activation scopes)
    (accepted : (visitStmt program context scopes (.declaration declarations)).2 = [])
    (arrays : ∀ entry ∈ declarations.typedArrays, entry ∈ program.arrays)
    (grounded : activation.unframed < scopes.length) :
    Safe program (fun _ after =>
      after.Typed program activation (Stmt.declare scopes (.declaration declarations : Stmt H)))
      (initializeDeclarations declarations state) := by
  have exact := typed.exact
  cases scopes with
  | nil => cases grounded
  | cons scope scopes =>
    cases frames : state.locals with
    | nil =>
      rw [frames, length_nil] at exact
      omega
    | cons frame rest =>
      have locals := typed.locals
      rw [frames] at locals
      simp only [visitStmt, append_eq_nil_iff] at accepted
      have inner : state.innermost = frame := by rw [State.innermost, frames]; rfl
      obtain ⟨grown, replaces, fits⟩ := initializeDeclarations_fits locals.1
        (fun entry member => ⟨entry, arrays entry member, rfl, rfl⟩) accepted.2
      have ran := replaces state inner
      have after : state.setInnermost grown = { state with locals := grown :: rest } := by
        rw [State.setInnermost, frames]
      rw [after] at ran
      rw [ran]
      rw [frames] at exact
      refine ⟨typed.globals, ⟨fits, locals.2⟩, exact, ?_, typed.depth, typed.returns⟩
      have valued := typed.valued
      simp only [forall_mem_cons, Stmt.declare, declareInCurrentScope] at valued ⊢
      exact ⟨valued.1, valued.2.1.declareIn (entries_valued accepted.1.2), valued.2.2⟩

end Clauses

/-- The activation that runs, and the scopes of the code. -/
structure Ground where
  activation : Activation
  scopes : List Scope

namespace Ground

variable {ground after : Ground} {state other : State H}

def inner (ground : Ground) : Ground := { ground with scopes := (fun _ => none) :: ground.scopes }

/-- A statement that the analyzer accepted where it stands. -/
structure Admits (program : Program H) (ground : Ground) (context : Context) (statement : Stmt H) :
    Prop where
  suits : Suits context ground.activation
  accepted : (visitStmt program context ground.scopes statement).2 = []
  arrays : ∀ entry ∈ statement.arrays, entry ∈ program.arrays
  grounded : statement.isDeclaration → ground.activation.unframed < ground.scopes.length
  framed : ground.activation.unframed ≤ ground.scopes.length

/-- A place in an accepted block. -/
structure Inside (program : Program H) (ground : Ground) (context : Context)
    (body : List (Stmt H)) (position : Nat) (here : Ground) : Prop where
  same : here.activation = ground.activation
  scopes : here.scopes = scopesAt ground.scopes body position
  suits : Suits context ground.activation
  checked : BlockChecked program ground.activation context ground.scopes body
  framed : ground.activation.unframed ≤ ground.scopes.length

def Keeps (program : Program H) (ground : Ground) (state other : State H) : Prop :=
  state = other ∧ other.Typed program ground.activation ground.scopes

/-- One run against itself. -/
theorem Keeps.agree {action : Run H α} {result : α → State H → Prop}
    (keeps : ground.Keeps program state other) (safe : Safe program result (action other)) :
    (action state).Agree (Failure.Permitted program)
      (fun value state other => state = other ∧ result value other) (fun _ _ => False)
      (action other) := by
  obtain ⟨rfl, _⟩ := keeps
  exact safe.agree fun _ _ permitted => .inr permitted

theorem Admits.parts (admits : ground.Admits program context statement) :
    statement.Parts (fun value => (expressionType program ground.scopes value).2 = [])
      (fun target => (variableType program ground.scopes target).2 = [])
      (fun count => variableType program ground.scopes count = (.int, []))
      fun body => ∃ context, ground.inner.Inside program context body 0 ground.inner := by
  obtain ⟨suits, accepted, arrays, _, framed⟩ := admits
  have block : ∀ {context : Context} {body : List (Stmt H)}, Suits context ground.activation →
      PassedBlock program context ((fun _ => none) :: ground.scopes) body →
      (∀ entry ∈ Stmt.arraysAll body, entry ∈ program.arrays) →
      ∃ context, ground.inner.Inside program context body 0 ground.inner :=
    fun suits passed arrays => ⟨_, rfl, rfl, suits,
      ⟨passed, arrays, fun _ _ _ => Nat.lt_succ_of_le framed⟩, Nat.le_succ_of_le framed⟩
  cases statement with
  | declaration | label | breakLoop | continueLoop | ai => trivial
  | expression value =>
    exact accepted
  | assignment target value =>
    simp only [visitStmt, append_eq_nil_iff] at accepted
    exact ⟨accepted.1.2, accepted.1.1⟩
  | block body =>
    simp only [visitStmt, append_eq_nil_iff] at accepted
    exact block suits accepted.2 arrays
  | ifThen condition ifBlock =>
    simp only [visitStmt, append_eq_nil_iff] at accepted
    exact ⟨requireConditionType_clean accepted.1.1, block suits accepted.2 arrays⟩
  | ifElse condition ifBlock elseBlock =>
    simp only [visitStmt, append_eq_nil_iff] at accepted
    rw [Stmt.arrays, forall_mem_append] at arrays
    exact ⟨requireConditionType_clean accepted.1.1.1.1, block suits accepted.1.1.2 arrays.1,
      block suits accepted.2 arrays.2⟩
  | forLoop counter start step limit body =>
    simp only [visitStmt, append_eq_nil_iff] at accepted
    have integers := intDiagnostics_clean accepted.1.1
    simp only [forall_mem_cons] at integers
    obtain ⟨counted, started, stepped, limited, _⟩ := integers
    exact ⟨congrArg Prod.snd started, counted, congrArg Prod.snd stepped,
      congrArg Prod.snd limited, @block context.inLoop _ suits accepted.2 arrays⟩
  | whileLoop condition body =>
    simp only [visitStmt, append_eq_nil_iff] at accepted
    exact ⟨requireConditionType_clean accepted.1.1,
      @block context.inLoop _ suits accepted.2 arrays⟩
  | goto label condition =>
    cases condition with
    | none => trivial
    | some condition =>
      simp only [visitStmt, append_eq_nil_iff] at accepted
      exact requireConditionType_clean accepted.2
  | returnFrom value =>
    cases value with
    | none => trivial
    | some value =>
      rw [visitStmt] at accepted
      cases returns : context.returnType with
      | none => simp [returnDiagnostics, returns] at accepted
      | some type => exact (returnDiagnostics_clean returns accepted).1
  | read targets =>
    simp only [visitStmt, flatMap_eq_nil_iff] at accepted
    exact fun target member => (append_eq_nil_iff.mp (accepted target member)).1
  | print items =>
    simp only [visitStmt, flatMap_eq_nil_iff] at accepted
    exact fun item member => (append_eq_nil_iff.mp (accepted item member)).1
  | greenaiReport workload inferences watts seconds =>
    have integers := intDiagnostics_clean accepted
    simp only [forall_mem_cons] at integers
    exact ⟨congrArg Prod.snd integers.1, congrArg Prod.snd integers.2.1,
      congrArg Prod.snd integers.2.2.1⟩

/-- A return is inside of a function, and of its type. -/
theorem Admits.returns (admits : ground.Admits program context (.returnFrom value)) :
    ground.activation.depth ≠ 0 ∧ ∀ result, value = some result →
      (expressionType program ground.scopes result).1 = ground.activation.returns := by
  have accepted := admits.accepted
  rw [visitStmt] at accepted
  cases returns : context.returnType with
  | none => simp [returnDiagnostics, returns] at accepted
  | some type =>
    obtain ⟨same, inside⟩ := admits.suits type returns
    refine ⟨inside, ?_⟩
    rintro result rfl
    rw [(returnDiagnostics_clean returns accepted).2, same]

section Places

variable {context : Context} {body : List (Stmt H)} {position : Nat} {here : Ground}
  {statement : Stmt H} (inside : ground.Inside program context body position here)
  (found : body[position]? = some statement)
include inside found

theorem Inside.admits : here.Admits program (context.inBlock body) statement := by
  obtain ⟨same, scopes, suits, checked, framed⟩ := inside
  obtain ⟨activation, _⟩ := here
  subst same scopes
  have member := mem_of_getElem? found
  refine ⟨suits, (visitStmts_at checked.accepted found).2,
    fun entry inside => checked.arrays entry (Stmt.arrays_at member inside), ?_, ?_⟩
  · rw [scopesAt_length]
    exact checked.grounded statement member
  · rwa [scopesAt_length]

theorem Inside.next : ground.Inside program context body (position + 1)
    { here with scopes := statement.declare here.scopes } := by
  refine { inside with scopes := ?_ }
  rw [scopesAt_succ found, inside.scopes]

end Places

/-- A value of a place that the analyzer typed. -/
structure Found (program : Program H) (ground : Ground) (type : ShortType)
    (found : Place × RuntimeValue H) : Prop where
  valued : type ≠ .void
  same : found.2.type = type
  resolves : found.1.Resolves program ground.scopes type

/-- The run of accepted code, next to itself: no failure but a permitted one. -/
def soundness (program : Program H) : Simulation H where
  World := Ground
  Related ground := ground.Keeps program
  Lost _ _ _ := False
  disregarded := Failure.Permitted program
  base _ := {}
  inner := inner
  expression ground value := (expressionType program ground.scopes value).2 = []
  Valued ground code value := value.type = (expressionType program ground.scopes code).1
  target ground place := (variableType program ground.scopes place).2 = []
  counter ground count := variableType program ground.scopes count = (.int, [])
  Found ground place := ground.Found program (variableType program ground.scopes place).1
  Fits ground place value := place.Resolves program ground.scopes value.type
  Admits ground statement := ∃ context, ground.Admits program context statement
  Declares statement ground after :=
    after = { ground with scopes := statement.declare ground.scopes }
  Inside ground body position here := ∃ context, ground.Inside program context body position here
  base_inner := rfl
  parts := fun ⟨_, admits⟩ => admits.parts
  index {ground name position} accepted := by
    rw [variableType] at accepted
    exact (arrayType_resolved accepted).2
  counts := congrArg Prod.snd
  depth keeps := by rw [keeps.1]
  transfers keeps := by rw [keeps.1]
  emits text keeps := ⟨by rw [keeps.1], keeps.2.congr rfl rfl rfl rfl⟩
  performs statement keeps := ⟨by rw [keeps.1], keeps.2.congr rfl rfl rfl rfl⟩
  jumps keeps := ⟨by rw [keeps.1], keeps.2.congr rfl rfl rfl rfl⟩
  returns := fun ⟨_, admits⟩ valued keeps => ⟨by rw [keeps.1],
    keeps.2.globals, keeps.2.locals, keeps.2.exact, keeps.2.valued, keeps.2.depth,
    valued.trans (admits.returns.2 _ rfl)⟩
  constant {_ literal _} _ same := by
    cases literal <;> cases same <;> rw [expressionType] <;> rfl
  names {_ place} accepted := by
    rwa [expressionType] at accepted
  refers _ found := by
    rw [expressionType]
    exact found.same
  operands {_ _ _ _} accepted := by
    simp only [expressionType, append_eq_nil_iff] at accepted
    exact accepted.1
  applies {_ op left right leftValue rightValue _ _} accepted leftType rightType _ := by
    simp only [expressionType, append_eq_nil_iff] at accepted
    have operator := accepted.2
    rw [← leftType, ← rightType] at operator
    have result := applyBinary_typed program operator
    cases outcome : applyBinary op leftValue rightValue with
    | error failure =>
      rw [outcome] at result
      exact .inr result
    | ok value =>
      rw [outcome, leftType, rightType] at result
      rwa [expressionType]
  passes accepted := by
    obtain ⟨_, _, clean, _⟩ := call_clean accepted
    exact clean
  assigns := by
    rintro ground place value assigned found ⟨context, admits⟩ same holds
    have accepted := admits.accepted
    simp only [visitStmt, append_eq_nil_iff] at accepted
    rw [same, ← assignmentDiagnostics_clean holds.valued accepted.2]
    exact holds.resolves
  advances _ counted holds := by
    have resolves := holds.resolves
    rwa [counted] at resolves
  reads {ground _ _ _ _} accepted same keeps := by
    have resolved := variableType_resolved accepted
    rw [← same] at resolved
    have valued := keeps.2.lookup_valued resolved
    exact (keeps.agree (readPlace_safe keeps.2 resolved)).mono
      (fun _ _ _ kept => ⟨⟨valued, kept.2.1.1, kept.2.1.2⟩, kept.1, kept.2.2⟩) fun _ _ => id
  stores storing fits keeps := keeps.agree (store_safe keeps.2 fits fun name fault outside => by
    cases storing with
    | assigned => exact outside
    | counted | scanned => exact ⟨name, outside⟩)
  declares := by
    rintro ground block state other ⟨context, admits⟩ keeps
    have arrays := admits.arrays
    rw [Stmt.arrays] at arrays
    exact (keeps.agree (initializeDeclarations_safe keeps.2 admits.accepted arrays
      (admits.grounded rfl))).mono (fun _ _ _ kept => ⟨_, rfl, kept⟩) fun _ _ => id
  keeps plain := by rw [Stmt.declare_of_not plain]
  budget limited _ := by
    obtain rfl | rfl := limited <;> exact .inr trivial
  topLevel := fun ⟨_, admits⟩ keeps top =>
    absurd (keeps.2.depth.symm.trans top) admits.returns.1
  push keeps := ⟨by rw [keeps.1], keeps.2.push⟩
  pop := by
    rintro ground before earlier body position last state other keeps ⟨context, inside⟩ there
    have framed : ground.activation.unframed ≤ ground.scopes.length :=
      keeps.2.exact ▸ Nat.le_add_left _ _
    obtain ⟨grown, same⟩ := @scopesAt_cons _ ground.scopes body position fun _ => none
    refine ⟨by rw [there.1], ?_⟩
    have typed := there.2
    rw [inside.same, inside.scopes.trans same] at typed
    exact typed.pop framed
  lostPop := id
  lostInside _ := id
  admitted := fun ⟨_, inside⟩ found => ⟨_, inside.admits found⟩
  next := by
    rintro ground body position here statement after ⟨context, inside⟩ found rfl
    exact ⟨context, inside.next found⟩
  lands := by
    rintro ground body position here label condition after landing ⟨context, inside⟩ found rfl landed
    refine ⟨context, { inside with scopes := ?_ }⟩
    have crossing := (visitStmts_at inside.checked.accepted found).1
    rw [scopesAt_jump found (by simpa using crossing) landed]
    exact inside.scopes
  escapes := by
    rintro ground body position here label condition after state other ⟨context, inside⟩ found _
      landed _
    have visited := (inside.admits found).accepted
    rw [visitStmt, append_eq_nil_iff] at visited
    exact absurd landed (labelIndex_of_goto visited.1)

end Ground

end ShortHand.Language
