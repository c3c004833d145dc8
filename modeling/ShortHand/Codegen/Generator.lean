import ShortHand.Library.Exec
import ShortHand.Language.Analyzer
import ShortHand.Codegen.Target

/-! The code generator. A visit leaves its value in `ret`; a variable leaves its address there
and sets the load flag for the next reader. Building an instruction from an absent value ends
the generator. -/

namespace ShortHand.Codegen

open ShortHand.Language ShortHand.Library

variable {H : Host}

inductive SymbolKind where
  | function (arity : Nat) (returns : LowType)
  | storage (stored : StoredType)
  /-- A private constant. -/
  | constant
  deriving DecidableEq

/-- A symbol of the generated module. -/
structure Symbol where
  name : String
  kind : SymbolKind
  deriving DecidableEq

def SymbolKind.isFunction : SymbolKind → Bool
  | .function _ _ => true
  | _ => false

def SymbolKind.arity : SymbolKind → Nat
  | .function arity _ => arity
  | _ => 0

def SymbolKind.returns : SymbolKind → LowType
  | .function _ returns => returns
  | _ => .void

structure Local where
  slot : Nat
  stored : StoredType
  deriving DecidableEq

/-- The AI statements, as far as the symbols of the module depend on them. -/
inductive AiKind where
  | model
  | tensor
  | greenaiContract
  | greenaiMeasurement
  | c3eco
  | infer
  | aiInfer
  deriving DecidableEq

def AiKind.metadata : AiKind → Option String
  | .model => some "model"
  | .tensor => some "tensor"
  | .greenaiContract => some "greenai_contract"
  | .greenaiMeasurement => some "greenai_measurement"
  | .c3eco => some "c3eco_declaration"
  | .infer => some "infer"
  | .aiInfer => none

/-- The runtime hook of a statement and the number of its arguments. -/
def AiKind.hook : AiKind → Option (String × Nat)
  | .model => some ("short_ai_register_model", 8)
  | .tensor => some ("short_ai_register_tensor", 5)
  | .greenaiContract => some ("short_greenai_register_contract", 8)
  | .greenaiMeasurement => some ("short_greenai_record_measurement", 5)
  | .c3eco => none
  | .infer => some ("short_ai_infer", 3)
  | .aiInfer => some ("short_ai_infer_legacy", 3)

def safeMetadataName (text : String) : String :=
  let safe := String.ofList (text.toList.map fun c =>
    if 'a' ≤ c ∧ c ≤ 'z' ∨ 'A' ≤ c ∧ c ≤ 'Z' ∨ '0' ≤ c ∧ c ≤ '9' then c else '_')
  if safe = "" then "unnamed" else safe

/-- The names that the generator gives to symbols of its own, apart from `main`. -/
inductive Reserved : String → Prop where
  | library {name : String} (member : name ∈ ["printf", "scanf", "write", "exit", "strcmp"]) :
      Reserved name
  | text {name : String} (member : name ∈ ["runtime_error_text", "string_literal"]) : Reserved name
  | hook {kind : AiKind} {name : String} {arity : Nat} (called : kind.hook = some (name, arity)) :
      Reserved name
  | hookArgument {kind : AiKind} {hook : String} {arity : Nat}
      (called : kind.hook = some (hook, arity)) (index : Nat) :
      Reserved (safeMetadataName hook ++ "_arg" ++ toString index)
  | metadata {kind : AiKind} {text : String} (metadata : kind.metadata = some text)
      (name : String) (counter : Nat) :
      Reserved ("shorthand_ai_" ++ safeMetadataName text ++ "_" ++ safeMetadataName name ++ "_" ++
        toString counter)

/-- The symbols of the module, oldest first. -/
structure SymbolTable where
  symbols : List Symbol := []
  lastUnique : Nat := 0
  /-- The names under which the generator asked for symbols of its own. -/
  requested : List { name : String // Reserved name } := []

/-- What the names of the current place mean. -/
structure Names where
  globalScalars : String → Option ShortType := fun _ => none
  globalArrays : String → Option ShortType := fun _ => none
  functionReturns : String → Option ShortType := fun _ => none
  functionParameters : String → Option (List ShortType) := fun _ => none
  /-- The lexical scopes of the current function, innermost first. -/
  locals : List (String → Option Local) := []
  localTypes : List (String → Option VariableInfo) := []

structure Builder (H : Host) where
  table : SymbolTable := {}
  next : Nat := 0
  ret : Option (Value H) := none
  retType : ShortType := .int
  loadType : ShortType := .int
  loadVariable : Bool := false

/-- How the generator itself ends before its work is done. -/
inductive Crash where
  | missingValue
  | redeclared (name : String)
  | missingParameter
  deriving DecidableEq

/-- A visit inside a block: it reads the names, changes the builder and adds code. -/
def Build (H : Host) (α : Type) := Names → Builder H → Except Crash (α × Builder H × Code H)

instance : Monad (Build H) where
  pure value := fun _ builder => .ok (value, builder, .empty)
  bind action later := fun names builder =>
    match action names builder with
    | .error crash => .error crash
    | .ok (value, middle, code) =>
      match later value names middle with
      | .error crash => .error crash
      | .ok (result, last, added) => .ok (result, last, code.append added)

namespace Build

def names : Build H Names := fun names builder => .ok (names, builder, .empty)

def get : Build H (Builder H) := fun _ builder => .ok (builder, builder, .empty)

def modify (change : Builder H → Builder H) : Build H Unit := fun _ builder =>
  .ok ((), change builder, .empty)

def fail {α : Type} (crash : Crash) : Build H α := fun _ _ => .error crash

end Build

def parseType : ShortType → LowType
  | .boolean => .i32
  | .int => .i32
  | .void => .void
  | .float => .double
  | .string => .pointer

def emit (name : String) (instruction : Instruction H)
    (undivided : instruction.divides = false := by rfl) : Build H (Operand H) := fun _ builder =>
  .ok (.register builder.next, { builder with next := builder.next + 1 },
    ⟨[⟨name, builder.next, instruction⟩], .plain undivided⟩)

/-- A division together with its check. -/
def emitDivision (name : String) (op : Operation) (message : String) (left right : Operand H) :
    Build H (Operand H) := fun _ builder =>
  .ok (.register (builder.next + 6), { builder with next := builder.next + 7 },
    ⟨divisionPiece builder.next name op message left right, .division⟩)

/-- A value that an instruction is built from. -/
def given : Option (Value H) → Build H (Value H)
  | none => Build.fail .missingValue
  | some value => pure value

def setResult (value : Option (Value H)) (type : ShortType) : Build H Unit :=
  Build.modify fun builder => { builder with ret := value, retType := type }

def showError : Build H Unit := Build.modify fun builder => { builder with ret := none }

def stopLoading : Build H Unit :=
  Build.modify fun builder => { builder with loadVariable := false }

def typedLoad (pointer : Value H) (type : LowType) : Build H (Value H) := do
  let loaded ← emit "loadtmp" (.load type pointer.operand)
  return ⟨loaded, type⟩

def asI32 : Option (Value H) → Build H (Option (Value H))
  | none => return none
  | some value =>
    match value.type with
    | .i32 => return some value
    | .i1 => do
      let widened ← emit "booltoint" (.extend value.operand)
      return some ⟨widened, .i32⟩
    | .double | .pointer => return none
    | .void => Build.fail .missingValue

def asBool : Option (Value H) → Build H (Option (Value H))
  | none => return none
  | some value =>
    match value.type with
    | .i1 => return some value
    | .double | .pointer => return none
    | _ => do
      let number ← asI32 (some value)
      let number ← given number
      let flag ← emit "tobool" (.binary .ne number.operand (.integer 0))
      return some ⟨flag, .i1⟩

def asExactLoweredType (value : Option (Value H)) (expected : ShortType) :
    Build H (Option (Value H)) :=
  match value with
  | none => return none
  | some value =>
    match expected, value.type with
    | .boolean, .i1 => do
      let stored ← emit "bool_storage" (.extend value.operand)
      return some ⟨stored, .i32⟩
    | .boolean, .i32 => return some value
    | .int, .i32 => return some value
    | .float, .double => return some value
    | .string, .pointer => return some value
    | _, _ => return none

namespace SymbolTable

variable (table : SymbolTable)

def getFunction (name : String) : Option Symbol :=
  table.symbols.find? fun symbol => symbol.name == name && symbol.kind.isFunction

def getNamedGlobal (name : String) : Option Symbol :=
  table.symbols.find? fun symbol => symbol.name == name && !symbol.kind.isFunction

def taken (name : String) : Bool := table.symbols.any fun symbol => symbol.name == name

/-- The name of a new symbol; LLVM renames it if the name is taken. -/
def freshName (name : String) : String :=
  if table.taken name then name ++ "." ++ toString (table.lastUnique + 1) else name

def create (name : String) (kind : SymbolKind) : SymbolTable :=
  { table with
    symbols := table.symbols ++ [⟨table.freshName name, kind⟩]
    lastUnique := if table.taken name then table.lastUnique + 1 else table.lastUnique }

def request (name : String) (reserved : Reserved name) : SymbolTable :=
  { table with requested := table.requested ++ [⟨name, reserved⟩] }

def getOrInsertFunction (name : String) (arity : Nat) (returns : LowType)
    (reserved : Reserved name := by exact .library (by decide)) : SymbolTable :=
  if table.taken name then table.request name reserved
  else (table.request name reserved).create name (.function arity returns)

def createGlobalString (name : String) (reserved : Reserved name := by exact .text (by decide)) :
    SymbolTable :=
  (table.request name reserved).create name .constant

end SymbolTable

def onTable (change : SymbolTable → SymbolTable) : Build H Unit :=
  Build.modify fun builder => { builder with table := change builder.table }

/-- The symbols of a runtime check. -/
def requestCheck (table : SymbolTable) : SymbolTable :=
  ((table.createGlobalString "runtime_error_text").getOrInsertFunction "write" 3 .i32).getOrInsertFunction
    "exit" 1 .void

def emitRuntimeFailureIf (condition : Value H) (code message : String) : Build H Unit := do
  let flag ← asBool (some condition)
  let flag ← given flag
  onTable requestCheck
  let _ ← emit "" (.failIf flag.operand code message)
  return ()

def findLocal {α : Type} (name : String) : List (String → Option α) → Option α
  | [] => none
  | scope :: rest => scope name <|> findLocal name rest

/-- The innermost local of the name that is an array or is none. -/
def findLocalType (name : String) (array : Bool) : List (String → Option VariableInfo) →
    Option ShortType
  | [] => none
  | scope :: rest =>
    match scope name with
    | some info => if info.isArray = array then some info.type else findLocalType name array rest
    | none => findLocalType name array rest

def Names.variableType (names : Names) (name : String) (array : Bool) : ShortType :=
  match findLocalType name array names.localTypes with
  | some type => type
  | none => (if array then names.globalArrays name else names.globalScalars name).getD .int

/-- Where a name is stored: a local, or else a global variable. -/
def storage (H : Host) (names : Names) (table : SymbolTable) (name : String) :
    Option (Operand H × StoredType) :=
  match findLocal name names.locals with
  | some found => some (.slot found.slot, found.stored)
  | none =>
    match table.getNamedGlobal name with
    | some ⟨symbol, .storage stored⟩ => some (.global symbol, stored)
    | some ⟨symbol, _⟩ => some (.global symbol, .scalar .void)
    | none => none

def setAddress (address : Option (Value H)) (type : ShortType) : Build H Unit :=
  Build.modify fun builder =>
    { builder with ret := address, loadType := type, retType := type, loadVariable := true }

/-- The value of the last visit. -/
def getExpression : Build H (Option (Value H)) := do
  let builder ← Build.get
  if builder.loadVariable then do
    let pointer ← given builder.ret
    let value ← typedLoad pointer (parseType builder.loadType)
    Build.modify fun after => { after with retType := builder.loadType, loadVariable := false }
    return some value
  else return builder.ret

/-- A visit and the read of its value. -/
def valueOf (visit : Build H Unit) : Build H (Option (Value H)) := do
  visit
  getExpression

def getCondition : Build H (Option (Value H)) := do
  let value ← getExpression
  asBool value

def visitSimple (name : String) : Build H Unit := do
  let names ← Build.names
  let builder ← Build.get
  setAddress ((storage H names builder.table name).map fun found => ⟨found.1, .pointer⟩)
    (names.variableType name false)

/-- The bounds check and the address of an element. -/
def visitElement (name : String) (index : Option (Value H)) : Build H Unit := do
  let names ← Build.names
  let builder ← Build.get
  match storage H names builder.table name with
  | some (pointer, .array _ extent) => do
    let index ← given index
    let negative ← emit "array_index_negative" (.binary .slt index.operand (.integer 0))
    let tooLarge ← emit "array_index_too_large"
      (.binary .sge index.operand (.integer (BitVec.ofNat 32 extent)))
    let outside ← emit "array_bounds_error" (.binary .or negative tooLarge)
    emitRuntimeFailureIf ⟨outside, .i1⟩ "SHD7002"
      ("array index is outside declared bounds for `" ++ name ++ "`")
    let element ← emit (name ++ "_IDX") (.element pointer index.operand)
    setAddress (some ⟨element, .pointer⟩) (names.variableType name true)
  | _ => showError

def safeStringPointer (value : Value H) : Build H (Operand H) := do
  let isNull ← emit "string_is_null" (.binary .eq value.operand .null)
  emit "safe_string" (.select isNull (.text "") value.operand)

def visitTextComparison (op : BinaryOp) (left right : Option (Value H)) : Build H Unit := do
  onTable (·.getOrInsertFunction "strcmp" 2 .i32)
  let left ← given left
  let right ← given right
  let first ← safeStringPointer left
  let second ← safeStringPointer right
  let order ← emit "strcmp_result" (.strcmp first second)
  let equal ← emit "string_equal" (.binary .eq order (.integer 0))
  if op = .equal then setResult (some ⟨equal, .i1⟩) .boolean
  else do
    let different ← emit "string_not_equal" (.invert equal)
    setResult (some ⟨different, .i1⟩) .boolean

/-- One operation on the two operands. -/
def binaryResult (name : String) (op : Operation) (type : ShortType)
    (left right : Option (Value H)) (undivided : op.divides = false := by rfl) : Build H Unit := do
  let left ← given left
  let right ← given right
  let result ← emit name (.binary op left.operand right.operand) undivided
  setResult (some ⟨result, op.resultType⟩) type

def visitFloatOperator (op : BinaryOp) (left right : Option (Value H)) : Build H Unit :=
  match op with
  | .plus => binaryResult "faddtmp" .fadd .float left right
  | .minus => binaryResult "fsubtmp" .fsub .float left right
  | .multiply => binaryResult "fmultmp" .fmul .float left right
  | .divide => do
    let divisor ← given right
    let zero ← emit "float_zero_divisor" (.binary .foeq divisor.operand (.float H.zero))
    emitRuntimeFailureIf ⟨zero, .i1⟩ "SHD7001"
      "float division by zero is forbidden by shorthand.type_memory.v1"
    binaryResult "fdivtmp" .fdiv .float left right
  | .less => binaryResult "flttmp" .folt .boolean left right
  | .greater => binaryResult "fgttmp" .fogt .boolean left right
  | .lessOrEqual => binaryResult "fletmp" .fole .boolean left right
  | .greaterOrEqual => binaryResult "fgetmp" .foge .boolean left right
  | .equal => binaryResult "feqtmp" .foeq .boolean left right
  | .notEqual => binaryResult "fnetmp" .fune .boolean left right
  | .modulo | .or | .and => showError

def visitDivision (name : String) (op : Operation) (message : String)
    (left right : Option (Value H)) : Build H Unit := do
  let left ← given left
  let right ← given right
  onTable requestCheck
  let result ← emitDivision name op message left.operand right.operand
  setResult (some ⟨result, op.resultType⟩) .int

def visitLogic (name : String) (op : Operation) (left right : Option (Value H))
    (undivided : op.divides = false := by rfl) : Build H Unit := do
  let first ← asBool left
  let second ← asBool right
  binaryResult name op .boolean first second undivided

def visitOperator (op : BinaryOp) (left right : Option (Value H)) : Build H Unit :=
  match op with
  | .plus => binaryResult "addtmp" .add .int left right
  | .minus => binaryResult "subtmp" .sub .int left right
  | .multiply => binaryResult "multmp" .mul .int left right
  | .divide => visitDivision "divtmp" .sdiv "integer division domain error" left right
  | .modulo => visitDivision "modtmp" .srem "integer remainder domain error" left right
  | .less => binaryResult "lttmp" .slt .boolean left right
  | .greater => binaryResult "gttmp" .sgt .boolean left right
  | .lessOrEqual => binaryResult "letmp" .sle .boolean left right
  | .greaterOrEqual => binaryResult "getmp" .sge .boolean left right
  | .equal => binaryResult "eqtmp" .eq .boolean left right
  | .notEqual => binaryResult "netmp" .ne .boolean left right
  | .or => visitLogic "ortmp" .or left right
  | .and => visitLogic "andtmp" .and left right

/-- What follows the visits of both operands. -/
def visitBinary (op : BinaryOp) (leftType rightType : ShortType) (left right : Option (Value H)) :
    Build H Unit := do
  let widened := leftType = .boolean ∧ rightType = .boolean
  let left ← if widened then asExactLoweredType left .boolean else pure left
  let right ← if widened then asExactLoweredType right .boolean else pure right
  if leftType ≠ rightType then showError
  else do
    if leftType = .string ∧ (op = .equal ∨ op = .notEqual) then visitTextComparison op left right
    else if leftType = .float then visitFloatOperator op left right
    else visitOperator op left right
    stopLoading

def visitMinus (operand : Option (Value H)) : Build H Unit := do
  let operand ← given operand
  let builder ← Build.get
  if builder.retType = .float then do
    let result ← emit "fnegtmp" (.negate operand.operand)
    setResult (some ⟨result, .double⟩) .float
  else do
    let result ← emit "negtmp" (.binary .sub (.integer 0) operand.operand)
    setResult (some ⟨result, .i32⟩) builder.retType
  stopLoading

def stripQuotes (text : String) : String :=
  if 2 ≤ text.length ∧ text.front = '"' ∧ text.back = '"'
  then ((text.drop 1).dropEnd 1).toString else text

/-- The call once its arguments are there. -/
def finishCall (name : String) (symbol : Symbol) (arguments : List (Operand H)) : Build H Unit := do
  let names ← Build.names
  let result ← emit "calltmp" (.call symbol.name arguments)
  setResult (some ⟨result, symbol.kind.returns⟩) ((names.functionReturns name).getD .int)
  stopLoading

/-- An argument, in the type of its parameter if there is one. -/
def argumentValue (parameter : Option ShortType) (value : Option (Value H)) :
    Build H (Option (Value H)) :=
  match parameter with
  | some type => asExactLoweredType value type
  | none => return value

mutual

def visitExpr : Expr H → Build H Unit
  | .literal value => setResult (some ⟨.integer value, .i32⟩) .int
  | .boolLiteral value => do
    setResult (some ⟨.integer (if value then 1 else 0), .i32⟩) .boolean
    stopLoading
  | .floatLiteral value => do
    setResult (some ⟨.float value, .double⟩) .float
    stopLoading
  | .stringLiteral text => do
    onTable (·.createGlobalString "string_literal")
    setResult (some ⟨.text (stripQuotes text), .pointer⟩) .string
    stopLoading
  | .variableRef target => visitTarget target
  | .unaryMinus operand => do
    let value ← valueOf (visitExpr operand)
    visitMinus value
  | .binary op left right => do
    let leftValue ← valueOf (visitExpr left)
    let afterLeft ← Build.get
    let rightValue ← valueOf (visitExpr right)
    let afterRight ← Build.get
    visitBinary op afterLeft.retType afterRight.retType leftValue rightValue
  | .call name arguments => do
    let names ← Build.names
    let builder ← Build.get
    match builder.table.getFunction name with
    | some symbol =>
      if symbol.kind.arity = arguments.length then do
        let values ← visitArguments ((names.functionParameters name).getD []) arguments
        match values with
        | some values => finishCall name symbol values
        | none => return ()
      else showError
    | none => showError

def visitTarget : Variable H → Build H Unit
  | .simple name => visitSimple name
  | .array name index => do
    let position ← valueOf (visitExpr index)
    visitElement name position

/-- The arguments of a call; none if one of them has no value. -/
def visitArguments (parameters : List ShortType) : List (Expr H) → Build H (Option (List (Operand H)))
  | [] => return some []
  | argument :: rest => do
    let value ← valueOf (visitExpr argument)
    let value ← argumentValue parameters.head? value
    match value with
    | none => return none
    | some value => do
      let values ← visitArguments parameters.tail rest
      return values.map (value.operand :: ·)

end

end ShortHand.Codegen
