import ShortHand.Library.Exec
import ShortHand.Language.Syntax

/-! The tree-walking interpreter. Frames are searched outwards and include those of all callers.
A clause receives its recursive calls as a `Visitor`, and `interpreter` closes the recursion
with fuel. -/

namespace ShortHand.Language

open ShortHand.Library

variable {H : Host}

structure RuntimeValue (H : Host) where
  type : ShortType := .int
  intValue : IntValue := 0
  floatValue : H.Double
  stringValue : String := ""

def defaultValue (H : Host) (type : ShortType) : RuntimeValue H := { type, floatValue := H.zero }

def intResult (H : Host) (value : IntValue) : RuntimeValue H :=
  { defaultValue H .int with intValue := value }

def boolResult (H : Host) (value : Bool) : RuntimeValue H :=
  { defaultValue H .boolean with intValue := if value then 1 else 0 }

def floatResult (value : H.Double) : RuntimeValue H := { type := .float, floatValue := value }

def truthy (value : RuntimeValue H) : Bool :=
  match value.type with
  | .float => !H.equal value.floatValue H.zero
  | .string => value.stringValue != ""
  | _ => value.intValue != 0

def unquoteShortString (text : String) : String :=
  if 2 ≤ text.length ∧ text.front = '"' ∧ text.back = '"'
  then ((text.drop 1).dropEnd 1).toString else text

structure Frame (H : Host) where
  scalars : String → Option (RuntimeValue H) := fun _ => none
  arrays : String → Option (List (RuntimeValue H)) := fun _ => none

structure State (H : Host) where
  globals : Frame H
  /-- The frames above the global one, innermost first. -/
  locals : List (Frame H) := []
  input : H.Input
  /-- What was printed, in order. -/
  output : List String := []
  callDepth : Nat := 0
  gotoTransfers : Nat := 0
  returnValue : RuntimeValue H
  ai : H.AiState

def kMaxCallDepth : Nat := 256

def kMaxGotoTransfers : Nat := 1000000

/-- Why an array access returned false. -/
inductive ArrayFault where
  | undeclared
  | outside (index : IntValue) (extent : Nat)
  | mistyped
  deriving DecidableEq

/-- The runtime errors of the source. -/
inductive Failure where
  | duplicateScalar (name : String)
  | duplicateArray (name : String)
  | missingFunction (name : String)
  | parameterLayout (name : String)
  | arityChanged (name : String)
  | callDepth
  | argumentType
  | signalEscapedFunction (name : String)
  | missingReturn (name : String)
  | signalEscapedProgram
  | gotoEscaped (label : String)
  | gotoBudget
  | topLevelReturn
  | undeclaredScalar (name : String)
  | undeclaredTarget (name : String)
  | undeclaredCounter
  | undeclaredRead
  | readFailed
  | arrayRead (name : String) (fault : ArrayFault)
  | arrayWrite (name : String) (fault : ArrayFault)
  | counterBounds (fault : ArrayFault)
  | readBounds (fault : ArrayFault)
  | floatDivision
  | integerDivision
  | integerRemainder
  | stepZero
  /-- Not of the source: a call that the checked linkage refuses. -/
  | hidden (function : String)
  deriving DecidableEq

/-- The diagnostic code the source prints with an error. -/
def Failure.code : Failure → String
  | .arityChanged _ => "SHD3004"
  | .floatDivision | .integerDivision | .integerRemainder => "SHD7001"
  | .arrayRead _ _ | .arrayWrite _ _ | .counterBounds _ | .readBounds _ => "SHD7002"
  | .stepZero => "SHD7003"
  | .hidden _ => ""
  | _ => "SHD7004"

def Failure.message : Failure → String
  | .duplicateScalar name => "duplicate scalar declaration reached runtime: `" ++ name ++ "`"
  | .duplicateArray name => "duplicate array declaration reached runtime: `" ++ name ++ "`"
  | .missingFunction name => "function registry missing `" ++ name ++ "`"
  | .parameterLayout name => "unsupported function parameter layout for `" ++ name ++ "`"
  | .arityChanged name => "function " ++ name ++ " arity changed after semantic validation"
  | .callDepth => "maximum deterministic function call depth exceeded"
  | .argumentType => "function argument type mismatch reached runtime after semantic validation"
  | .signalEscapedFunction name => "control-flow signal escaped function `" ++ name ++ "`"
  | .missingReturn name => "non-void function completed without a return value: `" ++ name ++ "`"
  | .signalEscapedProgram => "control-flow signal escaped the top-level program"
  | .gotoEscaped label => "goto target escaped its validated lexical block: `" ++ label ++ "`"
  | .gotoBudget => "maximum deterministic goto transfer budget exceeded"
  | .topLevelReturn => "return reached top-level runtime"
  | .undeclaredScalar name => "scalar is not declared: `" ++ name ++ "`"
  | .undeclaredTarget name => "assignment target is not declared: `" ++ name ++ "`"
  | .undeclaredCounter => "loop variable is not declared"
  | .undeclaredRead => "read target is not declared"
  | .readFailed => "read failed to parse typed input"
  | .arrayRead name _ => "array index is outside declared bounds for `" ++ name ++ "`"
  | .arrayWrite name _ => "array write is outside declared bounds for `" ++ name ++ "`"
  | .counterBounds _ => "loop variable array index out of bounds"
  | .readBounds _ => "read target array index out of bounds"
  | .floatDivision => "float division by zero is forbidden by shorthand.type_memory.v1"
  | .integerDivision => "integer division has an invalid divisor or overflow case"
  | .integerRemainder => "integer remainder has an invalid divisor or overflow case"
  | .stepZero => "loop step must be non-zero"
  | .hidden _ => ""

abbrev Run (H : Host) := Exec (State H) Failure

namespace Frame

def setScalar (frame : Frame H) (name : String) (value : RuntimeValue H) : Frame H :=
  { frame with scalars := Function.update frame.scalars name (some value) }

def setArray (frame : Frame H) (name : String) (values : List (RuntimeValue H)) : Frame H :=
  { frame with arrays := Function.update frame.arrays name (some values) }

end Frame

def findIn {α : Type} (field : Frame H → Option α) : List (Frame H) → Option α
  | [] => none
  | frame :: rest => field frame <|> findIn field rest

/-- Change the innermost frame that has the name. -/
def updateIn {α : Type} (field : Frame H → Option α) (change : Frame H → Frame H) :
    List (Frame H) → Option (List (Frame H))
  | [] => none
  | frame :: rest =>
    if (field frame).isSome then some (change frame :: rest)
    else (updateIn field change rest).map (frame :: ·)

/-- The bounds check of an array access. -/
def elementAt (values : List (RuntimeValue H)) (index : IntValue) :
    Except ArrayFault (RuntimeValue H) :=
  if index.toInt < 0 then .error (.outside index values.length)
  else match values[index.toNat]? with
    | none => .error (.outside index values.length)
    | some value => .ok value

namespace State

variable (state : State H)

def find {α : Type} (field : Frame H → Option α) : Option α :=
  findIn field state.locals <|> field state.globals

/-- Change the innermost frame that has the name, the global one last. -/
def update {α : Type} (field : Frame H → Option α) (change : Frame H → Frame H) : State H :=
  match updateIn field change state.locals with
  | some locals => { state with locals }
  | none => { state with globals := change state.globals }

def readScalar (name : String) : Option (RuntimeValue H) := state.find (·.scalars name)

def writeScalar (name : String) (value : RuntimeValue H) : Option (State H) :=
  match state.readScalar name with
  | none => none
  | some found =>
    if found.type = value.type
    then some (state.update (·.scalars name) (·.setScalar name value)) else none

def readArray (name : String) (index : IntValue) : Except ArrayFault (RuntimeValue H) :=
  match state.find (·.arrays name) with
  | none => .error .undeclared
  | some values => elementAt values index

def writeArray (name : String) (index : IntValue) (value : RuntimeValue H) :
    Except ArrayFault (State H) :=
  match state.find (·.arrays name) with
  | none => .error .undeclared
  | some values =>
    match elementAt values index with
    | .error fault => .error fault
    | .ok found =>
      if found.type = value.type
      then .ok (state.update (·.arrays name) (·.setArray name (values.set index.toNat value)))
      else .error .mistyped

/-- The frame that declarations go to. -/
def innermost : Frame H := state.locals.headD state.globals

def setInnermost (frame : Frame H) : State H :=
  match state.locals with
  | [] => { state with globals := frame }
  | _ :: rest => { state with locals := frame :: rest }

def push (frame : Frame H) : State H := { state with locals := frame :: state.locals }

def pop : State H := { state with locals := state.locals.tail }

def countTransfer : State H := { state with gotoTransfers := state.gotoTransfers + 1 }

end State

/-- How a function's frame is put on top of its caller's: `source` is what the code
does, the other linkages are for comparison with it. -/
structure Linkage (H : Host) where
  refuses : Function H → State H → Bool
  enter : List (Frame H) → List (Frame H)
  leave : List (Frame H) → List (Frame H) → List (Frame H)

/-- The callee's frame goes on top of all others; some calls are refused. -/
def Linkage.guarded (refuses : Function H → State H → Bool) : Linkage H where
  refuses := refuses
  enter callers := callers
  leave _ after := after.tail

def Linkage.source (H : Host) : Linkage H := .guarded fun _ _ => false

/-- How a block ends: a `goto` never leaves the block it is in. -/
inductive Exit where
  | normal
  | returned
  | breakLoop
  | continueLoop
  deriving DecidableEq

/-- The flow signal of a statement. -/
inductive Flow where
  | exit (kind : Exit)
  | goto (label : String)
  deriving DecidableEq

inductive Place where
  | scalar (name : String)
  | element (name : String) (index : IntValue)
  deriving DecidableEq

/-- The recursive calls of the clauses. -/
structure Visitor (H : Host) where
  evaluate : Expr H → Run H (RuntimeValue H)
  statement : Stmt H → Run H Flow
  blockFrom : List (Stmt H) → Nat → Run H Exit
  whileLoop : Expr H → List (Stmt H) → Run H Exit
  forLoop : Variable H → Expr H → Expr H → List (Stmt H) → Run H Exit

def declareScalar (entry : String × ShortType) : Run H Unit := do
  let state ← Exec.get
  if (state.innermost.scalars entry.1).isSome then Exec.fail (.duplicateScalar entry.1)
  else Exec.modify fun state =>
    state.setInnermost (state.innermost.setScalar entry.1 (defaultValue H entry.2))

def declareArray (entry : String × ShortType × Int) : Run H Unit := do
  let state ← Exec.get
  if (state.innermost.arrays entry.1).isSome then Exec.fail (.duplicateArray entry.1)
  else Exec.modify fun state =>
    state.setInnermost (state.innermost.setArray entry.1
      (List.replicate entry.2.2.toNat (defaultValue H entry.2.1)))

def initializeDeclarations (block : Declarations) : Run H Unit := do
  Exec.each declareScalar block.typedScalars
  Exec.each declareArray block.typedArrays

def visitVariable (visitor : Visitor H) : Variable H → Run H (Place × RuntimeValue H)
  | .simple name => do
    let state ← Exec.get
    match state.readScalar name with
    | none => Exec.fail (.undeclaredScalar name)
    | some value => return (.scalar name, value)
  | .array name index => do
    let position ← visitor.evaluate index
    let state ← Exec.get
    match state.readArray name position.intValue with
    | .error fault => Exec.fail (.arrayRead name fault)
    | .ok value => return (.element name position.intValue, value)

/-- The write that follows a visit of the target; the errors depend on the statement. -/
def store (undeclared : String → Failure) (outside : String → ArrayFault → Failure)
    (value : RuntimeValue H) : Place → Run H Unit
  | .scalar name => fun state =>
    match state.writeScalar name value with
    | none => .failed (undeclared name) state
    | some after => .ok () after
  | .element name index => fun state =>
    match state.writeArray name index value with
    | .error fault => .failed (outside name fault) state
    | .ok after => .ok () after

def minInt : IntValue := BitVec.intMin 32

def floatBinary (op : BinaryOp) (left right : H.Double) : Except Failure (RuntimeValue H) :=
  match op with
  | .plus => .ok (floatResult (H.add left right))
  | .minus => .ok (floatResult (H.sub left right))
  | .multiply => .ok (floatResult (H.mul left right))
  | .divide =>
    if H.equal right H.zero then .error .floatDivision else .ok (floatResult (H.div left right))
  | .less => .ok (boolResult H (H.less left right))
  | .greater => .ok (boolResult H (H.less right left))
  | .lessOrEqual => .ok (boolResult H (H.lessEqual left right))
  | .greaterOrEqual => .ok (boolResult H (H.lessEqual right left))
  | .equal => .ok (boolResult H (H.equal left right))
  | .notEqual => .ok (boolResult H (!H.equal left right))
  | .modulo | .or | .and => .ok (defaultValue H .boolean)

def stringBinary (op : BinaryOp) (left right : String) : RuntimeValue H :=
  match op with
  | .equal => boolResult H (left == right)
  | .notEqual => boolResult H (left != right)
  | _ => defaultValue H .boolean

def intBinary (op : BinaryOp) (left right : IntValue) : Except Failure (RuntimeValue H) :=
  match op with
  | .plus => .ok (intResult H (left + right))
  | .minus => .ok (intResult H (left - right))
  | .multiply => .ok (intResult H (left * right))
  | .divide =>
    if right = 0 ∨ (left = minInt ∧ right = -1) then .error .integerDivision
    else .ok (intResult H (left.sdiv right))
  | .modulo =>
    if right = 0 ∨ (left = minInt ∧ right = -1) then .error .integerRemainder
    else .ok (intResult H (left.srem right))
  | .less => .ok (boolResult H (left.slt right))
  | .greater => .ok (boolResult H (right.slt left))
  | .lessOrEqual => .ok (boolResult H (left.sle right))
  | .greaterOrEqual => .ok (boolResult H (right.sle left))
  | .equal => .ok (boolResult H (left == right))
  | .notEqual => .ok (boolResult H (left != right))
  | .or => .ok (boolResult H (left != 0 || right != 0))
  | .and => .ok (boolResult H (left != 0 && right != 0))

def applyBinary (op : BinaryOp) (left right : RuntimeValue H) : Except Failure (RuntimeValue H) :=
  match left.type with
  | .float => floatBinary op left.floatValue right.floatValue
  | .string => .ok (stringBinary op left.stringValue right.stringValue)
  | _ => intBinary op left.intValue right.intValue

def applyMinus (value : RuntimeValue H) : RuntimeValue H :=
  match value.type with
  | .float => { value with floatValue := H.neg value.floatValue }
  | _ => { value with intValue := 0 - value.intValue }

/-- The frame of the parameters; none if an argument has another type. -/
def bindArguments : List (String × ShortType) → List (RuntimeValue H) → Frame H → Option (Frame H)
  | parameter :: parameters, argument :: arguments, frame =>
    if parameter.2 = argument.type
    then bindArguments parameters arguments (frame.setScalar parameter.1 argument) else none
  | [], _ :: _, _ => none
  | _, [], frame => some frame

/-- The body of a call, with the checks of its end. -/
def runBody (visitor : Visitor H) (function : Function H) : Run H (RuntimeValue H) := do
  let exit ← visitor.blockFrom function.body 0
  match exit with
  | .breakLoop | .continueLoop => Exec.fail (.signalEscapedFunction function.name)
  | .returned =>
    let state ← Exec.get
    return state.returnValue
  | .normal =>
    if function.type = .void then return defaultValue H function.type
    else Exec.fail (.missingReturn function.name)

variable (linkage : Linkage H) (program : Program H)

/-- Push the frame of a call and set up its return value. -/
def enterCall (function : Function H) (frame : Frame H) (state : State H) : State H :=
  { state with
    locals := frame :: linkage.enter state.locals
    callDepth := state.callDepth + 1
    returnValue := defaultValue H function.type }

def leaveCall (before after : State H) : State H :=
  { after with
    locals := linkage.leave before.locals after.locals
    callDepth := after.callDepth - 1
    returnValue := before.returnValue }

/-- The body of a function in a frame of its own. -/
def activate (visitor : Visitor H) (function : Function H) (frame : Frame H) :
    Run H (RuntimeValue H) :=
  Exec.bracket (enterCall linkage function frame) (leaveCall linkage) (runBody visitor function)

def invokeFunction (visitor : Visitor H) (name : String) (arguments : List (RuntimeValue H)) :
    Run H (RuntimeValue H) :=
  match program.findFunction name with
  | none => Exec.fail (.missingFunction name)
  | some function =>
    if function.parameters.typedArrays ≠ [] then Exec.fail (.parameterLayout name)
    else if function.parameters.typedScalars.length ≠ arguments.length then
      Exec.fail (.arityChanged name)
    else do
      let state ← Exec.get
      if kMaxCallDepth ≤ state.callDepth then Exec.fail .callDepth
      else match bindArguments function.parameters.typedScalars arguments {} with
        | none => Exec.fail .argumentType
        | some frame =>
          if linkage.refuses function state then Exec.fail (.hidden name)
          else activate linkage visitor function frame

def visitExpression (visitor : Visitor H) : Expr H → Run H (RuntimeValue H)
  | .literal value => return intResult H value
  | .boolLiteral value => return boolResult H value
  | .floatLiteral value => return floatResult value
  | .stringLiteral text =>
    return { defaultValue H .string with stringValue := unquoteShortString text }
  | .variableRef target => do
    let (_, value) ← visitVariable visitor target
    return value
  | .unaryMinus operand => do
    let value ← visitor.evaluate operand
    return applyMinus value
  | .binary op left right => do
    let leftValue ← visitor.evaluate left
    let rightValue ← visitor.evaluate right
    match applyBinary op leftValue rightValue with
    | .error failure => Exec.fail failure
    | .ok value => return value
  | .call name arguments => do
    let values ← Exec.collect visitor.evaluate arguments
    invokeFunction linkage program visitor name values

def emit (text : String) : Run H Unit :=
  Exec.modify fun state => { state with output := state.output ++ [text] }

def printedText (value : RuntimeValue H) : String :=
  match value.type with
  | .float => H.text value.floatValue
  | .string => value.stringValue
  | _ => toString value.intValue.toInt

def printItem (visitor : Visitor H) (item : Expr H) : Run H Unit := do
  let value ← visitor.evaluate item
  emit (printedText value)

def visitPrint (visitor : Visitor H) : List (Expr H) → Run H Unit
  | [] => emit "\n"
  | first :: rest => do
    printItem visitor first
    Exec.each (fun item => do emit " "; printItem visitor item) rest
    emit "\n"

/-- The next value of the input for a target of this type. -/
def scanValue (current : RuntimeValue H) : Run H (RuntimeValue H) := fun state =>
  match current.type with
  | .float =>
    match H.readFloat state.input with
    | none => .failed .readFailed state
    | some (value, input) => .ok { current with floatValue := value } { state with input }
  | _ =>
    match H.readInt state.input with
    | none => .failed .readFailed state
    | some (value, input) => .ok { current with intValue := value } { state with input }

def visitRead (visitor : Visitor H) (target : Variable H) : Run H Unit := do
  let (place, current) ← visitVariable visitor target
  let value ← scanValue current
  store (fun _ => .undeclaredRead) (fun _ => .readBounds) value place

def storeCounter (value : IntValue) (place : Place) : Run H Unit :=
  store (fun _ => .undeclaredCounter) (fun _ => .counterBounds) (intResult H value) place

/-- The line of a report; a zero energy has efficiency zero, and the one quotient
that overflows, undefined in the source, wraps. -/
def reportLine (workload : String) (inferences watts seconds : IntValue) : String :=
  let energy := watts * seconds
  let efficiency := if energy = 0 then 0 else inferences.sdiv energy
  "GreenAI workload " ++ unquoteShortString workload ++ ": inferences=" ++
    toString inferences.toInt ++ " energy_j=" ++ toString energy.toInt ++ " inf_per_j=" ++
    toString efficiency.toInt ++ "\n"

/-- A braced block: a frame of its own around the statements. -/
def visitBlock (visitor : Visitor H) (statements : List (Stmt H)) : Run H Exit :=
  Exec.bracket (fun state => state.push {}) (fun _ after => after.pop)
    (visitor.blockFrom statements 0)

def Flow.ofExit (action : Run H Exit) : Run H Flow := do
  let kind ← action
  return .exit kind

def Flow.after (action : Run H Unit) : Run H Flow := do
  action
  return .exit .normal

def visitStatement (visitor : Visitor H) : Stmt H → Run H Flow
  | .declaration block => Flow.after (initializeDeclarations block)
  | .expression value => do
    let _ ← visitor.evaluate value
    return .exit .normal
  | .assignment target value => do
    let assigned ← visitor.evaluate value
    let (place, _) ← visitVariable visitor target
    Flow.after (store .undeclaredTarget .arrayWrite assigned place)
  | .block statements => Flow.ofExit (visitBlock visitor statements)
  | .ifThen condition ifBlock => do
    let value ← visitor.evaluate condition
    if truthy value then Flow.ofExit (visitBlock visitor ifBlock) else return .exit .normal
  | .ifElse condition ifBlock elseBlock => do
    let value ← visitor.evaluate condition
    if truthy value then Flow.ofExit (visitBlock visitor ifBlock)
    else Flow.ofExit (visitBlock visitor elseBlock)
  | .forLoop counter start step limit body => do
    let initial ← visitor.evaluate start
    let (place, _) ← visitVariable visitor counter
    storeCounter initial.intValue place
    Flow.ofExit (visitor.forLoop counter step limit body)
  | .whileLoop condition body => Flow.ofExit (visitor.whileLoop condition body)
  | .goto label none => return .goto label
  | .goto label (some condition) => do
    let value ← visitor.evaluate condition
    if truthy value then return .goto label else return .exit .normal
  | .label _ => return .exit .normal
  | .breakLoop => return .exit .breakLoop
  | .continueLoop => return .exit .continueLoop
  | .returnFrom value => do
    let state ← Exec.get
    if state.callDepth = 0 then Exec.fail .topLevelReturn
    else match value with
      | none => return .exit .returned
      | some expression => do
        let result ← visitor.evaluate expression
        Exec.modify fun state => { state with returnValue := result }
        return .exit .returned
  | .read targets => Flow.after (Exec.each (visitRead visitor) targets)
  | .print items => Flow.after (visitPrint visitor items)
  | .greenaiReport workload inferences watts seconds => do
    let inferred ← visitor.evaluate inferences
    let power ← visitor.evaluate watts
    let duration ← visitor.evaluate seconds
    Flow.after (emit (reportLine workload inferred.intValue power.intValue duration.intValue))
  | .ai statement => Flow.after (Exec.modify fun state =>
      let (tables, printed) := H.perform statement state.ai
      { state with ai := tables, output := state.output ++ printed })

/-- Take a jump: one more of the budget, then on after the label. -/
def jump (visitor : Visitor H) (statements : List (Stmt H)) (target : Nat) : Run H Exit := do
  let state ← Exec.get
  if kMaxGotoTransfers < state.gotoTransfers + 1 then Exec.fail .gotoBudget
  else do
    Exec.modify State.countTransfer
    visitor.blockFrom statements (target + 1)

def visitBlockFrom (visitor : Visitor H) (statements : List (Stmt H)) (position : Nat) :
    Run H Exit :=
  match statements[position]? with
  | none => return .normal
  | some statement => do
    let flow ← visitor.statement statement
    match flow with
    | .exit .normal => visitor.blockFrom statements (position + 1)
    | .exit kind => return kind
    | .goto label =>
      match labelIndex label statements with
      | none => Exec.fail (.gotoEscaped label)
      | some target => jump visitor statements target

/-- What a loop does after a pass of its body. -/
def afterPass (again : Run H Exit) : Exit → Run H Exit
  | .returned => return .returned
  | .breakLoop => return .normal
  | .normal | .continueLoop => again

def visitWhileLoop (visitor : Visitor H) (condition : Expr H) (body : List (Stmt H)) :
    Run H Exit := do
  let value ← visitor.evaluate condition
  if truthy value then do
    let exit ← visitBlock visitor body
    afterPass (visitor.whileLoop condition body) exit
  else return .normal

def inRange (step current limit : IntValue) : Bool :=
  if (0 : IntValue).slt step then current.slt limit else limit.slt current

/-- The step after a pass: the counter is read again and may have changed. -/
def advance (visitor : Visitor H) (counter : Variable H) (stepValue : IntValue)
    (again : Run H Exit) : Run H Exit := do
  let (place, current) ← visitVariable visitor counter
  storeCounter (current.intValue + stepValue) place
  again

def visitForLoop (visitor : Visitor H) (counter : Variable H) (step limit : Expr H)
    (body : List (Stmt H)) : Run H Exit := do
  let (_, current) ← visitVariable visitor counter
  let stepValue ← visitor.evaluate step
  if stepValue.intValue = 0 then Exec.fail .stepZero
  else do
    let limitValue ← visitor.evaluate limit
    if inRange stepValue.intValue current.intValue limitValue.intValue then do
      let exit ← visitBlock visitor body
      afterPass (advance visitor counter stepValue.intValue
        (visitor.forLoop counter step limit body)) exit
    else return .normal

def clauses (visitor : Visitor H) : Visitor H where
  evaluate := visitExpression linkage program visitor
  statement := visitStatement visitor
  blockFrom := visitBlockFrom visitor
  whileLoop := visitWhileLoop visitor
  forLoop := visitForLoop visitor

def interpreter : Nat → Visitor H
  | 0 => ⟨fun _ => Exec.exhaust, fun _ => Exec.exhaust, fun _ _ => Exec.exhaust,
      fun _ _ => Exec.exhaust, fun _ _ _ _ => Exec.exhaust⟩
  | fuel + 1 => clauses linkage program (interpreter fuel)

/-- The top-level statements, with the check of their end. -/
def runCode (visitor : Visitor H) : Run H Unit := do
  let exit ← visitor.blockFrom program.code 0
  match exit with
  | .normal => return ()
  | _ => Exec.fail .signalEscapedProgram

def visitProgram (fuel : Nat) : Run H Unit := do
  initializeDeclarations program.globals
  runCode program (interpreter linkage program fuel)

def initialState (H : Host) (input : H.Input) : State H :=
  { globals := {}, input, returnValue := defaultValue H .int, ai := H.noTables }

/-- A run of the program on an input, for as long as the fuel lasts. -/
def execute (fuel : Nat) (input : H.Input) : Outcome (State H) Failure Unit :=
  visitProgram linkage program fuel (initialState H input)

end ShortHand.Language
