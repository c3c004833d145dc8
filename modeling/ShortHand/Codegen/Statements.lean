import ShortHand.Codegen.Generator

/-! Statements, functions and modules. Behind a terminator a block of statements is skipped up
to its next label. -/

namespace ShortHand.Codegen

open ShortHand.Language ShortHand.Library Function

variable {H : Host}

structure Generator (H : Host) extends Names, Builder H where
  metadataCounter : Nat := 0
  bodies : List (String × Body H) := []
  returns : LowType := .void
  activeReturnType : ShortType := .void
  blocks : Nat → Block H := fun _ => {}
  blockCount : Nat := 0
  current : Nat := 0
  slotCount : Nat := 0
  breakTargets : List Nat := []
  continueTargets : List Nat := []
  gotoLabels : List (String → Option Nat) := []

abbrev Emit (H : Host) := Exec (Generator H) Crash

def Generator.append (generator : Generator H) (code : Code H) : Generator H :=
  { generator with
    blocks := update generator.blocks generator.current
      { generator.blocks generator.current with
        code := (generator.blocks generator.current).code.append code } }

/-- A visit inside the current block. -/
def build {α : Type} (visit : Build H α) : Emit H α := fun generator =>
  match visit generator.toNames generator.toBuilder with
  | .error crash => .failed crash generator
  | .ok (value, builder, code) => .ok value ({ generator with toBuilder := builder }.append code)

def createBlock : Emit H Nat := fun generator =>
  .ok generator.blockCount { generator with blockCount := generator.blockCount + 1 }

def setInsertPoint (block : Nat) : Emit H Unit :=
  Exec.modify fun generator => { generator with current := block }

def Generator.terminated (generator : Generator H) : Bool :=
  (generator.blocks generator.current).terminator.isSome

/-- End the current block; code behind an earlier end is never run. -/
def terminate (terminator : Terminator H) : Emit H Unit :=
  Exec.modify fun generator =>
    if generator.terminated then generator
    else { generator with
      blocks := update generator.blocks generator.current
        { generator.blocks generator.current with terminator := some terminator } }

def createAlloca : Emit H Nat := fun generator =>
  .ok generator.slotCount { generator with slotCount := generator.slotCount + 1 }

def pushScope : Emit H Unit :=
  Exec.modify fun generator =>
    { generator with
      locals := (fun _ => none) :: generator.locals
      localTypes := (fun _ => none) :: generator.localTypes }

def popScope : Emit H Unit :=
  Exec.modify fun generator =>
    { generator with locals := generator.locals.tail, localTypes := generator.localTypes.tail }

def zeroValue (H : Host) : ShortType → Operand H
  | .float => .float H.zero
  | .string => .null
  | _ => .integer 0

/-- Enter a local in the innermost scope; a name that is there ends the generator. -/
def declareLocals (name : String) (found : Local) (info : VariableInfo) : Emit H Unit :=
  fun generator =>
    match generator.locals with
    | [] => .failed (.redeclared name) generator
    | scope :: rest =>
      if (scope name).isSome then .failed (.redeclared name) generator
      else .ok () { generator with
        locals := update scope name (some found) :: rest
        localTypes := match generator.localTypes with
          | [] => []
          | types :: others => update types name (some info) :: others }

def declareScalarLocal (entry : String × ShortType) : Emit H Unit := do
  let slot ← createAlloca
  let _ ← build (emit "" (.store (zeroValue H entry.2) (.slot slot)))
  declareLocals entry.1 ⟨slot, .scalar (parseType entry.2)⟩ ⟨entry.2, false⟩

def declareArrayLocal (entry : String × ShortType × Int) : Emit H Unit := do
  let slot ← createAlloca
  let _ ← build (emit "" (.clear (parseType entry.2.1) entry.2.2.toNat (.slot slot)))
  declareLocals entry.1 ⟨slot, .array (parseType entry.2.1) entry.2.2.toNat⟩ ⟨entry.2.1, true⟩

def visitLocals (block : Declarations) : Emit H Unit := do
  Exec.each declareScalarLocal block.typedScalars
  Exec.each declareArrayLocal block.typedArrays

/-- A global variable, unless the module has one of the name. -/
def createGlobal (name : String) (stored : StoredType) : Emit H Unit :=
  build (onTable fun table =>
    if (table.getNamedGlobal name).isSome then table else table.create name (.storage stored))

def visitGlobals (block : Declarations) : Emit H Unit := do
  Exec.each (fun entry => do
    Exec.modify fun generator =>
      { generator with
        globalScalars := update generator.globalScalars entry.1 (some entry.2) }
    createGlobal entry.1 (.scalar (parseType entry.2))) block.typedScalars
  Exec.each (fun entry => do
    Exec.modify fun generator =>
      { generator with
        globalArrays := update generator.globalArrays entry.1 (some entry.2.1) }
    createGlobal entry.1 (.array (parseType entry.2.1) entry.2.2.toNat)) block.typedArrays

structure AiView where
  kind : AiKind
  name : String

def sampleView : Host.sample.AiStatement → AiView := fun statement => nomatch statement

def emitShortHandMetadata {kind : AiKind} {text : String} (metadata : kind.metadata = some text)
    (name : String) : Emit H Unit := do
  Exec.modify fun generator =>
    { generator with metadataCounter := generator.metadataCounter + 1 }
  let generator ← Exec.get
  build (onTable (·.createGlobalString _ (.metadata metadata name generator.metadataCounter)))

def emitShortHandRuntimeCall {kind : AiKind} {hook : String} {arity : Nat}
    (called : kind.hook = some (hook, arity)) : Build H Unit := do
  onTable fun table =>
    let asked := table.request hook (.hook called)
    if (asked.getFunction hook).isSome then asked else asked.create hook (.function arity .i32)
  onTable fun table => (List.range arity).foldl (fun earlier index =>
    earlier.createGlobalString _ (.hookArgument called index)) table
  let _ ← emit (safeMetadataName hook ++ "_call") (.hook hook arity)
  return ()

def visitAi (view : AiView) : Emit H Unit := do
  match metadata : view.kind.metadata with
  | some text => emitShortHandMetadata metadata view.name
  | none => do
    let _ ← build (emit "aiInferPrintfCall"
      (.printf "AI inference request: model=%s shape=%s input=%s\n" []))
    pure ()
  match called : view.kind.hook with
  | some (hook, arity) => build (emitShortHandRuntimeCall called)
  | none => return ()

variable (view : H.AiStatement → AiView)

/-- The basic blocks of the labels of a block of statements. -/
def createLabels : List (Stmt H) → Emit H (String → Option Nat)
  | [] => return fun _ => none
  | statement :: rest =>
    match statement.label? with
    | none => createLabels rest
    | some name => do
      let block ← createBlock
      let later ← createLabels rest
      return update later name (some block)

def visitExpressionStatement (value : Expr H) : Build H Unit := do
  visitExpr value
  let builder ← Build.get
  match builder.ret with
  | none => return ()
  | some result =>
    if result.type = .void then return ()
    else do
      let _ ← getExpression
      return ()

def visitAssignment (target : Variable H) (value : Expr H) : Build H Unit := do
  let assigned ← valueOf (visitExpr value)
  visitTarget target
  let builder ← Build.get
  match ← asExactLoweredType assigned builder.retType with
  | none => return ()
  | some assigned => do
    let pointer ← given builder.ret
    let stored ← emit "" (.store assigned.operand pointer.operand)
    Build.modify fun after =>
      { after with ret := some ⟨stored, .void⟩, loadVariable := false }

def setCall (result : Operand H) : Build H Unit :=
  Build.modify fun builder => { builder with ret := some ⟨result, .i32⟩ }

def visitReadTarget (target : Variable H) : Build H Unit := do
  visitTarget target
  let builder ← Build.get
  let pointer ← given builder.ret
  let result ← emit "scanfCall"
    (.scanf (if builder.loadType = .float then "%lf" else "%d") pointer.operand)
  setCall result

/-- One printed value and the separator behind it. -/
def visitPrintItem (separator : String) (item : Expr H) : Build H Unit := do
  let value ← valueOf (visitExpr item)
  let builder ← Build.get
  let call (format : String) (argument : Operand H) : Build H Unit := do
    let _ ← emit "printfCall" (.printf format [argument])
    let result ← emit "printfSepCall" (.printf "%s" [.text separator])
    setCall result
  if builder.retType = .float then do
    let value ← given value
    call "%.17g" value.operand
  else if builder.retType = .string then
    match value with
    | none => call "%s" (.text "")
    | some value => do
      let text ← safeStringPointer value
      call "%s" text
  else
    match ← asExactLoweredType value builder.retType with
    | none => return ()
    | some value => call "%d" value.operand

def visitPrintItems : List (Expr H) → Build H Unit
  | [] => return ()
  | [last] => visitPrintItem "\n" last
  | item :: rest => do
    visitPrintItem " " item
    visitPrintItems rest

/-- The quotient of a report; its registers are those of the energy, of the zero test
and of the quotient. -/
def emitReport (inferences watts seconds : Operand H) :
    Build H (Operand H × Operand H × Operand H) := fun _ builder =>
  .ok ((.register builder.next, .register (builder.next + 1), .register (builder.next + 3)),
    { builder with next := builder.next + 4 },
    ⟨reportPiece builder.next inferences watts seconds, .report⟩)

def visitReport (inferences watts seconds : Expr H) (workload : String) : Build H Unit := do
  let inferred ← valueOf (visitExpr inferences)
  let power ← valueOf (visitExpr watts)
  let duration ← valueOf (visitExpr seconds)
  let power ← given power
  let duration ← given duration
  let inferred ← given inferred
  let (energy, zeroEnergy, raw) ← emitReport inferred.operand power.operand duration.operand
  let efficiency ← emit "greenai_inf_per_j" (.select zeroEnergy (.integer 0) raw)
  let result ← emit "greenaiPrintfCall"
    (.printf "GreenAI workload %s: inferences=%d energy_j=%d inf_per_j=%d\n"
      [.text (stripQuotes workload), inferred.operand, energy, efficiency])
  setCall result

/-- A condition, as the operand of a branch. -/
def conditionOf (condition : Expr H) : Build H (Operand H) := do
  visitExpr condition
  let flag ← getCondition
  let flag ← given flag
  return flag.operand

def visitGoto (label : String) (condition : Option (Expr H)) : Emit H Unit := do
  let generator ← Exec.get
  match generator.gotoLabels with
  | [] => return ()
  | labels :: _ =>
    match labels label, condition with
    | none, _ => return ()
    | some target, none => terminate (.branch target)
    | some target, some condition => do
      let flag ← build (conditionOf condition)
      let next ← createBlock
      terminate (.conditional flag target next)
      setInsertPoint next

def visitLabel (name : String) : Emit H Unit := do
  let generator ← Exec.get
  match generator.gotoLabels with
  | [] => return ()
  | labels :: _ =>
    match labels name with
    | none => return ()
    | some target => do
      terminate (.branch target)
      setInsertPoint target

def visitReturn (value : Option (Expr H)) : Emit H Unit := do
  let generator ← Exec.get
  if generator.returns = .void then terminate .returnVoid
  else
    match value with
    | none => terminate .unreachable
    | some value => do
      let result ← build (do
        let result ← valueOf (visitExpr value)
        asExactLoweredType result generator.activeReturnType)
      match result with
      | none => return ()
      | some result => terminate (.returnValue result.operand)

def visitExit (targets : Generator H → List Nat) : Emit H Unit := do
  let generator ← Exec.get
  match targets generator with
  | [] => return ()
  | target :: _ => terminate (.branch target)

def pushLoop (breakTarget continueTarget : Nat) : Emit H Unit :=
  Exec.modify fun generator =>
    { generator with
      breakTargets := breakTarget :: generator.breakTargets
      continueTargets := continueTarget :: generator.continueTargets }

def popLoop : Emit H Unit :=
  Exec.modify fun generator =>
    { generator with
      breakTargets := generator.breakTargets.tail
      continueTargets := generator.continueTargets.tail }

/-- The start value of a counted loop, stored where its counter is. -/
def visitForStart (counter : Variable H) (start : Expr H) : Build H (Operand H) := do
  let initial ← valueOf (visitExpr start)
  visitTarget counter
  let builder ← Build.get
  let initial ← given initial
  let pointer ← given builder.ret
  let _ ← emit "" (.store initial.operand pointer.operand)
  stopLoading
  return pointer.operand

/-- The condition of a counted loop: the step is checked and kept, then the limit compared. -/
def visitForCondition (pointer : Operand H) (step limit : Expr H) (stepSlot : Nat) :
    Build H (Operand H) := do
  let current ← emit "for_current" (.load .i32 pointer)
  let stepValue ← valueOf (visitExpr step)
  let stepValue ← given stepValue
  let isZero ← emit "for_step_zero" (.binary .eq stepValue.operand (.integer 0))
  emitRuntimeFailureIf ⟨isZero, .i1⟩ "SHD7003" "loop step must be non-zero"
  let _ ← emit "" (.store stepValue.operand (.slot stepSlot))
  let limitValue ← valueOf (visitExpr limit)
  let limitValue ← given limitValue
  let positive ← emit "for_step_positive" (.binary .sgt stepValue.operand (.integer 0))
  let forward ← emit "for_forward_cond" (.binary .slt current limitValue.operand)
  let reverse ← emit "for_reverse_cond" (.binary .sgt current limitValue.operand)
  emit "forcond" (.select positive forward reverse)

def visitForStep (pointer : Operand H) (stepSlot : Nat) : Build H Unit := do
  let saved ← emit "for_saved_step" (.load .i32 (.slot stepSlot))
  let current ← emit "loadtmp" (.load .i32 pointer)
  let next ← emit "for_next" (.binary .add current saved)
  let _ ← emit "" (.store next pointer)
  return ()

/-- Evaluate a condition and branch on it. -/
def visitBranch (condition : Expr H) (first second : Nat) : Emit H Unit := do
  let flag ← build (conditionOf condition)
  terminate (.conditional flag first second)

/-- The visit of a block of statements with its labels known. -/
def withLabels (statements : List (Stmt H)) (visit : Emit H Unit) : Emit H Unit := do
  let labels ← createLabels statements
  Exec.modify fun generator => { generator with gotoLabels := labels :: generator.gotoLabels }
  visit
  Exec.modify fun generator => { generator with gotoLabels := generator.gotoLabels.tail }

/-- A braced block, in a scope of its own. -/
def inScope (statements : List (Stmt H)) (visit : Emit H Unit) : Emit H Unit := do
  pushScope
  withLabels statements visit
  popScope

mutual

def visitStatement : Stmt H → Emit H Unit
  | .declaration block => visitLocals block
  | .expression value => build (visitExpressionStatement value)
  | .assignment target value => build (visitAssignment target value)
  | .block statements => inScope statements (visitStatements statements)
  | .ifThen condition ifBlock => do
    let inside ← createBlock
    let next ← createBlock
    visitBranch condition inside next
    setInsertPoint inside
    inScope ifBlock (visitStatements ifBlock)
    terminate (.branch next)
    setInsertPoint next
  | .ifElse condition ifBlock elseBlock => do
    let inside ← createBlock
    let otherwise ← createBlock
    let next ← createBlock
    visitBranch condition inside otherwise
    setInsertPoint inside
    inScope ifBlock (visitStatements ifBlock)
    terminate (.branch next)
    setInsertPoint otherwise
    inScope elseBlock (visitStatements elseBlock)
    terminate (.branch next)
    setInsertPoint next
  | .forLoop counter start step limit body => do
    let stepSlot ← createAlloca
    let condition ← createBlock
    let inside ← createBlock
    let stepBlock ← createBlock
    let after ← createBlock
    let pointer ← build (visitForStart counter start)
    terminate (.branch condition)
    setInsertPoint condition
    let flag ← build (visitForCondition pointer step limit stepSlot)
    terminate (.conditional flag inside after)
    setInsertPoint inside
    pushLoop after stepBlock
    inScope body (visitStatements body)
    popLoop
    terminate (.branch stepBlock)
    setInsertPoint stepBlock
    build (visitForStep pointer stepSlot)
    terminate (.branch condition)
    setInsertPoint after
  | .whileLoop condition body => do
    let head ← createBlock
    let inside ← createBlock
    let after ← createBlock
    terminate (.branch head)
    setInsertPoint head
    visitBranch condition inside after
    setInsertPoint inside
    pushLoop after head
    inScope body (visitStatements body)
    popLoop
    terminate (.branch head)
    setInsertPoint after
  | .goto label condition => visitGoto label condition
  | .label name => visitLabel name
  | .breakLoop => visitExit Generator.breakTargets
  | .continueLoop => visitExit Generator.continueTargets
  | .returnFrom value => visitReturn value
  | .read targets => Exec.each (fun target => build (visitReadTarget target)) targets
  | .print items => build (visitPrintItems items)
  | .greenaiReport workload inferences watts seconds =>
    build (visitReport inferences watts seconds workload)
  | .ai statement => visitAi (view statement)

def visitStatements : List (Stmt H) → Emit H Unit
  | [] => return ()
  | statement :: rest => do
    let generator ← Exec.get
    if generator.terminated && statement.label?.isNone then visitStatements rest
    else do
      visitStatement statement
      build stopLoading
      visitStatements rest

end

/-- The statements of a function or of the program, which share the scope that is open. -/
def visitBody (statements : List (Stmt H)) : Emit H Unit :=
  withLabels statements (visitStatements view statements)

def functionKind (function : Function H) : SymbolKind :=
  .function function.parameters.typedScalars.length (parseType function.type)

def recordSignature (function : Function H) : Emit H Unit :=
  Exec.modify fun generator =>
    { generator with
      functionReturns :=
        update generator.functionReturns function.name (some function.type)
      functionParameters := update generator.functionParameters function.name
        (some (function.parameters.typedScalars.map Prod.snd)) }

/-- A new symbol of the module, and the name it has. -/
def createSymbol (name : String) (kind : SymbolKind) : Emit H String := do
  let generator ← Exec.get
  build (onTable (·.create name kind))
  return generator.table.freshName name

/-- The symbol of a function: the one of its name, or a new one. -/
def functionSymbol (function : Function H) : Emit H Symbol := do
  let generator ← Exec.get
  match generator.table.getFunction function.name with
  | some symbol => return symbol
  | none => do
    let name ← createSymbol function.name (functionKind function)
    return ⟨name, functionKind function⟩

def declareFunction (function : Function H) : Emit H Unit := do
  recordSignature function
  let _ ← functionSymbol function
  return ()

/-- Start the code of a function in an empty entry block. Registers are numbered
through the whole module. -/
def enterFunction (returns : LowType) : Emit H Unit := do
  Exec.modify fun generator =>
    { generator with
      blocks := fun _ => {}
      blockCount := 1
      current := 0
      slotCount := 0
      returns }
  pushScope

/-- The body is complete; the scopes of the function are gone. -/
def leaveFunction (name : String) : Emit H Unit := do
  popScope
  Exec.modify fun generator =>
    { generator with bodies := generator.bodies ++ [(name, ⟨generator.blocks⟩)] }

/-- The arguments of the symbol go to locals named by the parameters. -/
def storeArguments (parameters : List (String × ShortType)) : List Nat → Emit H Unit
  | [] => return ()
  | index :: rest =>
    match parameters[index]? with
    | none => Exec.fail .missingParameter
    | some (name, type) => do
      let slot ← createAlloca
      let _ ← build (emit "" (.store (.argument index) (.slot slot)))
      declareLocals name ⟨slot, .scalar (parseType type)⟩ ⟨type, false⟩
      storeArguments parameters rest

def visitFunctionRule (function : Function H) : Emit H Unit := do
  recordSignature function
  let symbol ← functionSymbol function
  let generator ← Exec.get
  if generator.bodies.any fun body => body.1 == symbol.name then return ()
  else do
    enterFunction symbol.kind.returns
    Exec.modify fun generator => { generator with activeReturnType := function.type }
    storeArguments function.parameters.typedScalars (List.range symbol.kind.arity)
    visitBody view function.body
    terminate (if symbol.kind.returns = .void then .returnVoid else .unreachable)
    leaveFunction symbol.name
    Exec.modify fun after =>
      { after with
        breakTargets := generator.breakTargets
        continueTargets := generator.continueTargets
        activeReturnType := generator.activeReturnType }

def visitFunctions (functions : List (Function H)) : Emit H Unit := do
  Exec.each declareFunction functions
  Exec.each (visitFunctionRule view) functions

def addLibraryProgram (program : Program H) : Emit H Unit := do
  visitGlobals program.globals
  visitFunctions view program.functions

def visitMain (program : Program H) : Emit H Unit := do
  visitGlobals program.globals
  visitFunctions view program.functions
  let name ← createSymbol "main" (.function 0 .i32)
  enterFunction .i32
  visitBody view program.code
  terminate (.returnValue (.integer 0))
  leaveFunction name

/-- The constructor declares the two functions of typed input and output. -/
def startModule : Emit H Unit :=
  build (onTable fun table =>
    (table.getOrInsertFunction "printf" 1 .i32).getOrInsertFunction "scanf" 1 .i32)

/-- The module of a package graph: the libraries in order, then the entry program. -/
def generateModule (libraries : List (Program H)) (entry : Program H) : Emit H Unit := do
  startModule
  Exec.each (addLibraryProgram view) libraries
  visitMain view entry

def generate (libraries : List (Program H)) (entry : Program H) :
    Outcome (Generator H) Crash Unit :=
  generateModule view libraries entry {}

/-- Global variables start at zero. -/
def SymbolKind.cell (H : Host) : SymbolKind → Option (Cell H)
  | .storage (.scalar low) => some (.scalar (zeroWord H low))
  | .storage (.array low extent) => some (.array (List.replicate extent (zeroWord H low)))
  | _ => none

def Generator.machine (generator : Generator H) (input : H.Input) : Machine H where
  memory
    | .global name =>
      (generator.table.symbols.find? fun symbol => symbol.name == name).bind fun symbol =>
        symbol.kind.cell H
    | .slot _ _ => none
  input

def Generator.body (generator : Generator H) (name : String) : Option (Body H) :=
  generator.bodies.lookup name

/-- The run of the module from its `main`. -/
def runMain (watch : Watch) (generator : Generator H) (fuel : Nat) (input : H.Input) :
    Except Fault (Word H × Machine H) :=
  match generator.body "main" with
  | none => .error .malformed
  | some body => runFrom watch generator.body fuel body 0 ((generator.machine input).enter [])

end ShortHand.Codegen
