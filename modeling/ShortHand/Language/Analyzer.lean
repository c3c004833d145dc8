import ShortHand.Language.Syntax

/-! The semantic analyzer. Every visit returns the diagnostics it adds; a program is
accepted when there are none. -/

namespace ShortHand.Language

variable {H : Host}

structure Diagnostic where
  code : String
  message : String
  deriving DecidableEq, Repr

structure VariableInfo where
  type : ShortType
  isArray : Bool
  deriving DecidableEq

abbrev Scope := String → Option VariableInfo

def shortTypeName : ShortType → String
  | .int => "int"
  | .boolean => "bool"
  | .float => "float/double"
  | .string => "string"
  | .void => "void"

def isExecutableScalarType (type : ShortType) : Bool := type != .void

def lookupScopes (name : String) : List Scope → Option VariableInfo
  | [] => none
  | scope :: rest => scope name <|> lookupScopes name rest

variable (program : Program H)

/-- A global by name: a scalar, or else an array. -/
def lookupGlobal (name : String) : Option VariableInfo :=
  match program.globals.typedScalars.reverse.lookup name with
  | some type => some ⟨type, false⟩
  | none => (program.globals.typedArrays.reverse.lookup name).map fun entry => ⟨entry.1, true⟩

def lookupType (scopes : List Scope) (name : String) : Option VariableInfo :=
  lookupScopes name scopes <|> lookupGlobal program name

def parameterTypes (function : Function H) : List ShortType :=
  function.parameters.typedScalars.map Prod.snd ++
    function.parameters.typedArrays.map fun entry => entry.2.1

def BinaryOp.arithmetic (op : BinaryOp) : Bool :=
  op = .plus || op = .minus || op = .multiply || op = .divide || op = .modulo

def BinaryOp.equality (op : BinaryOp) : Bool := op = .equal || op = .notEqual

def BinaryOp.ordering (op : BinaryOp) : Bool :=
  op = .less || op = .greater || op = .lessOrEqual || op = .greaterOrEqual

def isNumeric (type : ShortType) : Bool := type = .int || type = .float

/-- A type with no diagnostic, or `void` with one. -/
def refuse (code message : String) : ShortType × List Diagnostic := (.void, [⟨code, message⟩])

def binaryType (op : BinaryOp) (left right : ShortType) : ShortType × List Diagnostic :=
  if left = .void || right = .void then
    refuse "SHD3022" "binary operator requires value operands and cannot consume void"
  else if left ≠ right then
    refuse "SHD3013" ("operator operands must have the same type; left=" ++ shortTypeName left ++
      " right=" ++ shortTypeName right)
  else if op.arithmetic then
    if !isNumeric left then
      refuse "SHD3014" "arithmetic operators require int or float operands"
    else if op = .modulo && left != .int then refuse "SHD3014" "modulo requires int operands"
    else (left, [])
  else if op.equality then (.boolean, [])
  else if op.ordering then
    if !isNumeric left then refuse "SHD3014" "ordering operators require int or float operands"
    else (.boolean, [])
  else if left != .boolean && left != .int then
    refuse "SHD3014" "logical operators require bool or int operands"
  else (.boolean, [])

def validateCall (name : String) (arity : Nat) : List Diagnostic :=
  match program.findFunction name with
  | none => [⟨"SHD3023", "undefined function: " ++ name⟩]
  | some function =>
    if name = "" then [⟨"SHD3023", "undefined function: " ++ name⟩]
    else if (parameterTypes function).length = arity then []
    else [⟨"SHD3004", "function " ++ name ++ " expects " ++
      toString (parameterTypes function).length ++ " argument(s), got " ++ toString arity⟩]

/-- The parameter types that the arguments of a call are checked against. -/
def expectedTypes (name : String) (arity : Nat) : Option (List ShortType) :=
  match program.findFunction name with
  | none => none
  | some function =>
    if (parameterTypes function).length = arity then some (parameterTypes function) else none

def returnTypeOf (name : String) : ShortType :=
  match program.findFunction name with
  | none => .void
  | some function => function.type

def argumentDiagnostics (name : String) (position : Nat) (expected actual : ShortType) :
    List Diagnostic :=
  if actual = .void then
    [⟨"SHD3022", "function " ++ name ++ " argument " ++ toString (position + 1) ++
      " requires a value but received void"⟩]
  else if actual ≠ expected then
    [⟨"SHD3013", "function " ++ name ++ " argument " ++ toString (position + 1) ++ " expects " ++
      shortTypeName expected ++ " but received " ++ shortTypeName actual⟩]
  else []

def simpleType (scopes : List Scope) (name : String) : ShortType × List Diagnostic :=
  match lookupType program scopes name with
  | none => refuse "SHD3008" ("undeclared variable: " ++ name)
  | some ⟨type, false⟩ => (type, [])
  | some ⟨_, true⟩ =>
    refuse "SHD3013" ("fixed array `" ++ name ++
      "` requires an index before use as a scalar value")

def arrayType (scopes : List Scope) (name : String) (index : ShortType × List Diagnostic) :
    ShortType × List Diagnostic :=
  match lookupType program scopes name with
  | none => refuse "SHD3008" ("undeclared array: " ++ name)
  | some ⟨_, false⟩ => refuse "SHD3013" ("scalar `" ++ name ++ "` cannot be indexed")
  | some ⟨type, true⟩ =>
    (type, index.2 ++
      if index.1 = .int then [] else [⟨"SHD3013", "array index must have type int"⟩])

def minusType (operand : ShortType × List Diagnostic) : ShortType × List Diagnostic :=
  if isNumeric operand.1 then operand
  else (.void, operand.2 ++ [⟨"SHD3014", "unary minus requires int or float operand"⟩])

mutual

def expressionType (scopes : List Scope) : Expr H → ShortType × List Diagnostic
  | .literal _ => (.int, [])
  | .boolLiteral _ => (.boolean, [])
  | .floatLiteral _ => (.float, [])
  | .stringLiteral _ => (.string, [])
  | .variableRef target => variableType scopes target
  | .unaryMinus operand => minusType (expressionType scopes operand)
  | .binary op left right =>
    let leftType := expressionType scopes left
    let rightType := expressionType scopes right
    let result := binaryType op leftType.1 rightType.1
    (result.1, leftType.2 ++ rightType.2 ++ result.2)
  | .call name arguments =>
    (returnTypeOf program name, validateCall program name arguments.length ++
      match expectedTypes program name arguments.length with
      | none => []
      | some expected => argumentTypes scopes name 0 expected arguments)

def variableType (scopes : List Scope) : Variable H → ShortType × List Diagnostic
  | .simple name => simpleType program scopes name
  | .array name index => arrayType program scopes name (expressionType scopes index)

/-- The arguments of a call against the parameter types. -/
def argumentTypes (scopes : List Scope) (name : String) (position : Nat) :
    List ShortType → List (Expr H) → List Diagnostic
  | expected :: types, argument :: arguments =>
    let actual := expressionType scopes argument
    actual.2 ++ argumentDiagnostics name position expected actual.1 ++
      argumentTypes scopes name (position + 1) types arguments
  | _, _ => []

end

def requireConditionType (scopes : List Scope) (condition : Expr H) : List Diagnostic :=
  let type := expressionType program scopes condition
  type.2 ++ if type.1 = .boolean ∨ type.1 = .int then []
    else [⟨"SHD3015", "condition must have type bool or int"⟩]

def Stmt.isTransfer : Stmt H → Bool
  | .label _ | .goto _ _ => true
  | _ => false

mutual

/-- A block with labels or jumps has to end in a statement that returns. -/
def definitelyReturns : Stmt H → Bool
  | .returnFrom _ => true
  | .ifElse _ ifBlock elseBlock =>
    (if ifBlock.any Stmt.isTransfer then lastReturns ifBlock else someReturns ifBlock) &&
      (if elseBlock.any Stmt.isTransfer then lastReturns elseBlock else someReturns elseBlock)
  | .block statements =>
    if statements.any Stmt.isTransfer then lastReturns statements else someReturns statements
  | _ => false

def lastReturns : List (Stmt H) → Bool
  | [] => false
  | statement :: rest => if rest.isEmpty then definitelyReturns statement else lastReturns rest

def someReturns : List (Stmt H) → Bool
  | [] => false
  | statement :: rest => definitelyReturns statement || someReturns rest

end

def blockReturns (statements : List (Stmt H)) : Bool := definitelyReturns (.block statements)

def duplicateIn (seen : List String) : List String → List String
  | [] => []
  | name :: rest =>
    if name ∈ seen then name :: duplicateIn seen rest else duplicateIn (name :: seen) rest

/-- The diagnostics on the types of a declaration list. -/
def declarationDiagnostics (block : Declarations) : List Diagnostic :=
  block.typedScalars.flatMap (fun entry =>
    if isExecutableScalarType entry.2 then []
    else [⟨"SHD3003", "production executable semantics do not accept " ++ shortTypeName entry.2 ++
      " declaration `" ++ entry.1 ++ "`"⟩]) ++
  block.typedArrays.flatMap fun entry =>
    (if isExecutableScalarType entry.2.1 then []
      else [⟨"SHD3003", "production executable semantics do not accept " ++
        shortTypeName entry.2.1 ++ " array `" ++ entry.1 ++ "`"⟩]) ++
    (if entry.2.1 = .string then
      [⟨"SHD3003", "string arrays require owned element destruction and are reserved by " ++
        "shorthand.type_memory.v1"⟩] else []) ++
    if entry.2.1 = .void then [⟨"SHD3010", "SHD3010 array element type is not a scalar value"⟩]
    else if entry.2.2 ≤ 0 then [⟨"SHD3010", "SHD3010 array extent must be greater than zero"⟩]
    else []

/-- Outside a lexical scope a name may be declared once in the whole list. -/
def duplicateDiagnostics (block : Declarations) : List Diagnostic :=
  (duplicateIn [] (block.typedScalars.map Prod.fst ++ block.typedArrays.map Prod.fst)).map
    fun name => ⟨"SHD3021", "duplicate declaration: " ++ name⟩

def declareIn (entries : List (String × VariableInfo)) (scope : Scope) : Scope × List Diagnostic :=
  match entries with
  | [] => (scope, [])
  | (name, info) :: rest =>
    if (scope name).isSome then
      let later := declareIn rest scope
      (later.1, ⟨"SHD3021", "duplicate declaration in lexical scope: " ++ name⟩ :: later.2)
    else declareIn rest (Function.update scope name (some info))

def scalarEntry (entry : String × ShortType) : String × VariableInfo := (entry.1, ⟨entry.2, false⟩)

def arrayEntry (entry : String × ShortType × Int) : String × VariableInfo :=
  (entry.1, ⟨entry.2.1, true⟩)

def Declarations.entries (block : Declarations) : List (String × VariableInfo) :=
  block.typedScalars.map scalarEntry ++ block.typedArrays.map arrayEntry

def declareInCurrentScope (block : Declarations) : List Scope → List Scope × List Diagnostic
  | [] => ([], [])
  | scope :: scopes =>
    let declared := declareIn block.entries scope
    (declared.1 :: scopes, declared.2)

/-- What a statement is checked against, apart from the scopes. -/
structure Context where
  /-- The labels of the enclosing blocks, innermost first. -/
  labelScopes : List (List String) := []
  returnType : Option ShortType := none
  loopDepth : Nat := 0

def gotoDiagnostics (context : Context) (label : String) : List Diagnostic :=
  match context.labelScopes with
  | [] => [⟨"SHD3018", "goto target is not defined in the current lexical block: " ++ label⟩]
  | labels :: outer =>
    if label ∈ labels then []
    else if outer.any (label ∈ ·) then
      [⟨"SHD3019", "goto cannot leave its lexical block: " ++ label⟩]
    else [⟨"SHD3018", "goto target is not defined in the current lexical block: " ++ label⟩]

/-- A jump may not pass over a declaration of its block, in either direction. -/
def crossingDiagnostics (statements : List (Stmt H)) (position : Nat) : Stmt H → List Diagnostic
  | .goto label _ =>
    match labelIndex label statements with
    | none => []
    | some target =>
      if ((statements.take (max position target)).drop (min position target + 1)).any
          Stmt.isDeclaration then
        [⟨"SHD3019", "goto cannot cross a lexical declaration boundary: " ++ label⟩]
      else []
  | _ => []

def assignmentDiagnostics (target source : ShortType) : List Diagnostic :=
  if target ≠ .void ∧ source = .void then
    [⟨"SHD3022", "assignment source requires a value but received void"⟩]
  else if target ≠ .void ∧ target ≠ source then
    [⟨"SHD3013", "assignment requires identical types; target=" ++ shortTypeName target ++
      " source=" ++ shortTypeName source ++
      ". Use an explicit checked conversion when conversion syntax is available."⟩]
  else []

def returnDiagnostics (scopes : List Scope) (context : Context) (value : Option (Expr H)) :
    List Diagnostic :=
  match context.returnType, value with
  | none, value => ⟨"SHD3005", "return outside function"⟩ ::
    (value.map fun value => (expressionType program scopes value).2).getD []
  | some .void, some _ => [⟨"SHD3007", "void function cannot return a value"⟩]
  | some .void, none => []
  | some _, none => [⟨"SHD3007", "non-void function must return a value"⟩]
  | some type, some value =>
    let actual := expressionType program scopes value
    actual.2 ++
      if actual.1 = .void then
        [⟨"SHD3022", "return expression requires a value but received void"⟩]
      else if actual.1 ≠ type then
        [⟨"SHD3007", "return expression has type " ++ shortTypeName actual.1 ++
          " but function returns " ++ shortTypeName type⟩]
      else []

def readDiagnostics (scopes : List Scope) (target : Variable H) : List Diagnostic :=
  let type := variableType program scopes target
  type.2 ++ if type.1 = .string then
    [⟨"SHD3003", "read into string is unavailable until a bounded input-capacity syntax is declared"⟩]
    else []

def printDiagnostics (scopes : List Scope) (item : Expr H) : List Diagnostic :=
  let type := expressionType program scopes item
  type.2 ++ if type.1 = .void then
    [⟨"SHD3022", "print requires a value and cannot consume void"⟩] else []

/-- Several expressions that all have to be integers, with one diagnostic at the end. -/
def intDiagnostics (types : List (ShortType × List Diagnostic)) (code message : String) :
    List Diagnostic :=
  types.flatMap Prod.snd ++ if types.all (·.1 = .int) then [] else [⟨code, message⟩]

/-- An expression statement: a call is checked without its result. -/
def expressionDiagnostics (scopes : List Scope) (value : Expr H) : List Diagnostic :=
  (expressionType program scopes value).2

def labelsOf (statements : List (Stmt H)) : List String := statements.filterMap Stmt.label?

def labelDiagnostics (statements : List (Stmt H)) : List Diagnostic :=
  (duplicateIn [] (labelsOf statements)).map fun name =>
    ⟨"SHD3017", "duplicate label in lexical block: " ++ name⟩

def Context.inBlock (context : Context) (statements : List (Stmt H)) : Context :=
  { context with labelScopes := labelsOf statements :: context.labelScopes }

def Context.inLoop (context : Context) : Context :=
  { context with loopDepth := context.loopDepth + 1 }

mutual

/-- The scopes after a statement and its diagnostics; only a declaration changes
the scopes. -/
def visitStmt (context : Context) (scopes : List Scope) : Stmt H → List Scope × List Diagnostic
  | .declaration block =>
    let declared := declareInCurrentScope block scopes
    (declared.1, (if scopes.isEmpty then duplicateDiagnostics block else []) ++
      declarationDiagnostics block ++ declared.2)
  | .expression value => (scopes, expressionDiagnostics program scopes value)
  | .assignment target value =>
    let targetType := variableType program scopes target
    let valueType := expressionType program scopes value
    (scopes, targetType.2 ++ valueType.2 ++ assignmentDiagnostics targetType.1 valueType.1)
  | .block statements =>
    (scopes, labelDiagnostics statements ++
      visitStmts (context.inBlock statements) statements 0 ((fun _ => none) :: scopes) statements)
  | .ifThen condition ifBlock =>
    (scopes, requireConditionType program scopes condition ++ labelDiagnostics ifBlock ++
      visitStmts (context.inBlock ifBlock) ifBlock 0 ((fun _ => none) :: scopes) ifBlock)
  | .ifElse condition ifBlock elseBlock =>
    (scopes, requireConditionType program scopes condition ++ labelDiagnostics ifBlock ++
      visitStmts (context.inBlock ifBlock) ifBlock 0 ((fun _ => none) :: scopes) ifBlock ++
      labelDiagnostics elseBlock ++
      visitStmts (context.inBlock elseBlock) elseBlock 0 ((fun _ => none) :: scopes) elseBlock)
  | .forLoop counter start step limit body =>
    (scopes, intDiagnostics [variableType program scopes counter,
        expressionType program scopes start, expressionType program scopes step,
        expressionType program scopes limit] "SHD3013"
        "counted loop variable, start, step and bound must all have type int" ++
      labelDiagnostics body ++
      visitStmts (context.inLoop.inBlock body) body 0 ((fun _ => none) :: scopes) body)
  | .whileLoop condition body =>
    (scopes, requireConditionType program scopes condition ++ labelDiagnostics body ++
      visitStmts (context.inLoop.inBlock body) body 0 ((fun _ => none) :: scopes) body)
  | .goto label condition =>
    (scopes, gotoDiagnostics context label ++
      (condition.map (requireConditionType program scopes)).getD [])
  | .label _ => (scopes, [])
  | .breakLoop =>
    (scopes, if context.loopDepth = 0 then [⟨"SHD3001", "break outside loop"⟩] else [])
  | .continueLoop =>
    (scopes, if context.loopDepth = 0 then [⟨"SHD3002", "continue outside loop"⟩] else [])
  | .returnFrom value => (scopes, returnDiagnostics program scopes context value)
  | .read targets => (scopes, targets.flatMap (readDiagnostics program scopes))
  | .print items => (scopes, items.flatMap (printDiagnostics program scopes))
  | .greenaiReport _ inferences watts seconds =>
    (scopes, intDiagnostics [expressionType program scopes inferences,
      expressionType program scopes watts, expressionType program scopes seconds] "SHD3013"
      ("greenai report inferences, watts and seconds require exact int values; " ++
        "implicit measurement conversion is forbidden"))
  | .ai _ => (scopes, [])

/-- The statements of a block from a position on. -/
def visitStmts (context : Context) (whole : List (Stmt H)) (position : Nat)
    (scopes : List Scope) : List (Stmt H) → List Diagnostic
  | [] => []
  | statement :: rest =>
    let visited := visitStmt context scopes statement
    crossingDiagnostics whole position statement ++ visited.2 ++
      visitStmts context whole (position + 1) visited.1 rest

end

/-- A block in the scopes it runs in. -/
def visitBlockStmts (context : Context) (scopes : List Scope) (statements : List (Stmt H)) :
    List Diagnostic :=
  labelDiagnostics statements ++
    visitStmts program (context.inBlock statements) statements 0 scopes statements

/-- The scope of a function: the first declaration of a name counts. -/
def parameterScope (function : Function H) : Scope :=
  (declareIn function.parameters.entries fun _ => none).1

def visitFunction (function : Function H) : List Diagnostic :=
  duplicateDiagnostics function.parameters ++ declarationDiagnostics function.parameters ++
    (if function.parameters.typedArrays = [] then []
      else [⟨"SHD3003",
        "array parameters are not part of the beta-0.4 executable function contract"⟩]) ++
    visitBlockStmts program { returnType := some function.type } [parameterScope function]
      function.body ++
    if function.type ≠ .void ∧ blockReturns function.body = false then
      [⟨"SHD3020", "non-void function `" ++ function.name ++
        "` does not return a value on every structured path"⟩]
    else []

def duplicateFunctionDiagnostics : List Diagnostic :=
  (duplicateIn [] (program.functions.map Function.name)).map fun name =>
    ⟨"SHD3009", "duplicate function definition: " ++ name⟩

/-- All diagnostics of a program. -/
def analyze : List Diagnostic :=
  duplicateDiagnostics program.globals ++ declarationDiagnostics program.globals ++
    duplicateFunctionDiagnostics program ++ program.functions.flatMap (visitFunction program) ++
    visitBlockStmts program {} [fun _ => none] program.code

def Accepted : Prop := analyze program = []

instance : Decidable (Accepted program) := inferInstanceAs (Decidable (_ = _))

end ShortHand.Language
