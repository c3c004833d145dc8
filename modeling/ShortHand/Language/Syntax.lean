import Mathlib.Logic.Function.Basic

/-! Programs as the parser builds them. The body of a function shares the scope of its
parameters. -/

namespace ShortHand.Language

abbrev IntValue := BitVec 32

/-- What the interpreter takes from its surroundings: double arithmetic and its
printing, typed input, and the AI statements, which only print and keep tables. -/
structure Host where
  Double : Type
  zero : Double
  add : Double → Double → Double
  sub : Double → Double → Double
  mul : Double → Double → Double
  div : Double → Double → Double
  neg : Double → Double
  less : Double → Double → Bool
  lessEqual : Double → Double → Bool
  equal : Double → Double → Bool
  text : Double → String
  Input : Type
  readInt : Input → Option (IntValue × Input)
  readFloat : Input → Option (Double × Input)
  AiStatement : Type
  AiState : Type
  noTables : AiState
  perform : AiStatement → AiState → AiState × List String

/-- A host for examples: doubles are integers, the input is a list of integers and
there are no AI statements. -/
def Host.sample : Host where
  Double := Int
  zero := 0
  add := (· + ·)
  sub := (· - ·)
  mul := (· * ·)
  div := (· / ·)
  neg := (- ·)
  less left right := decide (left < right)
  lessEqual left right := decide (left ≤ right)
  equal left right := left == right
  text value := toString value
  Input := List Int
  readInt
    | [] => none
    | value :: rest => some (BitVec.ofInt 32 value, rest)
  readFloat
    | [] => none
    | value :: rest => some (value, rest)
  AiStatement := Empty
  AiState := Unit
  noTables := ()
  perform statement := nomatch statement

inductive ShortType where
  | int
  | string
  | void
  | boolean
  | float
  deriving DecidableEq, Repr

inductive BinaryOp where
  | plus
  | minus
  | multiply
  | divide
  | modulo
  | less
  | greater
  | lessOrEqual
  | greaterOrEqual
  | equal
  | notEqual
  | or
  | and
  deriving DecidableEq, Repr

/-- A declaration list: typed scalars, then typed arrays with their sizes. -/
structure Declarations where
  typedScalars : List (String × ShortType) := []
  typedArrays : List (String × ShortType × Int) := []
  deriving DecidableEq

mutual

inductive Expr (H : Host) where
  | literal (value : IntValue)
  | boolLiteral (value : Bool)
  | floatLiteral (value : H.Double)
  | stringLiteral (text : String)
  | variableRef (target : Variable H)
  | unaryMinus (operand : Expr H)
  | binary (op : BinaryOp) (left right : Expr H)
  | call (name : String) (arguments : List (Expr H))

/-- A scalar by name, or an element of an array by name and index. -/
inductive Variable (H : Host) where
  | simple (name : String)
  | array (name : String) (index : Expr H)

end

inductive Stmt (H : Host) where
  | declaration (block : Declarations)
  | expression (value : Expr H)
  | assignment (target : Variable H) (value : Expr H)
  | block (statements : List (Stmt H))
  | ifThen (condition : Expr H) (ifBlock : List (Stmt H))
  | ifElse (condition : Expr H) (ifBlock elseBlock : List (Stmt H))
  | forLoop (counter : Variable H) (start step limit : Expr H) (body : List (Stmt H))
  | whileLoop (condition : Expr H) (body : List (Stmt H))
  | goto (label : String) (condition : Option (Expr H))
  | label (name : String)
  | breakLoop
  | continueLoop
  | returnFrom (value : Option (Expr H))
  | read (targets : List (Variable H))
  | print (items : List (Expr H))
  | greenaiReport (workload : String) (inferences watts seconds : Expr H)
  | ai (statement : H.AiStatement)

variable {H : Host}

def Stmt.isDeclaration : Stmt H → Bool
  | .declaration _ => true
  | _ => false

def Stmt.label? : Stmt H → Option String
  | .label name => some name
  | _ => none

/-- The first statement of a block that carries the label. -/
def labelIndex (label : String) : List (Stmt H) → Option Nat
  | [] => none
  | statement :: rest =>
    if statement.label? = some label then some 0 else (labelIndex label rest).map (· + 1)

structure Function (H : Host) where
  name : String
  type : ShortType
  parameters : Declarations
  body : List (Stmt H)

structure Program (H : Host) where
  globals : Declarations
  functions : List (Function H)
  code : List (Stmt H)
  /-- The grammar keeps declarations out of the top-level statements. -/
  undeclared : ∀ statement ∈ code, statement.isDeclaration = false

theorem undeclared_nil : ∀ statement ∈ ([] : List (Stmt H)), statement.isDeclaration = false := nofun

/-- The registry: a later function replaces an earlier one of the same name. -/
def Program.findFunction (program : Program H) (name : String) : Option (Function H) :=
  program.functions.reverse.find? fun function => function.name == name

theorem Program.findFunction_mem {program : Program H}
    (found : program.findFunction name = some function) :
    function ∈ program.functions ∧ function.name = name := by
  exact ⟨List.mem_reverse.mp (List.mem_of_find?_eq_some found),
    by simpa using List.find?_some found⟩

end ShortHand.Language
