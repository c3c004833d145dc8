import Mathlib.Algebra.Order.Ring.Nat
import ShortHand.Enterprise.Ownership
import ShortHand.Enterprise.Tokens

/-! The single-pass parser of the enterprise value language (`EnterpriseValues.cpp`). The first
`fail` decides, so the model stops there. A statement also yields an `Executed` record of what
it read, wrote and did. -/

namespace ShortHand.Enterprise

inductive ScalarType where
  | void
  | int32
  | bool
  | float64
  | string
  | composite
  deriving DecidableEq, Repr

inductive CompositeKind where
  | record
  | enum
  | option
  | result
  | slice
  deriving DecidableEq, Repr

structure Composite where
  kind : CompositeKind := .record
  name : String := ""
  fields : List ScalarType := []
  names : List String := []
  deriving DecidableEq, Repr

/-- An extent of zero denotes a scalar. -/
structure Variable where
  name : String := ""
  type : ScalarType := .int32
  extent : Nat := 0
  line : Nat := 0
  composite : String := ""
  deriving DecidableEq, Repr

inductive ExpressionKind where
  | integer
  | boolean
  | float
  | string
  | variableRef
  | index
  | construct
  | project
  | slice
  | sliceIndex
  deriving DecidableEq, Repr

/-- `decimal` is the bit pattern of a `double`, and `line` zero an unknown range. -/
inductive Expression where
  | mk (kind : ExpressionKind) (type : ScalarType) (name : String) (integer : Int)
      (decimal : Nat) (operands : List Expression) (composite : String) (line : Nat)

namespace Expression

def kind : Expression → ExpressionKind | mk kind .. => kind
def type : Expression → ScalarType | mk _ type .. => type
def name : Expression → String | mk _ _ name .. => name
def integer : Expression → Int | mk _ _ _ integer .. => integer
def composite : Expression → String | mk _ _ _ _ _ _ composite _ => composite

def withLine (line : Nat) : Expression → Expression
  | mk kind type name integer decimal operands composite known =>
    mk kind type name integer decimal operands composite (if known = 0 then line else known)

end Expression

def integer (value : Int) : Expression := .mk .integer .int32 "" value 0 [] "" 0

def zero (type : ScalarType) : Expression :=
  let kind : ExpressionKind :=
    match type with
    | .float64 => .float
    | .string => .string
    | .bool => .boolean
    | _ => .integer
  .mk kind type "" 0 0 [] "" 0

inductive Statement where
  | assign (target value : Expression) (line : Nat)
  | update (target : Expression) (declaration : Nat) (value : Expression) (line : Nat)
  | print (expressions : List Expression) (line : Nat)

/-- The variable that a statement stores to. -/
def Statement.stores : Statement → Option String
  | .assign target _ _ | .update target _ _ _ => some target.name
  | .print .. => none

structure ProgramIR where
  composites : List Composite := []
  globals : List Variable := []
  body : List Statement := []

structure Borrow where
  owner : String
  mutable : Bool := false
  view : Bool := false
  deriving DecidableEq, Repr

/-- The tables an expression is read against. -/
structure Env where
  composites : AList (fun _ : String => Composite) := ∅
  values : AList (fun _ : String => Variable) := ∅
  borrows : AList (fun _ : String => Borrow) := ∅
  ownership : OwnershipTracker := {}

structure Parser where
  tokens : List Token
  env : Env := {}
  program : ProgramIR := {}

/-- A use of a value, and the name it was written with: its own, or the handle of
a borrow. -/
structure Access where
  value : String
  via : String
  deriving DecidableEq, Repr

/-- What a statement did with whole values. -/
inductive Effect where
  | nothing
  | declare (name : String)
  | assign (target : Access)
  | update (target : Access)
  | move (owner target : String)
  | borrow (handle : String) (borrow : Borrow)
  | release (handle : String) (borrow : Borrow)
  deriving DecidableEq, Repr

structure Executed where
  reads : List Access := []
  effect : Effect := .nothing
  emitted : List Statement := []

/-- `strtod` on a whole literal: the bits of a finite value that is in range. -/
structure Numerals where
  float64 : String → Option Nat

def scalar (text : String) : ScalarType :=
  if text = "int32" then .int32
  else if text = "bool" then .bool
  else if text = "float64" then .float64
  else if text = "string" then .string
  else .void

/-- `std::from_chars` for `int32` on a whole literal. -/
def parseInt32 (text : String) : Option Int :=
  let (negative, digits) :=
    match text.toList with
    | '-' :: rest => (true, rest)
    | digits => (false, digits)
  if digits.isEmpty || !digits.all digit then none
  else
    let magnitude : Int := digits.foldl (fun total c => total * 10 + (c.toNat - 48)) (0 : Nat)
    let value := if negative then -magnitude else magnitude
    if -2 ^ 31 ≤ value ∧ value < 2 ^ 31 then some value else none

section Cursor

/-- The end token is never consumed, so there always is one. -/
def peek (tokens : List Token) : Token := tokens.headD ⟨"", 0, false⟩

def fail {α : Type} (tokens : List Token) (message : String) : Except Failure α :=
  .error ⟨message, (peek tokens).line⟩

def take (text : String) : List Token → Option (List Token)
  | [] => none
  | token :: rest => if token.text = text ∧ token.quoted = false then some rest else none

def expect (text : String) (tokens : List Token) : Except Failure (List Token) :=
  match take text tokens with
  | some rest => .ok rest
  | none => fail tokens ("expected `" ++ text ++ "`")

def takeName (tokens : List Token) : Except Failure (String × List Token) :=
  match tokens with
  | [] => fail tokens "expected an identifier"
  | token :: rest =>
    if isIdentifier token.text && !token.quoted then .ok (token.text, rest)
    else fail tokens "expected an identifier"

/-- Turn a diagnostic of the tracker into a failure at the cursor. -/
def checked {α : Type} (tokens : List Token) : Except String α → Except Failure α
  | .ok value => .ok value
  | .error why => fail tokens why

end Cursor

/-- The value a name stands for in a reading or (with `write`) an assigning
position. A borrow that is not a view stands for its owner; any other name is
checked by the tracker. -/
def resolve (env : Env) (name : String) (write : Bool) :
    Except String (String × OwnershipTracker) :=
  match env.borrows.lookup name with
  | some ⟨owner, mutable, false⟩ =>
    if write && !mutable then .error "shared borrow is immutable" else .ok (owner, env.ownership)
  | _ =>
    if write then (env.ownership.assign name).map fun ownership => (name, ownership)
    else (env.ownership.read name).map fun _ => (name, env.ownership)

def reference (env : Env) (name : String) (write : Bool) :
    Except String (Expression × Access × OwnershipTracker) := do
  let (owner, ownership) ← resolve env name write
  match env.values.lookup owner with
  | none => .error ("unknown value: " ++ owner)
  | some value =>
    .ok (.mk .variableRef value.type owner 0 0 [] value.composite 0, ⟨owner, name⟩, ownership)

/-- The comma before every entry of a list but the first. -/
def separator (first : Bool) (tokens : List Token) : Except Failure (List Token) :=
  if first then .ok tokens else expect "," tokens

/-- The operands of a record constructor, one expression a field. -/
def constructorFields
    (expression : List Token → Except Failure (Expression × List Access × List Token)) :
    List ScalarType → Bool → List Token →
      Except Failure (List Expression × List Access × List Token)
  | [], _, tokens => .ok ([], [], tokens)
  | _ :: fields, first, tokens => do
    let tokens ← separator first tokens
    let (field, reads, tokens) ← expression tokens
    let (operands, later, tokens) ← constructorFields expression fields false tokens
    .ok (field :: operands, reads ++ later, tokens)

def constructed (name : String) (operands : List Expression) : Expression :=
  .mk .construct .composite "" 0 0 operands name 0

/-- The tag of an option or result variant. -/
def variantTag (isOption : Bool) (variant : String) : Option Nat :=
  if isOption then
    if variant = "some" then some 1 else if variant = "none" then some 0 else none
  else if variant = "ok" then some 0 else if variant = "error" then some 1 else none

/-- A variant of an option or a result, with its payload unless it is `none`. -/
def constructVariant
    (expression : List Token → Except Failure (Expression × List Access × List Token))
    (c : Composite) (name : String) (isOption : Bool) (tokens : List Token) :
    Except Failure (Expression × List Access × List Token) := do
  let tokens ← expect "." tokens
  let (variant, tokens) ← takeName tokens
  match variantTag isOption variant with
  | none => fail tokens "unknown option/result variant"
  | some tag =>
    let operands := integer tag :: c.fields.map zero
    if isOption && tag == 0 then .ok (constructed name operands, [], tokens)
    else do
      let tokens ← expect "(" tokens
      let (payload, reads, tokens) ← expression tokens
      let tokens ← expect ")" tokens
      .ok (constructed name (operands.set (if isOption then 1 else tag + 1) payload), reads, tokens)

/-- A constructor of a declared type, after its name. -/
def construct
    (expression : List Token → Except Failure (Expression × List Access × List Token))
    (c : Composite) (name : String) (tokens : List Token) :
    Except Failure (Expression × List Access × List Token) :=
  match c.kind with
  | .slice => fail tokens "slices require view and an array owner"
  | .enum => do
    let tokens ← expect "." tokens
    let (variant, tokens) ← takeName tokens
    match c.names.idxOf? variant with
    | some position => .ok (constructed name [integer position], [], tokens)
    | none => fail tokens "unknown enum variant"
  | .option => constructVariant expression c name true tokens
  | .result => constructVariant expression c name false tokens
  | .record => do
    let tokens ← expect "(" tokens
    let (operands, reads, tokens) ← constructorFields expression c.fields true tokens
    let tokens ← expect ")" tokens
    .ok (constructed name operands, reads, tokens)

/-- The position of the last field of that name. -/
def lastIndex (names : List String) (field : String) : Option Nat :=
  (names.zipIdx.filter fun entry => entry.1 == field).getLast?.map Prod.snd

/-- The operand and type that `.field` projects to. -/
def projection (c : Composite) (field : String) : Option (Nat × ScalarType) :=
  if c.kind != .record && c.kind != .slice && field == "tag" then some (0, .int32)
  else if c.kind != .enum && c.kind != .slice then
    (lastIndex c.names field).map fun position =>
      (position + (if c.kind == .record then 0 else 1), c.fields.getD position .void)
  else none

/-- What may follow a reference: a projection, an index, or nothing. -/
def selector (env : Env)
    (expression : List Token → Except Failure (Expression × List Access × List Token))
    (base : Expression) (tokens : List Token) :
    Except Failure (Expression × List Access × List Token) :=
  let compositeOf := (env.composites.lookup base.composite).getD {}
  match take "." tokens with
  | some tokens => do
    let (field, tokens) ← takeName tokens
    if base.type != .composite then fail tokens "projection requires composite"
    else
      match projection compositeOf field with
      | none => fail tokens "unknown composite field"
      | some (position, type) => .ok (.mk .project type "" position 0 [base] "" 0, [], tokens)
  | none =>
    match take "[" tokens with
    | some tokens => do
      let (index, reads, tokens) ← expression tokens
      let tokens ← expect "]" tokens
      if base.type == .composite then
        if compositeOf.kind != .slice then fail tokens "indexing requires array/slice"
        else .ok (.mk .sliceIndex (compositeOf.fields.getD 0 .void) base.name 0 0 [index] "" 0,
          reads, tokens)
      else .ok (.mk .index base.type base.name 0 0 [index] base.composite 0, reads, tokens)
    | none =>
      if ((env.values.lookup base.name).getD {}).extent > 0 then
        fail tokens "array requires an index"
      else .ok (base, [], tokens)

def expressionImpl (numerals : Numerals) (env : Env)
    (expression : List Token → Except Failure (Expression × List Access × List Token))
    (tokens : List Token) : Except Failure (Expression × List Access × List Token) :=
  let token := peek tokens
  if token.quoted then .ok (.mk .string .string token.text 0 0 [] "" 0, [], tokens.tail)
  else
    match take "true" tokens, take "false" tokens with
    | some tokens, _ => .ok (.mk .boolean .bool "" 1 0 [] "" 0, [], tokens)
    | none, some tokens => .ok (zero .bool, [], tokens)
    | none, none =>
      if token.text.toList.head?.any fun c => digit c || c == '-' then
        if token.text.toList.any fun c => c == '.' || c == 'e' || c == 'E' then
          match numerals.float64 token.text with
          | some bits => .ok (.mk .float .float64 "" 0 bits [] "" 0, [], tokens.tail)
          | none => fail tokens.tail "invalid float64 literal"
        else
          match parseInt32 token.text with
          | some value => .ok (integer value, [], tokens.tail)
          | none => fail tokens.tail "invalid int32 literal"
      else do
        let (name, tokens) ← takeName tokens
        match env.composites.lookup name with
        | some c => construct expression c name tokens
        | none =>
          let (base, access, _) ← checked tokens (reference env name false)
          let (selected, reads, tokens) ← selector env expression base tokens
          .ok (selected, access :: reads, tokens)

/-- `depth` is how many levels of nesting are left of 128. -/
def expressionAt (numerals : Numerals) (env : Env) :
    (depth : Nat) → List Token → Except Failure (Expression × List Access × List Token)
  | 0, tokens => fail tokens "expression depth limit exceeded"
  | depth + 1, tokens => do
    let (parsed, reads, rest) ←
      expressionImpl numerals env (expressionAt numerals env depth) tokens
    .ok (parsed.withLine (peek tokens).line, reads, rest)

def expression (numerals : Numerals) (env : Env) (tokens : List Token) :
    Except Failure (Expression × List Access × List Token) :=
  expressionAt numerals env 128 tokens

end ShortHand.Enterprise
