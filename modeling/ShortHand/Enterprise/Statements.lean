import ShortHand.Enterprise.Values

/-! The statements of the enterprise value language and the whole lowering
(`EnterpriseValues.cpp`). -/

namespace ShortHand.Enterprise

/-- The type of a record field; an enum variant has none. -/
def memberType (isRecord : Bool) (tokens : List Token) :
    Except Failure (ScalarType × List Token) :=
  if isRecord then do
    let (name, tokens) ← takeName tokens
    if scalar name = .void then fail tokens "record requires scalar fields"
    else .ok (scalar name, tokens)
  else .ok (.void, tokens)

/-- The fields of a record, or the variants of an enum, up to the closing brace.
`room` is how many of 256 are left. -/
def members (isRecord : Bool) :
    (room : Nat) → List Token → Except Failure (List (ScalarType × String) × List Token)
  | room, tokens =>
    match take "\x7d" tokens with
    | some tokens => .ok ([], tokens)
    | none =>
      match room with
      | 0 => fail tokens "field limit exceeded"
      | room + 1 => do
        let (type, tokens) ← memberType isRecord tokens
        let (field, tokens) ← takeName tokens
        let tokens ← expect ";" tokens
        let (later, tokens) ← members isRecord room tokens
        .ok ((type, field) :: later, tokens)

/-- `TypeDescriptor::validate` for the descriptors a declaration builds. The
payloads are scalars and the names are identifiers by then. -/
def validateDescriptor (c : Composite) : Except String Unit :=
  match c.kind with
  | .record =>
    if c.names.isEmpty then .error "SHD3010 record requires at least one field"
    else if !decide c.names.Nodup then
      .error "SHD3010 record field names must be non-empty and unique"
    else .ok ()
  | .enum =>
    if c.names.isEmpty then .error "SHD3010 enum requires at least one variant"
    else if !decide c.names.Nodup then
      .error "SHD3010 enum variants must be non-empty and unique"
    else .ok ()
  | .option | .result | .slice => .ok ()

/-- The payload types between angle brackets. -/
def payload (kind : CompositeKind) (tokens : List Token) :
    Except Failure (Composite × List Token) := do
  let tokens ← expect "<" tokens
  let (first, tokens) ← takeName tokens
  if scalar first = .void then fail tokens "payload requires scalar"
  else if kind = .result then do
    let tokens ← expect "," tokens
    let (second, tokens) ← takeName tokens
    if scalar second = .void then fail tokens "error requires scalar"
    else do
      let tokens ← expect ">" tokens
      .ok ({ kind, fields := [scalar first, scalar second], names := ["ok", "error"] }, tokens)
  else do
    let tokens ← expect ">" tokens
    let names := if kind = .option then ["value"] else ["element"]
    .ok ({ kind, fields := [scalar first], names }, tokens)

def declarationBody (kind : CompositeKind) (tokens : List Token) :
    Except Failure (Composite × List Token) :=
  if kind = .record ∨ kind = .enum then do
    let tokens ← expect "\x7b" tokens
    let (entries, tokens) ← members (kind == .record) 256 tokens
    let fields := if kind = .record then entries.map Prod.fst else []
    .ok ({ kind, fields, names := entries.map Prod.snd }, tokens)
  else payload kind tokens

def declaration (parser : Parser) (kind : CompositeKind) (tokens : List Token) :
    Except Failure (Parser × Executed) := do
  let (name, tokens) ← takeName tokens
  if (parser.env.composites.lookup name).isSome then fail tokens "duplicate/invalid type"
  else do
    let (body, tokens) ← declarationBody kind tokens
    let c := { body with name }
    let _ ← checked tokens (validateDescriptor c)
    let tokens ← expect ";" tokens
    .ok ({ parser with
      tokens
      env := { parser.env with composites := parser.env.composites.insert name c }
      program := { parser.program with composites := parser.program.composites ++ [c] } }, {})

/-- Enter a fresh value in the tracker and the table. -/
def declareValue (parser : Parser) (v : Variable) : Except String Parser := do
  let declared ← parser.env.ownership.declareValue v.name
  let ownership ← declared.initializeValue v.name
  .ok { parser with
    env := { parser.env with values := parser.env.values.insert v.name v, ownership }
    program := { parser.program with globals := parser.program.globals ++ [v] } }

def append (parser : Parser) (statements : List Statement) : Parser :=
  { parser with program := { parser.program with body := parser.program.body ++ statements } }

def variableExpression (v : Variable) : Expression :=
  .mk .variableRef v.type v.name 0 0 [] v.composite 0

def addValue (parser : Parser) (v : Variable) (init : Expression) :
    Except Failure (Parser × List Statement) :=
  if (parser.env.values.lookup v.name).isSome || (parser.env.borrows.lookup v.name).isSome then
    fail parser.tokens "duplicate value/borrow"
  else do
    let parser ← checked parser.tokens (declareValue parser v)
    let emitted := [Statement.assign (variableExpression v) init 0]
    .ok (append parser emitted, emitted)

variable (numerals : Numerals)

/-- The type of an owned value, and its name if it is composite. -/
def ownedType (env : Env) (typeName : String) (tokens : List Token) :
    Except Failure (ScalarType × String) :=
  if scalar typeName ≠ .void then .ok (scalar typeName, "")
  else
    match env.composites.lookup typeName with
    | none => fail tokens "unknown type"
    | some c =>
      if c.kind = .slice then fail tokens "slices require view"
      else .ok (.composite, typeName)

def ownedStatement (parser : Parser) (line : Nat) (tokens : List Token) :
    Except Failure (Parser × Executed) := do
  let (typeName, tokens) ← takeName tokens
  let (type, composite) ← ownedType parser.env typeName tokens
  let (name, tokens) ← takeName tokens
  let tokens ← expect "=" tokens
  let (init, reads, tokens) ← expression numerals parser.env tokens
  let tokens ← expect ";" tokens
  if init.type = .composite ∧ init.kind ≠ .construct then
    fail tokens "owned composite requires constructor or move"
  else do
    let (parser, emitted) ←
      addValue { parser with tokens } { name, type, composite, line } init
    .ok (parser, ⟨reads, .declare name, emitted⟩)

/-- The elements of an array declaration from position `index` on. -/
def arrayElements (env : Env) (v : Variable) :
    (count index : Nat) → List Token →
      Except Failure (List Statement × List Access × List Token)
  | 0, _, tokens => .ok ([], [], tokens)
  | count + 1, index, tokens => do
    let tokens ← separator (index == 0) tokens
    let (init, reads, tokens) ← expression numerals env tokens
    let (statements, later, tokens) ← arrayElements env v count (index + 1) tokens
    .ok (.assign (.mk .index v.type v.name 0 0 [integer index] "" 0) init 0 :: statements,
      reads ++ later, tokens)

def arrayStatement (parser : Parser) (line : Nat) (tokens : List Token) :
    Except Failure (Parser × Executed) := do
  let (typeName, tokens) ← takeName tokens
  let type := scalar typeName
  let (name, tokens) ← takeName tokens
  let tokens ← expect "[" tokens
  let (extent, extentReads, tokens) ← expression numerals parser.env tokens
  let tokens ← expect "]" tokens
  if extent.kind ≠ .integer ∨ extent.integer ≤ 0 ∨ extent.integer > 65536 then
    fail tokens "array requires positive extent up to 65536"
  else if type ≠ .int32 ∧ type ≠ .float64 ∧ type ≠ .bool then
    fail tokens "array requires numeric/bool elements"
  else do
    let tokens ← expect "=" tokens
    let tokens ← expect "[" tokens
    if (parser.env.values.lookup name).isSome || (parser.env.borrows.lookup name).isSome then
      fail tokens "invalid array declaration"
    else do
      let v : Variable := { name, type, extent := extent.integer.toNat, line }
      let parser ← checked tokens (declareValue parser v)
      let (emitted, reads, tokens) ←
        arrayElements numerals parser.env v v.extent 0 tokens
      let tokens ← expect "]" tokens
      let tokens ← expect ";" tokens
      .ok (append { parser with tokens } emitted, ⟨extentReads ++ reads, .declare name, emitted⟩)

def viewStatement (parser : Parser) (line : Nat) (tokens : List Token) :
    Except Failure (Parser × Executed) := do
  let (typeName, tokens) ← takeName tokens
  match parser.env.composites.lookup typeName with
  | none => fail tokens "view requires slice type"
  | some c =>
    if c.kind ≠ .slice then fail tokens "view requires slice type"
    else do
      let (name, tokens) ← takeName tokens
      let tokens ← expect "=" tokens
      let (owner, tokens) ← takeName tokens
      let tokens ← expect "[" tokens
      let (offset, offsetReads, tokens) ← expression numerals parser.env tokens
      let tokens ← expect "," tokens
      let (length, lengthReads, tokens) ← expression numerals parser.env tokens
      let tokens ← expect "]" tokens
      let tokens ← expect ";" tokens
      let ownership ← checked tokens (parser.env.ownership.borrowShared owner)
      let init := Expression.mk .slice .composite owner 0 0 [offset, length] typeName line
      let (parser, emitted) ←
        addValue { parser with tokens, env := { parser.env with ownership } }
          { name, type := .composite, composite := typeName, line } init
      let borrow : Borrow := { owner, view := true }
      .ok ({ parser with
        env := { parser.env with borrows := parser.env.borrows.insert name borrow } },
        ⟨⟨owner, owner⟩ :: offsetReads ++ lengthReads, .borrow name borrow, emitted⟩)

/-- The expressions of `print`, separated by commas; `room` bounds the tokens. -/
def printed (env : Env) :
    (room : Nat) → List Token → Except Failure (List Expression × List Access × List Token)
  | 0, tokens => fail tokens "expected an identifier"
  | room + 1, tokens => do
    let (first, reads, tokens) ← expression numerals env tokens
    match take "," tokens with
    | none => .ok ([first], reads, tokens)
    | some tokens => do
      let (others, later, tokens) ← printed env room tokens
      .ok (first :: others, reads ++ later, tokens)

def printStatement (parser : Parser) (line : Nat) (tokens : List Token) :
    Except Failure (Parser × Executed) := do
  let (expressions, reads, tokens) ← printed numerals parser.env tokens.length tokens
  let tokens ← expect ";" tokens
  let emitted := [Statement.print expressions line]
  .ok (append { parser with tokens } emitted, ⟨reads, .nothing, emitted⟩)

/-- What follows the target of `set`: a field, an index, or nothing. -/
inductive Place where
  | whole
  | field (declaration : Nat)
  | element (index : Expression)

def place (env : Env) (target : Expression) (tokens : List Token) :
    Except Failure (Place × List Access × List Token) :=
  match take "." tokens with
  | some tokens => do
    let (field, tokens) ← takeName tokens
    if target.type ≠ .composite then fail tokens "field update requires record"
    else
      let c := (env.composites.lookup target.composite).getD {}
      match lastIndex c.names field, c.kind with
      | some position, .record => .ok (.field position, [], tokens)
      | _, _ => fail tokens "unknown record field"
  | none =>
    match take "[" tokens with
    | some tokens => do
      let (index, reads, tokens) ← expression numerals env tokens
      let tokens ← expect "]" tokens
      .ok (.element index, reads, tokens)
    | none =>
      if target.type = .composite then fail tokens "use move or field update"
      else .ok (.whole, [], tokens)

def setEffect (access : Access) : Place → Effect
  | .whole => .assign access
  | .field _ | .element _ => .update access

def setEmitted (target value : Expression) (line : Nat) : Place → Statement
  | .whole => .assign (target.withLine line) value line
  | .field declaration => .update (target.withLine line) declaration value line
  | .element index =>
    .assign (.mk .index target.type target.name 0 0 [index] target.composite line) value line

def setStatement (parser : Parser) (line : Nat) (tokens : List Token) :
    Except Failure (Parser × Executed) := do
  let (name, tokens) ← takeName tokens
  let (target, access, ownership) ← checked tokens (reference parser.env name true)
  let env := { parser.env with ownership }
  let (where_, placeReads, tokens) ← place numerals env target tokens
  let tokens ← expect "=" tokens
  let (value, reads, tokens) ← expression numerals env tokens
  let tokens ← expect ";" tokens
  let emitted := [setEmitted target value line where_]
  .ok (append { parser with tokens, env } emitted,
    ⟨placeReads ++ reads, setEffect access where_, emitted⟩)

def moveStatement (parser : Parser) (line : Nat) (tokens : List Token) :
    Except Failure (Parser × Executed) := do
  let (owner, tokens) ← takeName tokens
  let (init, access, _) ← checked tokens (reference parser.env owner false)
  let tokens ← expect "to" tokens
  if (parser.env.borrows.lookup owner).isSome then fail tokens "release view before moving"
  else do
    let v := (parser.env.values.lookup owner).getD {}
    let (name, tokens) ← takeName tokens
    let tokens ← expect ";" tokens
    let ownership ← checked tokens (parser.env.ownership.moveValue owner)
    let (parser, emitted) ←
      addValue { parser with tokens, env := { parser.env with ownership } } { v with name, line } init
    .ok (parser, ⟨[access], .move owner name, emitted⟩)

/-- Whether the borrow is mutable. -/
def borrowMode (tokens : List Token) : Except Failure (Bool × List Token) :=
  match take "mutable" tokens with
  | some tokens => .ok (true, tokens)
  | none => do
    let tokens ← expect "shared" tokens
    .ok (false, tokens)

def borrowStatement (parser : Parser) (tokens : List Token) :
    Except Failure (Parser × Executed) := do
  let (mutable, tokens) ← borrowMode tokens
  let (owner, tokens) ← takeName tokens
  let tokens ← expect "as" tokens
  let (handle, tokens) ← takeName tokens
  let tokens ← expect ";" tokens
  if (parser.env.values.lookup handle).isSome || (parser.env.borrows.lookup handle).isSome then
    fail tokens "duplicate borrow"
  else do
    let ownership ← checked tokens
      (if mutable then parser.env.ownership.borrowMutable owner
        else parser.env.ownership.borrowShared owner)
    let borrow : Borrow := { owner, mutable }
    .ok ({ parser with
      tokens
      env := { parser.env with
        ownership, borrows := parser.env.borrows.insert handle borrow } },
      { effect := .borrow handle borrow })

def releaseStatement (parser : Parser) (tokens : List Token) :
    Except Failure (Parser × Executed) := do
  let (handle, tokens) ← takeName tokens
  let tokens ← expect ";" tokens
  match parser.env.borrows.lookup handle with
  | none => fail tokens "unknown/released borrow"
  | some borrow => do
    let released ← checked tokens
      (if borrow.mutable then parser.env.ownership.releaseMutable borrow.owner
        else parser.env.ownership.releaseShared borrow.owner)
    let ownership ← checked tokens
      (if borrow.view then released.moveValue handle else .ok released)
    .ok ({ parser with
      tokens
      env := { parser.env with
        ownership, borrows := parser.env.borrows.erase handle } },
      { effect := .release handle borrow })

def statement (parser : Parser) : Except Failure (Parser × Executed) :=
  let tokens := parser.tokens
  let line := (peek tokens).line
  match take "record" tokens, take "enum" tokens, take "option" tokens, take "result" tokens,
      take "slice" tokens with
  | some rest, _, _, _, _ => declaration parser .record rest
  | none, some rest, _, _, _ => declaration parser .enum rest
  | none, none, some rest, _, _ => declaration parser .option rest
  | none, none, none, some rest, _ => declaration parser .result rest
  | none, none, none, none, some rest => declaration parser .slice rest
  | none, none, none, none, none =>
    match take "owned" tokens, take "array" tokens, take "view" tokens, take "print" tokens with
    | some rest, _, _, _ => ownedStatement numerals parser line rest
    | none, some rest, _, _ => arrayStatement numerals parser line rest
    | none, none, some rest, _ => viewStatement numerals parser line rest
    | none, none, none, some rest => printStatement numerals parser line rest
    | none, none, none, none =>
      match take "set" tokens, take "move" tokens, take "borrow" tokens, take "release" tokens with
      | some rest, _, _, _ => setStatement numerals parser line rest
      | none, some rest, _, _ => moveStatement parser line rest
      | none, none, some rest, _ => borrowStatement parser rest
      | none, none, none, some rest => releaseStatement parser rest
      | none, none, none, none => fail tokens "unknown enterprise value statement"

/-- Statements until a token without text; `room` bounds the tokens left. -/
def statements : (room : Nat) → Parser → Except Failure (Parser × List Executed)
  | room, parser =>
    if (peek parser.tokens).text.isEmpty then .ok (parser, [])
    else
      match room with
      | 0 => fail parser.tokens "unknown enterprise value statement"
      | room + 1 => do
        let (next, executed) ← statement numerals parser
        let (last, later) ← statements room next
        .ok (last, executed :: later)

/-- The rest of a dotted namespace; `room` bounds the tokens left. -/
def namespaceRest : (room : Nat) → List Token → Except Failure (List Token)
  | room, tokens =>
    match take "." tokens with
    | none => .ok tokens
    | some tokens =>
      match room with
      | 0 => fail tokens "expected an identifier"
      | room + 1 => do
        let (_, tokens) ← takeName tokens
        namespaceRest room tokens

def header (tokens : List Token) : Except Failure (List Token) := do
  let tokens ← ["language", "shorthand", ".", "enterprise_language", ".", "v2", ";",
    "namespace"].foldlM (fun tokens text => expect text tokens) tokens
  let (_, tokens) ← takeName tokens
  let tokens ← namespaceRest tokens.length tokens
  expect ";" tokens

/-- The lowered program of an accepted source, with the record of its statements. -/
def lowerValueSource (limits : ParserLimits) (source : List Char) :
    Except Failure (ProgramIR × List Executed) := do
  let tokens ← tokenize limits source
  let tokens ← header tokens
  let (parser, history) ← statements numerals tokens.length { tokens }
  if parser.env.borrows.entries.isEmpty then .ok (parser.program, history)
  else fail parser.tokens "all borrows/views must be released"

end ShortHand.Enterprise
