import Mathlib.Algebra.Order.Ring.Nat
import ShortHand.Library.OrderedMap

/-! JSON documents of the evidence tools: the canonical text, the bounded parser and
the accessors. Texts are byte strings. -/

namespace ShortHand.Evidence

open ShortHand.Library

abbrev Byte := Fin 256

abbrev Bytes := List Byte

instance byte_neZero : NeZero 256 := ⟨nofun⟩

instance byte_lawful : LawfulBEq Byte := inferInstance

instance bytes_lawful : LawfulBEq Bytes := inferInstance

/-- The bytes of a literal. -/
def ascii (text : String) : Bytes := text.toByteArray.data.toList.map fun byte => Fin.ofNat 256 byte.toNat

/-- A byte string in a message. -/
def shown (bytes : Bytes) : String := String.ofList (bytes.map fun byte => Char.ofNat byte.val)

def isDigit (byte : Byte) : Bool := 48 ≤ byte && byte ≤ 57

/-- A syntax error with the number of bytes that were left. -/
structure Fault where
  message : String
  remaining : Nat
  deriving DecidableEq

/-- A scanner returns what it read and the bytes after it. -/
abbrev Scan (α : Type) := Bytes → Except Fault (α × Bytes)

def fault {α : Type} (message : String) (rest : Bytes) : Except Fault α :=
  .error ⟨message, rest.length⟩

def signOf : Bytes → Bytes × Bytes
  | 45 :: rest => ([45], rest)
  | rest => ([], rest)

def scanInteger : Scan Bytes
  | [] => fault "incomplete number" []
  | byte :: rest =>
    if byte = 48 then
      match rest with
      | next :: _ => if isDigit next then fault "leading zero in number" rest else .ok ([byte], rest)
      | [] => .ok ([byte], rest)
    else if isDigit byte then .ok (byte :: rest.takeWhile isDigit, rest.dropWhile isDigit)
    else fault "invalid number" (byte :: rest)

/-- At least one digit. -/
def scanDigits (message : String) : Scan Bytes
  | [] => fault message []
  | byte :: rest =>
    if isDigit byte then .ok (byte :: rest.takeWhile isDigit, rest.dropWhile isDigit)
    else fault message (byte :: rest)

def scanFraction : Scan Bytes
  | 46 :: rest => do
    let (digits, rest) ← scanDigits "fraction has no digits" rest
    return (46 :: digits, rest)
  | rest => .ok ([], rest)

def exponentSign : Bytes → Bytes × Bytes
  | byte :: rest => if byte = 43 ∨ byte = 45 then ([byte], rest) else ([], byte :: rest)
  | [] => ([], [])

def scanExponent : Scan Bytes
  | byte :: rest =>
    if byte = 101 ∨ byte = 69 then do
      let (digits, after) ← scanDigits "exponent has no digits" (exponentSign rest).2
      return (byte :: (exponentSign rest).1 ++ digits, after)
    else .ok ([], byte :: rest)
  | [] => .ok ([], [])

/-- The token of a number. -/
def scanNumber : Scan Bytes := fun source => do
  let (integer, rest) ← scanInteger (signOf source).2
  let (fraction, rest) ← scanFraction rest
  let (exponent, rest) ← scanExponent rest
  return ((signOf source).1 ++ integer ++ fraction ++ exponent, rest)

/-- Numbers with the printing and reading of the standard library: a text is a number
token that reads back exactly, and that of a file length has at most 24 bytes. -/
structure Numerals where
  Double : Type
  decEq : DecidableEq Double
  ofNat : Nat → Double
  text : Double → Bytes
  read : Bytes → Option Double
  scan_text : ∀ value, scanNumber (text value) = .ok (text value, [])
  read_text : ∀ value, read (text value) = some value
  text_length : ∀ value < 10 ^ 18, (text (ofNat value)).length ≤ 24

instance (numerals : Numerals) : DecidableEq numerals.Double := numerals.decEq

inductive Json (N : Numerals) where
  | null
  | boolean (value : Bool)
  | number (value : N.Double)
  | string (value : Bytes)
  | array (items : List (Json N))
  /-- Members by increasing key, as the map of the source keeps them. -/
  | object (members : List (Bytes × Json N))

variable {N : Numerals}

def hexDigit (value : Nat) : Byte :=
  if value < 10 then Fin.ofNat 256 (48 + value) else Fin.ofNat 256 (87 + value)

def escapeByte (byte : Byte) : Bytes :=
  if byte = 34 then [92, 34]
  else if byte = 92 then [92, 92]
  else if byte = 8 then [92, 98]
  else if byte = 12 then [92, 102]
  else if byte = 10 then [92, 110]
  else if byte = 13 then [92, 114]
  else if byte = 9 then [92, 116]
  else if byte < 32 then [92, 117, 48, 48, hexDigit (byte.val / 16), hexDigit (byte.val % 16)]
  else [byte]

def jsonEscape (value : Bytes) : Bytes := value.flatMap escapeByte

def quoted (value : Bytes) : Bytes := 34 :: jsonEscape value ++ [34]

mutual

def canonical : Json N → Bytes
  | .null => ascii "null"
  | .boolean value => ascii (if value then "true" else "false")
  | .string value => quoted value
  | .number value => N.text value
  | .array items => 91 :: canonicalItems items ++ [93]
  | .object members => 123 :: canonicalMembers members ++ [125]

def canonicalItems : List (Json N) → Bytes
  | [] => []
  | item :: rest => canonical item ++ laterItems rest

/-- A comma in front of each further item. -/
def laterItems : List (Json N) → Bytes
  | [] => []
  | item :: rest => 44 :: (canonical item ++ laterItems rest)

def canonicalMembers : List (Bytes × Json N) → Bytes
  | [] => []
  | (key, member) :: rest => quoted key ++ 58 :: (canonical member ++ laterMembers rest)

def laterMembers : List (Bytes × Json N) → Bytes
  | [] => []
  | (key, member) :: rest => 44 :: (quoted key ++ 58 :: (canonical member ++ laterMembers rest))

end

def isSpace (byte : Byte) : Bool := byte = 32 || byte = 9 || byte = 13 || byte = 10

def skipWhitespace (rest : Bytes) : Bytes := rest.dropWhile isSpace

def hexValue (byte : Byte) : Option Nat :=
  if 48 ≤ byte ∧ byte ≤ 57 then some (byte.val - 48)
  else if 97 ≤ byte ∧ byte ≤ 102 then some (byte.val - 87)
  else if 65 ≤ byte ∧ byte ≤ 70 then some (byte.val - 55)
  else none

def scanHex (byte : Byte) (after : Bytes) : Except Fault Nat :=
  match hexValue byte with
  | none => fault "invalid unicode escape" after
  | some value => .ok value

def parseUnicodeUnit : Scan Nat
  | a :: b :: c :: d :: rest => do
    let first ← scanHex a (b :: c :: d :: rest)
    let second ← scanHex b (c :: d :: rest)
    let third ← scanHex c (d :: rest)
    let fourth ← scanHex d rest
    return (((first * 16 + second) * 16 + third) * 16 + fourth, rest)
  | rest => fault "incomplete unicode escape" rest

def utf8 (codePoint : Nat) : Bytes :=
  let low (value : Nat) : Byte := Fin.ofNat 256 (128 + value % 64)
  if codePoint ≤ 0x7F then [Fin.ofNat 256 codePoint]
  else if codePoint ≤ 0x7FF then [Fin.ofNat 256 (192 + codePoint / 64), low codePoint]
  else if codePoint ≤ 0xFFFF then
    [Fin.ofNat 256 (224 + codePoint / 4096), low (codePoint / 64), low codePoint]
  else [Fin.ofNat 256 (240 + codePoint / 262144), low (codePoint / 4096), low (codePoint / 64),
    low codePoint]

def parseLowSurrogate (high : Nat) : Scan Bytes
  | 92 :: 117 :: rest => do
    let (unit, rest) ← parseUnicodeUnit rest
    if 0xDC00 ≤ unit ∧ unit ≤ 0xDFFF then
      return (utf8 (0x10000 + (high - 0xD800) * 1024 + (unit - 0xDC00)), rest)
    else fault "invalid low surrogate" rest
  | rest => fault "high surrogate must be followed by a low surrogate" rest

def parseUnicodeEscape : Scan Bytes := fun source => do
  let (unit, rest) ← parseUnicodeUnit source
  if 0xD800 ≤ unit ∧ unit ≤ 0xDBFF then parseLowSurrogate unit rest
  else if 0xDC00 ≤ unit ∧ unit ≤ 0xDFFF then fault "unexpected low surrogate" rest
  else return (utf8 unit, rest)

/-- The escape after a backslash. -/
def parseEscape : Scan Bytes
  | [] => fault "incomplete string escape" []
  | byte :: rest =>
    if byte = 34 ∨ byte = 92 ∨ byte = 47 then .ok ([byte], rest)
    else if byte = 98 then .ok ([8], rest)
    else if byte = 102 then .ok ([12], rest)
    else if byte = 110 then .ok ([10], rest)
    else if byte = 114 then .ok ([13], rest)
    else if byte = 116 then .ok ([9], rest)
    else if byte = 117 then parseUnicodeEscape rest
    else fault "invalid string escape" rest

/-- A string after its opening quote; each round consumes a byte of the fuel. -/
def parseStringBody : Nat → Scan Bytes
  | 0, rest => fault "unterminated string" rest
  | _ + 1, [] => fault "unterminated string" []
  | fuel + 1, byte :: rest =>
    if byte = 34 then .ok ([], rest)
    else if byte < 32 then fault "unescaped control character in string" rest
    else if byte = 92 then do
      let (decoded, rest) ← parseEscape rest
      let (value, rest) ← parseStringBody fuel rest
      return (decoded ++ value, rest)
    else do
      let (value, rest) ← parseStringBody fuel rest
      return (byte :: value, rest)

def parseString (rest : Bytes) : Except Fault (Bytes × Bytes) :=
  parseStringBody (rest.length + 1) rest

def parseLiteral (literal : Bytes) (value : Json N) : Scan (Json N) := fun source =>
  if literal.isPrefixOf source then .ok (value, source.drop literal.length)
  else fault "invalid literal" source

def parseNumber : Scan (Json N) := fun source => do
  let (token, rest) ← scanNumber source
  match N.read token with
  | none => fault "invalid number" rest
  | some value => return (.number value, rest)

/-- The elements of a nonempty array and its closing bracket. -/
def parseElements (element : Scan (Json N)) : Nat → Scan (List (Json N))
  | 0, rest => fault "expected ','" rest
  | fuel + 1, source => do
    let (item, rest) ← element source
    match skipWhitespace rest with
    | 93 :: rest => return ([item], rest)
    | 44 :: rest => do
      let (items, rest) ← parseElements element fuel (skipWhitespace rest)
      return (item :: items, rest)
    | rest => fault "expected ','" rest

def parseKey : Scan Bytes
  | 34 :: rest => parseString rest
  | [] => fault "unexpected end of input" []
  | rest => fault "object key must be a string" rest

def parseColon : Scan Unit := fun source =>
  match skipWhitespace source with
  | 58 :: rest => .ok ((), rest)
  | rest => fault "expected ':'" rest

/-- The members of a nonempty object and its closing brace. -/
def parseMembers (element : Scan (Json N)) :
    Nat → List (Bytes × Json N) → Scan (List (Bytes × Json N))
  | 0, _, rest => fault "expected ','" rest
  | fuel + 1, members, source => do
    let (key, rest) ← parseKey source
    let (_, rest) ← parseColon rest
    let (member, rest) ← element rest
    match emplaceEntry key member members with
    | none => fault ("duplicate object key: " ++ shown key) rest
    | some members =>
      match skipWhitespace rest with
      | 125 :: rest => return (members, rest)
      | 44 :: rest => parseMembers element fuel members (skipWhitespace rest)
      | rest => fault "expected ','" rest

def parseArray (element : Scan (Json N)) : Scan (Json N) := fun source =>
  match skipWhitespace source with
  | 93 :: rest => .ok (.array [], rest)
  | rest => do
    let (items, rest) ← parseElements element (rest.length + 1) rest
    return (.array items, rest)

def parseObject (element : Scan (Json N)) : Scan (Json N) := fun source =>
  match skipWhitespace source with
  | 125 :: rest => .ok (.object [], rest)
  | rest => do
    let (members, rest) ← parseMembers element (rest.length + 1) [] rest
    return (.object members, rest)

def kMaxJsonDepth : Nat := 64

/-- A value where this many more levels are allowed. -/
def parseValue : Nat → Scan (Json N)
  | 0, rest => fault "nesting depth exceeds 64" rest
  | levels + 1, source =>
    match skipWhitespace source with
    | [] => fault "unexpected end of input" []
    | byte :: rest =>
      if byte = 123 then parseObject (parseValue levels) rest
      else if byte = 91 then parseArray (parseValue levels) rest
      else if byte = 34 then do
        let (value, rest) ← parseString rest
        return (.string value, rest)
      else if byte = 116 then parseLiteral (ascii "true") (.boolean true) (byte :: rest)
      else if byte = 102 then parseLiteral (ascii "false") (.boolean false) (byte :: rest)
      else if byte = 110 then parseLiteral (ascii "null") .null (byte :: rest)
      else if byte = 45 ∨ isDigit byte then parseNumber (byte :: rest)
      else fault "unexpected token" (byte :: rest)

def parseDocument : Scan (Json N) := fun source => do
  let (value, rest) ← parseValue (kMaxJsonDepth + 1) (skipWhitespace source)
  match skipWhitespace rest with
  | [] => return (value, [])
  | rest => fault "trailing data" rest

def Fault.text (source : Bytes) (error : Fault) : String :=
  "invalid JSON at byte " ++ toString (source.length - error.remaining) ++ ": " ++ error.message

def parseJson (N : Numerals) (source : Bytes) : Except String (Json N) :=
  match parseDocument source with
  | .error error => .error (error.text source)
  | .ok (value, _) => .ok value

/-- A condition with the message of its failure. -/
def require (condition : Bool) (message : String) : Except String Unit :=
  if condition then .ok () else .error message

def jsonMember (object : Json N) (key : String) : Except String (Json N) :=
  match object with
  | .object members =>
    match members.lookup (ascii key) with
    | none => .error ("JSON object missing required member: " ++ key)
    | some member => .ok member
  | _ => .error "JSON value must be an object"

def jsonString (object : Json N) (key : String) : Except String Bytes := do
  match ← jsonMember object key with
  | .string value => .ok value
  | _ => .error ("JSON member must be a string: " ++ key)

def jsonBoolean (object : Json N) (key : String) : Except String Bool := do
  match ← jsonMember object key with
  | .boolean value => .ok value
  | _ => .error ("JSON member must be a boolean: " ++ key)

def jsonNumber (object : Json N) (key : String) : Except String N.Double := do
  match ← jsonMember object key with
  | .number value => .ok value
  | _ => .error ("JSON member must be a number: " ++ key)

def requireMembers (members : List (Bytes × Json N)) (description : String) :
    List String → Except String Unit
  | [] => .ok ()
  | key :: rest =>
    if (members.lookup (ascii key)).isSome then requireMembers members description rest
    else .error (description ++ " missing required member: " ++ key)

/-- Exactly the keys of a contract; the missing one of a failure is the first by key
order, in which the callers list them. -/
def requireExactKeys (object : Json N) (keys : List String) (description : String) :
    Except String Unit :=
  match object with
  | .object members =>
    if members.length ≠ keys.length then
      .error (description ++ " must contain exactly the contract keys")
    else requireMembers members description keys
  | _ => .error (description ++ " must be an object")

/-- An object from its fields, kept by key. -/
def object (fields : List (String × Json N)) : Json N :=
  .object (OrderedMap.ofEntries (fields.map fun field => (ascii field.1, field.2))).entries

end ShortHand.Evidence
