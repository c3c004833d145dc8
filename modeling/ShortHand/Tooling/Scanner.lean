import ShortHand.Evidence.Artifacts

/-! The scanner: its rules per first byte, and the guards that every match runs through. -/

namespace ShortHand.Tooling

open ShortHand.Library ShortHand.Evidence

inductive Diagnostic where
  | scannerBudget
  | tokenLimit
  | nestingLimit
  | unterminatedComment
  | unterminatedString
  | unexpectedCharacter (value : Byte)
  deriving DecidableEq

/-- The tokens by their text: each keyword and each symbol is a token of its own. -/
inductive Kind where
  | keyword
  | builtin
  | identifier
  | floatLiteral
  | intLiteral
  | stringLiteral
  | symbol
  deriving DecidableEq

inductive Rule where
  | blank
  | lineComment
  | blockComment
  | token (kind : Kind)
  | fault (diagnostic : Diagnostic)
  deriving DecidableEq

def isBlank (byte : Byte) : Bool := byte = 32 || byte = 9 || byte = 13 || byte = 10

def isWordStart (byte : Byte) : Bool := isLower byte || isUpper byte || byte = 95

def isWordByte (byte : Byte) : Bool := isWordStart byte || isDigit byte

def keywords : List Bytes :=
  ["package", "module", "import", "as", "def", "double", "return", "continue", "true", "false",
    "model", "format", "path", "task", "precision", "input_shape", "output_shape",
    "backend_preference", "compact", "quality_guardrail", "greenai_contract", "functional_unit",
    "success_criteria", "boundary", "measurement_quality", "data_quality", "carbon_factor",
    "energy_budget_j", "carbon_budget_gco2e", "evidence_retention", "claims_mode",
    "evidence_only", "greenai_measure", "infer", "tensor", "int8", "fp16", "fp32", "bf16", "int4",
    "fp64", "onnx", "engine", "torchscript", "openvino_ir", "gguf", "tensorrt",
    "onnxruntime_tensorrt", "onnxruntime_cuda", "onnxruntime_cpu", "openvino", "libtorch",
    "llamacpp", "fallback", "MQ1", "MQ2", "MQ3", "MQ4", "DQ1", "DQ2", "DQ3", "DQ4", "location",
    "ci_cd", "thirdparty", "accelerator", "compute", "storage", "network", "int", "float",
    "string", "bool", "void", "loop", "while", "if", "else", "goto", "print", "read",
    "break"].map ascii

/-- Keywords only in front of a name and an opening brace. -/
def profileKeywords : List Bytes :=
  ["certification_profile", "certification", "workload", "measurement_plan", "ai_lifecycle",
    "rag_pipeline", "token_budget", "model_routing", "guardrails"].map ascii

def builtins : List Bytes := ["greenai", "ai_infer", "aiinfer"].map ascii

/-- The trailing context of the profile keywords: a gap, a name, perhaps a gap, a brace. -/
def profileAhead (rest : Bytes) : Bool :=
  let name := rest.dropWhile isBlank
  rest.head?.any isBlank && name.head?.any isWordStart &&
    ((name.dropWhile isWordByte).dropWhile isBlank).head? = some 123

def wordKind (word rest : Bytes) : Kind :=
  if (profileKeywords.contains word && profileAhead rest) || keywords.contains word then .keyword
  else if builtins.contains word then .builtin
  else .identifier

/-- The length of a fraction that begins here. -/
def fraction : Bytes → Option Nat
  | [] => none
  | point :: rest =>
    if point = 46 && rest.head?.any isDigit then some (1 + (rest.takeWhile isDigit).length) else none

def numberMatch (text : Bytes) : Kind × Nat :=
  match fraction (text.dropWhile isDigit) with
  | some behind => (.floatLiteral, (text.takeWhile isDigit).length + behind)
  | none => (.intLiteral, (text.takeWhile isDigit).length)

/-- The rest of a string literal, up to its closing quote. There are no escapes. -/
def stringTail : Bytes → Option Bytes
  | [] => none
  | byte :: rest => if byte = 34 then some [34] else (stringTail rest).map (byte :: ·)

/-- The rest of a block comment. A slash ends it behind exactly one asterisk; behind
more of them no rule goes on. -/
def blockTail (stars : Nat) : Bytes → Option Bytes
  | [] => none
  | byte :: rest =>
    if byte = 42 then (blockTail (stars + 1) rest).map (byte :: ·)
    else if byte = 47 ∧ 0 < stars then if stars = 1 then some [47] else none
    else (blockTail 0 rest).map (byte :: ·)

def lineTail (rest : Bytes) : Bytes := rest.takeWhile (· ≠ 10)

/-- The second byte of each symbol of two bytes, by its first. -/
def secondByte (first : Byte) : Option Byte :=
  if first = 45 then some 62
  else if first = 60 ∨ first = 62 ∨ first = 61 ∨ first = 33 then some 61
  else if first = 124 then some 124
  else if first = 38 then some 38
  else none

def singleSymbols : Bytes := ascii "+-*/%;,:.\x7b=[](\x7d)<>"

def symbolMatch (first : Byte) (next : Option Byte) : Rule × Nat :=
  if (secondByte first).isSome && next = secondByte first then (.token .symbol, 2)
  else if singleSymbols.contains first then (.token .symbol, 1)
  else (.fault (.unexpectedCharacter first), 1)

def slashMatch (rest : Bytes) : Rule × Nat :=
  match rest with
  | 47 :: comment => (.lineComment, 2 + (lineTail comment).length)
  | 42 :: comment =>
    match blockTail 0 comment with
    | some tail => (.blockComment, 2 + tail.length)
    | none => (.fault .unterminatedComment, 2)
  | _ => (.token .symbol, 1)

def stringMatch (rest : Bytes) : Rule × Nat :=
  match stringTail rest with
  | some tail => (.token .stringLiteral, 1 + tail.length)
  | none => (.fault .unterminatedString,
      1 + (rest.takeWhile fun byte => byte ≠ 34 && byte ≠ 10).length)

/-- The rule with the longest match and how many bytes it takes. -/
def nextMatch (first : Byte) (rest : Bytes) : Rule × Nat :=
  let text := first :: rest
  if isBlank first then (.blank, (text.takeWhile isBlank).length)
  else if isWordStart first then
    (.token (wordKind (text.takeWhile isWordByte) (text.dropWhile isWordByte)),
      (text.takeWhile isWordByte).length)
  else if isDigit first then (.token (numberMatch text).1, (numberMatch text).2)
  else if first = 34 then stringMatch rest
  else if first = 35 then (.lineComment, 1 + (lineTail rest).length)
  else if first = 47 then slashMatch rest
  else symbolMatch first rest.head?

/-- A match, over bytes that may carry something with them. -/
structure Lexeme (α : Type) where
  rule : Rule
  text : List α
  deriving DecidableEq

/-- All matches of a text, one behind the other. -/
def lexemesFrom {α : Type} (byte : α → Byte) : Nat → List α → List (Lexeme α)
  | _, [] => []
  | skip + 1, _ :: rest => lexemesFrom byte skip rest
  | 0, item :: rest =>
    let matched := nextMatch (byte item) (rest.map byte)
    ⟨matched.1, (item :: rest).take matched.2⟩ :: lexemesFrom byte (matched.2 - 1) rest

def lexemes (text : Bytes) : List (Lexeme Byte) := lexemesFrom id 0 text

structure ParserLimits where
  maxScannerMatches : Nat := 250000
  maxTokenBytes : Nat := 16 * 1024
  maxNestingDepth : Nat := 256

structure Token where
  kind : Kind
  text : Bytes
  deriving DecidableEq

structure GuardState where
  scannerMatches : Nat := 0
  nestingDepth : Nat := 0
  tokens : List Token := []

def Kind.sized : Kind → Bool
  | .keyword | .symbol => false
  | .builtin | .identifier | .floatLiteral | .intLiteral | .stringLiteral => true

/-- The action of a match, behind the count of matches. -/
def action (limits : ParserLimits) (state : GuardState) (lexeme : Lexeme Byte) :
    Except Diagnostic GuardState :=
  match lexeme.rule with
  | .blank | .lineComment | .blockComment => .ok state
  | .token kind => do
    ensure (!kind.sized || lexeme.text.length ≤ limits.maxTokenBytes) .tokenLimit
    let opens := kind = .symbol ∧ lexeme.text ∈ [[123], [91], [(40 : Byte)]]
    let closes := kind = .symbol ∧ lexeme.text ∈ [[125], [93], [(41 : Byte)]]
    ensure (!opens || state.nestingDepth < limits.maxNestingDepth) .nestingLimit
    return { state with
      nestingDepth := if opens then state.nestingDepth + 1
        else if closes then state.nestingDepth - 1 else state.nestingDepth,
      tokens := state.tokens ++ [⟨kind, lexeme.text⟩] }
  | .fault diagnostic => do
    ensure (diagnostic ≠ .unterminatedString || lexeme.text.length ≤ limits.maxTokenBytes) .tokenLimit
    .error diagnostic

def note (limits : ParserLimits) (state : GuardState) (lexeme : Lexeme Byte) :
    Except Diagnostic GuardState := do
  ensure (state.scannerMatches + 1 ≤ limits.maxScannerMatches) .scannerBudget
  action limits { state with scannerMatches := state.scannerMatches + 1 } lexeme

/-- The tokens of a text, or the first diagnostic. -/
def tokenise (limits : ParserLimits) (text : Bytes) : Except Diagnostic (List Token) := do
  let state ← (lexemes text).foldlM (note limits) {}
  return state.tokens

end ShortHand.Tooling
