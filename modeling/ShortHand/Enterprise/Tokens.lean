import Mathlib.Logic.Basic

/-! Tokens of the enterprise value language (`Parser::tokenize`). A source is its list of bytes,
each as the character with that code. -/

namespace ShortHand.Enterprise

structure Token where
  text : String
  line : Nat
  quoted : Bool := false
  deriving DecidableEq, Repr

/-- The message and the line of the first `fail`. -/
structure Failure where
  message : String
  line : Nat
  deriving DecidableEq, Repr

structure ParserLimits where
  maxSourceBytes : Nat := 4 * 1024 * 1024
  maxTokenBytes : Nat := 16 * 1024

def letter (c : Char) : Bool := ('a' ≤ c && c ≤ 'z') || ('A' ≤ c && c ≤ 'Z') || c == '_'

def digit (c : Char) : Bool := '0' ≤ c && c ≤ '9'

def isIdentifier (text : String) : Bool :=
  match text.toList with
  | [] => false
  | c :: rest => letter c && rest.all fun c => letter c || digit c

def numeric (c : Char) : Bool :=
  digit c || c == '.' || c == 'e' || c == 'E' || c == '+' || c == '-'

/-- Where the tokenizer stands. Texts are reversed; a quoted text carries whether
the last byte was a backslash. -/
inductive Mode where
  | between
  | comment
  | word (text : List Char)
  | number (text : List Char)
  | quoted (text : List Char) (escaped : Bool)

/-- Append a token, newest first, within the limits. -/
def pushToken (limits : ParserLimits) (tokens : List Token) (text : List Char) (line : Nat)
    (quoted : Bool) : Except Failure (List Token) :=
  if text.length > limits.maxTokenBytes || tokens.length ≥ 100000 then
    .error ⟨"token/work limit exceeded", line⟩
  else .ok (⟨String.ofList text.reverse, line, quoted⟩ :: tokens)

/-- A byte outside any token: the mode it leads to, with its token if it is one
by itself. -/
def startToken (limits : ParserLimits) (tokens : List Token) (line : Nat) (c : Char)
    (next : Option Char) : Except Failure (Mode × List Token) :=
  if c == '\n' || c == ' ' || c == '\t' || c == '\r' then .ok (.between, tokens)
  else if c == '#' || (c == '/' && next == some '/') then .ok (.comment, tokens)
  else if c == '"' then .ok (.quoted [] false, tokens)
  else if letter c then .ok (.word [c], tokens)
  else if digit c || c == '-' then .ok (.number [c], tokens)
  else do
    let tokens ← pushToken limits tokens [c] line false
    .ok (.between, tokens)

/-- The unescaped byte after a backslash. -/
def unescape (c : Char) (line : Nat) : Except Failure Char :=
  if c == 'n' then .ok '\n'
  else if c == 't' then .ok '\t'
  else if c != '"' && c != '\\' then .error ⟨"unsupported string escape", line⟩
  else .ok c

def scan (limits : ParserLimits) (mode : Mode) (line : Nat) (tokens : List Token) :
    List Char → Except Failure (List Token)
  | [] => do
    let tokens ←
      match mode with
      | .between | .comment => Except.ok tokens
      | .word text | .number text => pushToken limits tokens text line false
      | .quoted .. => .error ⟨"unterminated string", line⟩
    .ok (⟨"", line, false⟩ :: tokens).reverse
  | c :: rest =>
    match mode with
    | .comment =>
      if c == '\n' then scan limits .between (line + 1) tokens rest
      else scan limits .comment line tokens rest
    | .quoted text true => do
      let c ← unescape c line
      scan limits (.quoted (c :: text) false) line tokens rest
    | .quoted text false =>
      if c == '"' then do
        let tokens ← pushToken limits tokens text line true
        scan limits .between line tokens rest
      else if c == '\\' && !rest.isEmpty then scan limits (.quoted text true) line tokens rest
      else if c == '\n' || c == '\r' then .error ⟨"unterminated string", line⟩
      else if c == '\x00' then .error ⟨"embedded NUL", line⟩
      else scan limits (.quoted (c :: text) false) line tokens rest
    | .word text =>
      if letter c || digit c then scan limits (.word (c :: text)) line tokens rest
      else do
        let tokens ← pushToken limits tokens text line false
        let (mode, tokens) ← startToken limits tokens line c rest.head?
        scan limits mode (if c == '\n' then line + 1 else line) tokens rest
    | .number text =>
      if numeric c then scan limits (.number (c :: text)) line tokens rest
      else do
        let tokens ← pushToken limits tokens text line false
        let (mode, tokens) ← startToken limits tokens line c rest.head?
        scan limits mode (if c == '\n' then line + 1 else line) tokens rest
    | .between => do
      let (mode, tokens) ← startToken limits tokens line c rest.head?
      scan limits mode (if c == '\n' then line + 1 else line) tokens rest

def tokenize (limits : ParserLimits) (source : List Char) : Except Failure (List Token) :=
  if source.length > limits.maxSourceBytes then .error ⟨"unreadable or oversized source", 1⟩
  else scan limits .between 1 [] source

end ShortHand.Enterprise
