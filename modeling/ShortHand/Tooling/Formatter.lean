import ShortHand.Evidence.Artifacts

/-! The source formatter follows braces and block comments, but not strings, from one line to
the next. -/

namespace ShortHand.Tooling

open ShortHand.Evidence

structure ScanState where
  braceDepth : Nat := 0
  inBlockComment : Bool := false
  deriving DecidableEq

def normalizeNewlines : Bytes → Bytes
  | [] => []
  | 13 :: 10 :: rest => 10 :: normalizeNewlines rest
  | 13 :: rest => 10 :: normalizeNewlines rest
  | byte :: rest => byte :: normalizeNewlines rest

def splitLines (source : Bytes) : List Bytes :=
  if source.isEmpty then [[]] else getlines 10 source

def isHorizontal (byte : Byte) : Bool := byte = 32 || byte = 9

def rtrimHorizontal (line : Bytes) : Bytes := (line.reverse.dropWhile isHorizontal).reverse

def beginsWithClosingBrace (content : Bytes) : Bool := content.head? = some 125

/-- The scan of one line, with the flags of a string that the line has opened. -/
def scanFrom (inString escaped : Bool) (state : ScanState) : Bytes → ScanState
  | [] => state
  | [byte] =>
    if state.inBlockComment || inString || byte = 34 || byte = 35 then state
    else if byte = 123 then { state with braceDepth := state.braceDepth + 1 }
    else if byte = 125 then { state with braceDepth := state.braceDepth - 1 }
    else state
  | byte :: next :: rest =>
    if state.inBlockComment then
      if byte = 42 ∧ next = 47 then scanFrom inString escaped { state with inBlockComment := false } rest
      else scanFrom inString escaped state (next :: rest)
    else if inString then
      if escaped then scanFrom true false state (next :: rest)
      else if byte = 92 then scanFrom true true state (next :: rest)
      else scanFrom (byte ≠ 34) false state (next :: rest)
    else if byte = 34 then scanFrom true escaped state (next :: rest)
    else if byte = 47 ∧ next = 47 then state
    else if byte = 35 then state
    else if byte = 47 ∧ next = 42 then
      scanFrom inString escaped { state with inBlockComment := true } rest
    else if byte = 123 then
      scanFrom inString escaped { state with braceDepth := state.braceDepth + 1 } (next :: rest)
    else if byte = 125 then
      scanFrom inString escaped { state with braceDepth := state.braceDepth - 1 } (next :: rest)
    else scanFrom inString escaped state (next :: rest)

def scanCode (line : Bytes) (state : ScanState) : ScanState := scanFrom false false state line

/-- The depth at which a line is set. -/
def targetDepth (state : ScanState) (content : Bytes) : Nat :=
  if !state.inBlockComment && beginsWithClosingBrace content then state.braceDepth - 1
  else state.braceDepth

def indentation (state : ScanState) (content : Bytes) : Bytes :=
  List.replicate (targetDepth state content * 4) 32

structure Formatting where
  formatted : List Bytes := []
  state : ScanState := {}
  previousBlank : Bool := false

def formatLine (progress : Formatting) (raw : Bytes) : Formatting :=
  let content := (rtrimHorizontal raw).dropWhile isHorizontal
  if content.isEmpty then
    { progress with
      formatted := if !progress.formatted.isEmpty && !progress.previousBlank
        then progress.formatted ++ [[]] else progress.formatted,
      previousBlank := true }
  else
    { formatted := progress.formatted ++ [indentation progress.state content ++ content],
      state := scanCode content progress.state,
      previousBlank := false }

def formatSource (source : Bytes) : Bytes :=
  let progress := (splitLines (normalizeNewlines source)).foldl formatLine {}
  let kept := (progress.formatted.reverse.dropWhile List.isEmpty).reverse
  kept.flatMap (· ++ [10])

end ShortHand.Tooling
