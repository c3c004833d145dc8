import ShortHand.Tooling.Reflow

/-! What the scanner makes of a formatted text: when it has the same tokens. -/

namespace ShortHand.Tooling

open ShortHand.Library ShortHand.Evidence List

def tokenOf (lexeme : Lexeme Byte) : Option Token :=
  match lexeme.rule with
  | .token kind => some ⟨kind, lexeme.text⟩
  | .blank | .lineComment | .blockComment | .fault _ => none

def tokensOf (matched : List (Lexeme Byte)) : List Token := matched.filterMap tokenOf

def Token.opens (token : Token) : Prop :=
  token.kind = .symbol ∧ token.text ∈ [[123], [91], [(40 : Byte)]]

def Token.closes (token : Token) : Prop :=
  token.kind = .symbol ∧ token.text ∈ [[125], [93], [(41 : Byte)]]

instance (token : Token) : Decidable token.opens := inferInstanceAs (Decidable (_ ∧ _))

instance (token : Token) : Decidable token.closes := inferInstanceAs (Decidable (_ ∧ _))

/-- The nesting depth behind a token. -/
def Token.nesting (depth : Nat) (token : Token) : Nat :=
  if token.opens then depth + 1 else if token.closes then depth - 1 else depth

/-- A token is not too long and not nested too deeply. -/
structure Token.Allowed (limits : ParserLimits) (depth : Nat) (token : Token) : Prop where
  sized : token.kind.sized = true → token.text.length ≤ limits.maxTokenBytes
  nested : token.opens → depth < limits.maxNestingDepth

def Fits (limits : ParserLimits) : Nat → List Token → Prop
  | _, [] => True
  | depth, token :: later => token.Allowed limits depth ∧ Fits limits (token.nesting depth) later

section Guards

variable {limits : ParserLimits} {state after : GuardState} {lexeme : Lexeme Byte}

theorem action_token (rule : lexeme.rule = .token kind) :
    action limits state lexeme = .ok after ↔
      (Token.mk kind lexeme.text).Allowed limits state.nestingDepth ∧
      after = { state with
        nestingDepth := (Token.mk kind lexeme.text).nesting state.nestingDepth,
        tokens := state.tokens ++ [⟨kind, lexeme.text⟩] } := by
  have sized : (!kind.sized || decide (lexeme.text.length ≤ limits.maxTokenBytes)) = true ↔
      (kind.sized = true → lexeme.text.length ≤ limits.maxTokenBytes) := by
    cases kind.sized <;> simp
  have nested : (!decide (Token.mk kind lexeme.text).opens ||
      decide (state.nestingDepth < limits.maxNestingDepth)) = true ↔
      ((Token.mk kind lexeme.text).opens → state.nestingDepth < limits.maxNestingDepth) := by
    simp [imp_iff_not_or]
  simp only [action, rule, check_eq_ok, ensure_eq_ok, sized]
  constructor
  · rintro ⟨isSized, isNested, result⟩
    cases result
    exact ⟨⟨isSized, nested.mp isNested⟩, rfl⟩
  · rintro ⟨⟨isSized, isNested⟩, rfl⟩
    exact ⟨isSized, nested.mpr isNested, rfl⟩

/-- A match passes the guards if it is no diagnostic and its token is allowed. -/
theorem note_eq_ok : note limits state lexeme = .ok after ↔
    state.scannerMatches + 1 ≤ limits.maxScannerMatches ∧ lexeme.rule.isFault = false ∧
      (∀ token ∈ tokenOf lexeme, token.Allowed limits state.nestingDepth) ∧
      after = {
        scannerMatches := state.scannerMatches + 1
        nestingDepth := (tokenOf lexeme).elim state.nestingDepth (·.nesting state.nestingDepth)
        tokens := state.tokens ++ (tokenOf lexeme).toList } := by
  simp only [note, check_eq_ok, ensure_eq_ok, decide_eq_true_eq]
  refine and_congr_right fun _ => ?_
  cases rule : lexeme.rule with
  | token kind =>
    have found : tokenOf lexeme = some ⟨kind, lexeme.text⟩ := by rw [tokenOf, rule]
    simp [action_token rule, found, Rule.isFault]
  | fault diagnostic =>
    simp only [action, rule, check_eq_ok, Rule.isFault]
    constructor
    · rintro ⟨_, impossible⟩
      cases impossible
    · rintro ⟨impossible, _⟩
      cases impossible
  | blank | lineComment | blockComment =>
    have none : tokenOf lexeme = none := by rw [tokenOf, rule]
    simp [action, rule, none, Rule.isFault, eq_comm]

/-- The guards let a list of matches through that is short enough, has no diagnostic
and whose tokens fit. -/
theorem foldlM_note {tokens : List Token}
    (counted : state.scannerMatches ≤ limits.maxScannerMatches) :
    (∃ final, matched.foldlM (note limits) state = .ok final ∧ final.tokens = tokens) ↔
      state.scannerMatches + matched.length ≤ limits.maxScannerMatches ∧ Faultless matched ∧
        Fits limits state.nestingDepth (tokensOf matched) ∧
        tokens = state.tokens ++ tokensOf matched := by
  induction matched generalizing state with
  | nil =>
    have none : Faultless ([] : List (Lexeme Byte)) := nofun
    simp only [foldlM_nil, length_nil, Nat.add_zero, counted, none, tokensOf,
      filterMap_nil, Fits, append_nil, true_and]
    constructor
    · rintro ⟨_, same, rfl⟩
      cases same
      rfl
    · rintro rfl
      exact ⟨state, rfl, rfl⟩
  | cons lexeme matched ih =>
    have listed : tokensOf (lexeme :: matched) = (tokenOf lexeme).toList ++ tokensOf matched := by
      rw [tokensOf, filterMap_cons]
      cases tokenOf lexeme <;> rfl
    have fits : Fits limits state.nestingDepth (tokensOf (lexeme :: matched)) ↔
        (∀ token ∈ tokenOf lexeme, token.Allowed limits state.nestingDepth) ∧
          Fits limits ((tokenOf lexeme).elim state.nestingDepth (·.nesting state.nestingDepth))
            (tokensOf matched) := by
      rw [listed]
      cases tokenOf lexeme <;> simp [Fits]
    rw [fits, listed, faultless_cons, length_cons, ← append_assoc]
    simp only [foldlM_cons, bind_eq_ok, note_eq_ok]
    constructor
    · rintro ⟨final, ⟨_, ⟨within, known, allowed, rfl⟩, rest⟩, same⟩
      obtain ⟨long, faultless, fit, result⟩ := (ih within).mp ⟨final, rest, same⟩
      refine ⟨?_, ⟨known, faultless⟩, ⟨allowed, fit⟩, result⟩
      dsimp only at long
      omega
    · rintro ⟨long, ⟨known, faultless⟩, ⟨allowed, fit⟩, result⟩
      have within : state.scannerMatches + 1 ≤ limits.maxScannerMatches := by omega
      obtain ⟨final, rest, same⟩ := (@ih ⟨state.scannerMatches + 1, _, _⟩ within).mpr
        ⟨by dsimp only; omega, faultless, fit, result⟩
      exact ⟨final, ⟨_, ⟨within, known, allowed, rfl⟩, rest⟩, same⟩

theorem tokenise_eq_ok :
    tokenise limits text = .ok tokens ↔
      (lexemes text).length ≤ limits.maxScannerMatches ∧ Faultless (lexemes text) ∧
        Fits limits 0 (tokensOf (lexemes text)) ∧ tokens = tokensOf (lexemes text) := by
  have guarded := @foldlM_note limits {} (lexemes text) tokens (Nat.zero_le _)
  rw [Nat.zero_add, nil_append] at guarded
  rw [← guarded, tokenise, bind_eq_ok]
  refine exists_congr fun final => and_congr_right fun _ => ?_
  constructor
  · intro same
    cases same
    rfl
  · rintro rfl
    rfl

end Guards

def Lexeme.plain (lexeme : Lexeme Marked) : Lexeme Byte := ⟨lexeme.rule, bytes lexeme.text⟩

theorem lexemesFrom_bytes :
    lexemesFrom id skip (bytes text) = (lexemesFrom Prod.fst skip text).map Lexeme.plain := by
  induction text generalizing skip with
  | nil => rw [bytes, map_nil, lexemesFrom, lexemesFrom, map_nil]
  | cons item text ih =>
    cases skip with
    | zero =>
      rw [bytes, map_cons, lexemesFrom, lexemesFrom, map_cons, map_id, ← bytes,
        ih, Lexeme.plain]
      simp only [bytes, map_take, map_cons, id]
    | succ skip =>
      exact ih

theorem lexemes_bytes (text : List Marked) :
    lexemes (bytes text) = (lexemesFrom Prod.fst 0 text).map Lexeme.plain := lexemesFrom_bytes

theorem closed_map : closed (matched.map Lexeme.plain) = (closed matched).map Lexeme.plain := by
  induction matched with
  | nil => rfl
  | cons first later ih =>
    cases later with
    | nil =>
      simp only [map_cons, map_nil, closed, Lexeme.plain]
      split <;> rfl
    | cons second later =>
      rw [map_cons, map_cons, closed, closed, map_cons, ← ih]
      rfl

/-- Closing adds a blank at most. -/
theorem closed_cases (matched : List (Lexeme α)) :
    closed matched = matched ∨ closed matched = matched ++ [⟨.blank, []⟩] := by
  induction matched with
  | nil => exact .inr rfl
  | cons first later ih =>
    cases later with
    | nil =>
      rw [closed]
      split
      · exact .inl rfl
      · exact .inr rfl
    | cons second later =>
      exact ih.imp (congrArg _) (congrArg _)

theorem forall_closed {holds : Lexeme α → Prop}
    (blank : holds ⟨.blank, []⟩) : (∀ lexeme ∈ closed matched, holds lexeme) ↔ ∀ lexeme ∈ matched, holds lexeme := by
  rcases closed_cases matched with same | same
  · rw [same]
  · simp [same, or_imp, forall_and, blank]

theorem tokensOf_closed (matched : List (Lexeme Byte)) : tokensOf (closed matched) = tokensOf matched := by
  rcases closed_cases matched with same | same
  · rw [same]
  · simp [same, tokensOf, tokenOf]

section Related

variable {matched : List (Lexeme Marked)} {set : List (Lexeme Byte)}

theorem faultless_of_related (related : Forall₂ Same matched set) :
    Faultless matched ↔ Faultless set := by
  induction related with
  | nil => exact ⟨nofun,
      nofun⟩
  | cons same _ ih =>
    rw [faultless_cons, faultless_cons, same.rule, ih]

/-- No string has a line gap that is set differently. -/
def StringsKept (matched : List (Lexeme Marked)) : Prop :=
  ∀ lexeme ∈ matched, lexeme.rule = .token .stringLiteral → ∀ item ∈ lexeme.text, item.2 = false

/-- The tokens stay the same exactly if the strings do. -/
theorem tokensOf_eq_iff (related : Forall₂ Same matched set) :
    tokensOf (matched.map Lexeme.plain) = tokensOf set ↔ StringsKept matched := by
  induction related with
  | nil => exact ⟨nofun, fun _ => rfl⟩
  | @cons lexeme setLexeme matched set same _ ih =>
    rw [StringsKept, forall_mem_cons, ← StringsKept, ← ih, map_cons,
      tokensOf, tokensOf, filterMap_cons, filterMap_cons, ← tokensOf, ← tokensOf]
    have rules := same.rule
    cases rule : lexeme.rule with
    | token kind =>
      have first : tokenOf lexeme.plain = some ⟨kind, bytes lexeme.text⟩ := by
        rw [tokenOf, Lexeme.plain, rule]
      have second : tokenOf setLexeme = some ⟨kind, setLexeme.text⟩ := by
        rw [tokenOf, ← rules, rule]
      rw [first, second, cons.injEq, Token.mk.injEq]
      by_cases string : kind = .stringLiteral
      · subst string
        rw [same.string rule]
        simp
      · simp [string, same.text kind rule string]
    | blank | lineComment | blockComment | fault _ =>
      have first : tokenOf lexeme.plain = none := by rw [tokenOf, Lexeme.plain, rule]
      have second : tokenOf setLexeme = none := by rw [tokenOf, ← rules, rule]
      rw [first, second]
      simp

end Related

theorem faultless_closed : Faultless (closed matched) ↔ Faultless matched := forall_closed rfl

theorem stringsKept_closed :
    StringsKept (closed matched) ↔ StringsKept matched := forall_closed nofun

theorem faultless_plain : Faultless (matched.map Lexeme.plain) ↔ Faultless matched := by
  simp [Faultless, Lexeme.plain]

/-- How a text and its reflowed text compare. -/
structure Compared (text : List Marked) (set : Bytes) : Prop where
  lengths : (closed (lexemes (bytes text))).length = (lexemes set).length
  faults : Faultless (lexemes (bytes text)) ↔ Faultless (lexemes set)
  tokens : tokensOf (lexemes (bytes text)) = tokensOf (lexemes set) ↔
    StringsKept (lexemesFrom Prod.fst 0 text)

theorem Reflow.compared {set : Bytes} (reflow : Reflow text set)
    (returnless : 13 ∉ bytes text)
    (known : Faultless (lexemes (bytes text)) ∨ Faultless (lexemes set)) : Compared text set := by
  rw [lexemes_bytes, faultless_plain] at known
  have related := reflow.lexemes_related ⟨returnless, known⟩
  refine ⟨?_, ?_, ?_⟩
  · rw [lexemes_bytes, closed_map, length_map]
    exact related.length_eq
  · rw [lexemes_bytes, faultless_plain, ← faultless_closed]
    exact faultless_of_related related
  · rw [← stringsKept_closed, ← tokensOf_eq_iff related, ← closed_map, tokensOf_closed, lexemes_bytes]

/-- The lines and gaps of a text, each gap with whether it is set differently. -/
def markedPieces (parts : List Piece) : List Marked :=
  parts.flatMap fun piece =>
    piece.content.map (·, false) ++ piece.gap.map (·, decide (piece.gap ≠ piece.replacement))

/-- A text from its first visible byte on, marked where the formatter changes it. -/
def marked (text : Bytes) : List Marked := markedPieces (layout {} (pieces text).2)

theorem bytes_markedPieces : bytes (markedPieces (layout state parts)) = pieceText parts := by
  have piece : ∀ content gap replacement (later : List Piece),
      bytes (markedPieces (⟨content, gap, replacement⟩ :: later)) =
        content ++ gap ++ bytes (markedPieces later) := by
    simp [bytes, markedPieces, Function.comp_def]
  induction parts generalizing state with
  | nil => rfl
  | cons part parts ih =>
    cases parts with
    | nil =>
      rw [layout, piece]
      rfl
    | cons next parts =>
      rw [layout, piece, ih]
      rfl

theorem pieceText_visible (pieced : Pieced parts) (some : parts ≠ []) :
    ∃ byte rest, pieceText parts = byte :: rest ∧ isBlank byte = false := by
  obtain ⟨part, parts, rfl⟩ := exists_cons_of_ne_nil some
  have line : IsContent part.1 := by
    cases pieced with
    | last line => exact line
    | cons line => exact line
  obtain ⟨byte, others, filled⟩ := exists_cons_of_ne_nil line.filled
  refine ⟨byte, others ++ part.2 ++ pieceText parts, ?_, line.visible byte (by rw [filled]; rfl)⟩
  rw [pieceText, flatMap_cons, filled]
  rfl

theorem reflow_content {content : Bytes} {set : Bytes}
    (whole : ∀ byte ∈ content, isBreak byte = false) (later : Reflow rest set) :
    Reflow (content.map (·, false) ++ rest) (content ++ set) := by
  induction content with
  | nil => exact later
  | cons byte content ih =>
    obtain ⟨first, others⟩ := forall_mem_cons.mp whole
    exact .byte first (ih others)

/-- The formatter reflows the lines. -/
theorem reflow_layout {parts : List (Bytes × Bytes)} (pieced : Pieced parts) (some : parts ≠ []) :
    Reflow (markedPieces (layout state parts)) (formattedText (layout state parts)) := by
  induction pieced generalizing state with
  | nil => cases some rfl
  | @last content gap line blank =>
    simp only [layout, markedPieces, formattedText, flatMap_cons, flatMap_nil,
      append_nil]
    refine reflow_content line.whole ?_
    cases gap with
    | nil => exact .missing
    | cons byte gap =>
      refine .ending (cons_ne_nil _ _) fun item member => ?_
      obtain ⟨other, listed, rfl⟩ := mem_map.mp member
      exact blank other listed
  | @cons content gap next later line blank breaks rest ih =>
    have further := @ih (scanCode content state) (cons_ne_nil _ _)
    have starts : ∃ item others, markedPieces (layout (scanCode content state) (next :: later)) =
        item :: others ∧ isBlank item.1 = false := by
      obtain ⟨byte, others, same, visible⟩ := pieceText_visible rest (cons_ne_nil _ _)
      rw [← @bytes_markedPieces (scanCode content state)] at same
      obtain ⟨item, others, isItem, rfl, _⟩ := map_eq_cons_iff.mp same
      exact ⟨item, others, isItem, visible⟩
    rw [layout, markedPieces, formattedText, flatMap_cons, flatMap_cons, ← markedPieces,
      ← formattedText, append_assoc, append_assoc]
    refine reflow_content line.whole (.gap blank breaks ?_ ?_ ?_ further)
    · intro byte member
      rcases mem_append.mp member with empty | margin
      · split at empty
        · cases mem_singleton.mp empty
          rfl
        · cases empty
      · cases eq_of_mem_replicate margin
        rfl
    · obtain ⟨item, others, same, visible⟩ := starts
      rw [same]
      intro other head
      cases head
      exact visible
    · obtain ⟨item, others, same, _⟩ := starts
      rw [same]
      exact cons_ne_nil _ _

/-- The scanner skips what is in front of the first visible byte. -/
theorem lexemes_pieces (text : Bytes) :
    tokensOf (lexemes text) = tokensOf (lexemes (bytes (marked text))) ∧
      (Faultless (lexemes text) ↔ Faultless (lexemes (bytes (marked text)))) := by
  have whole := pieces_text text
  obtain ⟨blank, pieced⟩ := pieces_pieced text
  rw [marked, bytes_markedPieces]
  by_cases none : (pieces text).1 = []
  · rw [none, nil_append] at whole
    rw [whole]
    exact ⟨rfl, Iff.rfl⟩
  · have visible : ∀ byte ∈ (pieceText (pieces text).2).head?, isBlank byte = false := by
      intro byte head
      by_cases finished : (pieces text).2 = []
      · rw [finished] at head
        cases head
      obtain ⟨first, rest, same, visible⟩ := pieceText_visible pieced finished
      rw [same] at head
      cases head
      exact visible
    have split := lexemes_run none blank visible
    rw [whole] at split
    rw [split, faultless_cons]
    exact ⟨rfl, and_iff_right rfl⟩

theorem normalizeNewlines_returnless (text : Bytes) : 13 ∉ normalizeNewlines text := by
  induction text using normalizeNewlines.induct with
  | case1 => exact not_mem_nil
  | case2 rest ih =>
    rw [normalizeNewlines, mem_cons]
    exact fun member => member.elim (by decide) ih
  | case3 rest alone ih =>
    rw [normalizeNewlines_return fun head => alone _ (head?_eq_some_iff.mp head).choose_spec,
      mem_cons]
    exact fun member => member.elim (by decide) ih
  | case4 byte rest _ other ih =>
    rw [normalizeNewlines_cons other, mem_cons]
    exact fun member => member.elim (fun same => other same.symm) ih

theorem normalizeNewlines_of_returnless (returnless : 13 ∉ text) :
    normalizeNewlines text = text := by
  induction text with
  | nil => rfl
  | cons byte text ih =>
    obtain ⟨first, later⟩ := not_or.mp (mem_cons.not.mp returnless)
    rw [normalizeNewlines_cons (Ne.symm first), ih later]

theorem formatSource_normalizeNewlines (source : Bytes) :
    formatSource (normalizeNewlines source) = formatSource source := by
  rw [formatSource, normalizeNewlines_of_returnless (normalizeNewlines_returnless source)]
  rfl

/-- A carriage return is read like a line end: there is none in a string, and what is
behind one in a line comment is of no meaning as code. -/
structure KeepsReturns (source : Bytes) : Prop where
  faultless : Faultless (lexemes (normalizeNewlines source))
  tokens : tokensOf (lexemes (normalizeNewlines source)) = tokensOf (lexemes source)

/-- No string has a line gap that the formatter sets differently. -/
def KeepsStrings (source : Bytes) : Prop :=
  StringsKept (lexemesFrom Prod.fst 0 (marked (normalizeNewlines source)))

/-- The matches from the first visible byte on, and the final line end, are not too many. -/
def WithinBudget (limits : ParserLimits) (source : Bytes) : Prop :=
  marked (normalizeNewlines source) = [] ∨
    (closed (lexemes (bytes (marked (normalizeNewlines source))))).length ≤ limits.maxScannerMatches

/-- A literal over two lines, of which the first ends in blanks. -/
def twoLineString : Bytes := ascii "x = \"a  \nb\";"

/-- A block with a comment and uneven line ends. -/
def unevenBlock : Bytes := ascii "\nwhile a \x7b// b\r\n  x = \"c  d\"; \r  \x7d"

end ShortHand.Tooling
