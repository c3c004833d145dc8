import Mathlib.Data.List.DropRight
import ShortHand.Tooling.Preservation

/-! The formatter and the linter follow the lines with the same scan; each is compared with one
description of neat lines. -/

namespace ShortHand.Tooling

open ShortHand.Evidence List

structure LintDiagnostic where
  code : String
  message : String
  line : Nat
  column : Nat
  fixable : Bool := true
  deriving DecidableEq

structure Linting where
  diagnostics : List LintDiagnostic := []
  state : ScanState := {}
  previousBlank : Bool := false
  lineNumber : Nat := 1

/-- A diagnostic if there is something to report. -/
def reportIf (found : Bool) (code message : String) (line column : Nat) : List LintDiagnostic :=
  if found then [⟨code, message, line, column, true⟩] else []

def lintLine (progress : Linting) (line : Bytes) : Linting :=
  let indented := line.takeWhile isHorizontal
  let trimmedRight := rtrimHorizontal line
  let content := trimmedRight.drop (min indented.length trimmedRight.length)
  let number := progress.lineNumber
  let found := progress.diagnostics ++
    reportIf (line.length != trimmedRight.length) "SHL002" "trailing whitespace" number
      (trimmedRight.length + 1) ++
    reportIf (indented.contains 9) "SHL001" "tab used for indentation; use four spaces per level"
      number 1
  if content.isEmpty then
    { progress with
      diagnostics := found ++ reportIf progress.previousBlank "SHL005"
        "more than one consecutive blank line" number 1,
      previousBlank := true, lineNumber := number + 1 }
  else
    { diagnostics := found ++ reportIf (indented != indentation progress.state content) "SHL003"
        "non-canonical indentation" number 1,
      state := scanCode content progress.state, previousBlank := false, lineNumber := number + 1 }

def lintSource (source : Bytes) : List LintDiagnostic :=
  let lines := splitLines (normalizeNewlines source)
  let progress := lines.foldl lintLine {}
  reportIf (source.contains 13) "SHL006" "non-LF line ending"
      ((source.takeWhile (· != 13)).count 10 + 1) 1 ++
    progress.diagnostics ++
    reportIf progress.previousBlank "SHL005" "trailing blank line is not canonical" lines.length 1 ++
    reportIf (source.getLast? != some 10) "SHL004" "source must end with exactly one newline"
      lines.length ((lines.getLast?.getD []).length + 1)

/-- What a line holds within its margins. -/
structure Trimmed (content : Bytes) : Prop where
  filled : content ≠ []
  opens : content.dropWhile isHorizontal = content
  closes : rtrimHorizontal content = content
  unbroken : ∀ byte ∈ content, isBreak byte = false

/-- Lines as they should be set from a scan state on, behind a blank line or not: no blank
line follows another one, and none is the last. -/
inductive Neat : ScanState → Bool → List Bytes → Prop where
  | ended {state : ScanState} : Neat state false []
  | blank {state : ScanState} {later : List Bytes} (rest : Neat state true later) :
    Neat state false ([] :: later)
  | line {state : ScanState} {afterBlank : Bool} {content : Bytes} {later : List Bytes}
      (trimmed : Trimmed content) (rest : Neat (scanCode content state) false later) :
    Neat state afterBlank ((indentation state content ++ content) :: later)

def textOf (lines : List Bytes) : Bytes := lines.flatMap (· ++ [10])

/-- A text that begins with a visible line and is set throughout. -/
def Canonical (text : Bytes) : Prop := ∃ lines, Neat {} true lines ∧ text = textOf lines

section Margins

variable {content margin : Bytes} (trimmed : Trimmed content)
  (blank : ∀ byte ∈ margin, isHorizontal byte = true)

include trimmed

theorem Trimmed.rtrim_append : rtrimHorizontal (margin ++ content) = margin ++ content := by
  refine rdropWhile_eq_self_iff.mpr fun _ => ?_
  rw [getLast_append_of_ne_nil _ trimmed.filled]
  exact rdropWhile_eq_self_iff.mp trimmed.closes trimmed.filled

include blank

theorem Trimmed.dropWhile_append : (margin ++ content).dropWhile isHorizontal = content := by
  rw [dropWhile_append_of_pos blank, trimmed.opens]

theorem Trimmed.takeWhile_append : (margin ++ content).takeWhile isHorizontal = margin := by
  have whole := takeWhile_append_dropWhile (p := isHorizontal) (l := margin ++ content)
  rw [trimmed.dropWhile_append blank] at whole
  exact append_cancel_right whole

end Margins

theorem indentation_blank (state : ScanState) (content : Bytes) :
    ∀ byte ∈ indentation state content, isHorizontal byte = true := by
  intro byte member
  rw [eq_of_mem_replicate member]
  rfl

theorem Neat.unbroken (neat : Neat state afterBlank lines) :
    ∀ line ∈ lines, ∀ byte ∈ line, isBreak byte = false := by
  induction neat with
  | ended => nofun
  | blank _ ih => exact forall_mem_cons.mpr ⟨nofun, ih⟩
  | line trimmed _ ih =>
    refine forall_mem_cons.mpr ⟨forall_mem_append.mpr ⟨?_, trimmed.unbroken⟩, ih⟩
    intro byte member
    rw [eq_of_mem_replicate member]
    rfl

/-- What is left of a right-trimmed line between its margins. -/
theorem trimmed_content (closes : rtrimHorizontal line = line)
    (unbroken : ∀ byte ∈ line, isBreak byte = false)
    (filled : line.dropWhile isHorizontal ≠ []) : Trimmed (line.dropWhile isHorizontal) where
  filled := filled
  opens := dropWhile_idempotent isHorizontal line
  closes := by
    refine rdropWhile_eq_self_iff.mpr fun _ => ?_
    rw [(dropWhile_suffix isHorizontal).getLast filled]
    exact rdropWhile_eq_self_iff.mp closes _
  unbroken byte member := unbroken byte ((dropWhile_suffix isHorizontal).mem member)

theorem segments_textOf (unbroken : ∀ line ∈ lines, ∀ byte ∈ line, isBreak byte = false) :
    segments 10 (textOf lines) = lines ++ [[]] := by
  induction lines with
  | nil => rfl
  | cons line later ih =>
    rw [forall_mem_cons] at unbroken
    have undelimited : 10 ∉ line := fun member => absurd (unbroken.1 10 member) (by decide)
    have whole : textOf (line :: later) = line ++ 10 :: textOf later := by simp [textOf]
    rw [whole, segments_append undelimited, ih unbroken.2, cons_append]

theorem textOf_returnless (unbroken : ∀ line ∈ lines, ∀ byte ∈ line, isBreak byte = false) :
    13 ∉ textOf lines := by
  intro member
  obtain ⟨line, listed, inside⟩ := mem_flatMap.mp member
  rcases mem_append.mp inside with inside | ending
  · exact absurd (unbroken line listed 13 inside) (by decide)
  · exact absurd (mem_singleton.mp ending) (by decide)

/-- Every text is its finished lines and what follows the last line end. -/
theorem exists_segments (returnless : 13 ∉ text) :
    ∃ lines last, segments 10 text = lines ++ [last] ∧ text = textOf lines ++ last ∧
      ∀ line ∈ lines ++ [last], ∀ byte ∈ line, isBreak byte = false := by
  induction text with
  | nil => exact ⟨[], [], rfl, rfl, by simp⟩
  | cons byte rest ih =>
    obtain ⟨first, later⟩ := not_or.mp (mem_cons.not.mp returnless)
    obtain ⟨lines, last, cut, whole, unbroken⟩ := ih later
    by_cases newline : byte = 10
    · refine ⟨[] :: lines, last, ?_, ?_, forall_mem_cons.mpr ⟨nofun, unbroken⟩⟩
      · rw [segments, if_pos newline, cut, cons_append]
      · rw [whole, newline]
        rfl
    · have visible : isBreak byte = false := by simp [isBreak, newline, Ne.symm first]
      rw [segments_cons newline, cut, whole]
      cases lines with
      | nil =>
        obtain ⟨inside, _⟩ := forall_mem_cons.mp unbroken
        exact ⟨[], byte :: last, rfl, rfl, by simpa using ⟨visible, inside⟩⟩
      | cons line others =>
        obtain ⟨inside, behind⟩ := forall_mem_cons.mp unbroken
        exact ⟨(byte :: line) :: others, last, rfl, rfl,
          forall_mem_cons.mpr ⟨forall_mem_cons.mpr ⟨visible, inside⟩, behind⟩⟩

theorem formatSource_setLines (source : Bytes) : formatSource source =
    textOf (setLines false {} false ((segments 10 (normalizeNewlines source)).map rtrimHorizontal)) := by
  have lines := @keptLines_foldl [] (segments 10 (normalizeNewlines source)) {} nofun rfl
  have start : formatSource source =
      textOf (keptLines ((splitLines (normalizeNewlines source)).foldl formatLine {})) := rfl
  rw [start, keptLines_segments, lines]
  rfl

/-- What the formatter adds is neat, whatever lines it is given. -/
theorem setLines_neat (owes : pending = true → started = true)
    (lined : ∀ line ∈ lines, rtrimHorizontal line = line ∧ ∀ byte ∈ line, isBreak byte = false) :
    setLines started state pending lines = [] ∨
      Neat state (!started) (setLines started state pending lines) := by
  induction lines generalizing started state pending with
  | nil => exact .inl rfl
  | cons line later ih =>
    rw [forall_mem_cons] at lined
    rw [setLines]
    split
    · exact ih id lined.2
    rename_i filled
    have trimmed := trimmed_content lined.1.1 lined.1.2 fun empty => filled (isEmpty_iff.mpr empty)
    have rest : Neat (scanCode (line.dropWhile isHorizontal) state) false
        (setLines true (scanCode (line.dropWhile isHorizontal) state) false later) := by
      rcases @ih false true _ (fun _ => rfl) lined.2 with ended | neat
      · rw [ended]
        exact .ended
      · exact neat
    right
    cases pending with
    | false => exact .line trimmed rest
    | true =>
      rw [owes rfl]
      exact .blank (.line trimmed rest)

/-- Neat lines are set as they are. -/
theorem Neat.setLines_eq (neat : Neat state afterBlank lines) :
    setLines true state afterBlank (lines ++ [[]]) = (if afterBlank then [[]] else []) ++ lines := by
  induction neat with
  | ended => rfl
  | blank _ ih => simpa [setLines] using ih
  | @line state afterBlank content later trimmed _ ih =>
    have filled : content.isEmpty = false := isEmpty_eq_false_iff.mpr trimmed.filled
    simp only [cons_append, setLines, trimmed.dropWhile_append (indentation_blank state content), filled, ih]
    simp

theorem Neat.rtrim_eq (neat : Neat state afterBlank lines) : lines.map rtrimHorizontal = lines := by
  induction neat with
  | ended => rfl
  | blank _ ih => rw [map_cons, ih]; rfl
  | line trimmed _ ih => rw [map_cons, ih, trimmed.rtrim_append]

theorem Neat.formatted (neat : Neat {} true lines) :
    formatSource (textOf lines) = textOf lines := by
  have unbroken := neat.unbroken
  rw [formatSource_setLines, normalizeNewlines_of_returnless (textOf_returnless unbroken),
    segments_textOf unbroken, map_append, neat.rtrim_eq]
  cases neat with
  | @line _ _ content later trimmed rest =>
    have filled : content.isEmpty = false := isEmpty_eq_false_iff.mpr trimmed.filled
    have behind := rest.setLines_eq
    have trailing : [[]].map rtrimHorizontal = [[]] := rfl
    simp [trailing, setLines, trimmed.dropWhile_append (indentation_blank _ _), filled, behind]

/-- The formatter's result is canonical, unless nothing is visible. -/
theorem formatSource_canonical (source : Bytes) :
    formatSource source = [] ∨ Canonical (formatSource source) := by
  obtain ⟨lines, last, cut, _, unbroken⟩ := exists_segments (normalizeNewlines_returnless source)
  rw [← cut] at unbroken
  have neat := @setLines_neat false false
    ((segments 10 (normalizeNewlines source)).map rtrimHorizontal) {} nofun (by
      intro line member
      obtain ⟨raw, listed, rfl⟩ := mem_map.mp member
      exact ⟨rdropWhile_idempotent isHorizontal raw, fun byte inside =>
        unbroken raw listed byte ((List.rdropWhile_prefix _ _).mem inside)⟩)
  rw [formatSource_setLines]
  rcases neat with ended | neat
  · rw [ended]
    exact .inl rfl
  · exact .inr ⟨_, neat, rfl⟩

theorem formatSource_eq_self_iff : formatSource source = source ↔ source = [] ∨ Canonical source := by
  constructor
  · intro same
    rw [← same]
    exact formatSource_canonical source
  · rintro (rfl | ⟨lines, neat, rfl⟩)
    · rfl
    · exact neat.formatted

/-- Formatting a formatted text changes nothing. -/
theorem formatSource_idempotent (source : Bytes) :
    formatSource (formatSource source) = formatSource source :=
  formatSource_eq_self_iff.mpr (formatSource_canonical source)

theorem reportIf_eq_nil {message : String} : reportIf found code message line column = [] ↔ found = false := by
  cases found <;> simp [reportIf]

theorem lintLine_nil (progress : Linting) : lintLine progress [] = { progress with
    diagnostics := progress.diagnostics ++ reportIf progress.previousBlank "SHL005"
      "more than one consecutive blank line" progress.lineNumber 1,
    previousBlank := true, lineNumber := progress.lineNumber + 1 } := by
  simp [lintLine, rtrimHorizontal, reportIf]

/-- A line whose right margin is empty is reported for its left margin only. -/
theorem lintLine_append {margin : Bytes} (trimmed : Trimmed content)
    (blank : ∀ byte ∈ margin, isHorizontal byte = true) (progress : Linting) :
    (lintLine progress (margin ++ content)).state = scanCode content progress.state ∧
      (lintLine progress (margin ++ content)).previousBlank = false ∧
      ((lintLine progress (margin ++ content)).diagnostics = [] ↔
        progress.diagnostics = [] ∧ margin = indentation progress.state content) := by
  have filled : content.isEmpty = false := isEmpty_eq_false_iff.mpr trimmed.filled
  have tabless : 9 ∉ indentation progress.state content := fun member =>
    absurd (eq_of_mem_replicate member) (by decide)
  simp only [lintLine, trimmed.takeWhile_append blank, trimmed.rtrim_append, length_append,
    Nat.min_eq_left (Nat.le_add_right _ _), drop_left, filled]
  refine ⟨rfl, rfl, ?_⟩
  simp only [append_eq_nil_iff, reportIf_eq_nil, bne_self_eq_false, Bool.false_eq_true, if_false,
    bne_eq_false_iff_eq, and_assoc, true_and]
  refine and_congr_right' (and_iff_right_of_imp ?_)
  rintro rfl
  simpa using tabless

theorem lintLine_open (trailing : rtrimHorizontal line ≠ line) (progress : Linting) :
    (lintLine progress line).diagnostics ≠ [] := by
  have shorter : (line.length != (rtrimHorizontal line).length) = true := by
    refine bne_iff_ne.mpr fun same => trailing ?_
    exact (List.rdropWhile_prefix isHorizontal line).eq_of_length same.symm
  rw [lintLine]
  split <;> simp [shorter, reportIf]

theorem neat_nil_iff : Neat state afterBlank [] ↔ afterBlank = false :=
  ⟨fun neat => by cases neat; rfl, fun visible => visible ▸ .ended⟩

theorem neat_blank_iff :
    Neat state afterBlank ([] :: later) ↔ afterBlank = false ∧ Neat state true later := by
  constructor
  · intro neat
    generalize same : [] :: later = lines at neat
    cases neat with
    | ended => cases same
    | blank rest =>
      cases same
      exact ⟨rfl, rest⟩
    | line trimmed _ =>
      have empty := append_eq_nil_iff.mp (cons.inj same).1.symm
      exact absurd empty.2 trimmed.filled
  · rintro ⟨rfl, rest⟩
    exact .blank rest

theorem neat_line_iff {margin : Bytes} (trimmed : Trimmed content)
    (blank : ∀ byte ∈ margin, isHorizontal byte = true) :
    Neat state afterBlank ((margin ++ content) :: later) ↔
      margin = indentation state content ∧ Neat (scanCode content state) false later := by
  constructor
  · intro neat
    generalize same : (margin ++ content) :: later = lines at neat
    cases neat with
    | ended => cases same
    | blank _ => exact absurd (append_eq_nil_iff.mp (cons.inj same).1).2 trimmed.filled
    | line other rest =>
      obtain ⟨whole, rfl⟩ := cons.inj same
      have dropped := congrArg (dropWhile isHorizontal) whole
      rw [trimmed.dropWhile_append blank, other.dropWhile_append (indentation_blank _ _)] at dropped
      subst dropped
      exact ⟨append_cancel_right whole, rest⟩
  · rintro ⟨rfl, rest⟩
    exact .line trimmed rest

/-- The linter is silent about lines, and the last of them is not blank, exactly if they are
neat. -/
theorem foldl_lintLine (unbroken : ∀ line ∈ lines, ∀ byte ∈ line, isBreak byte = false) :
    ((lines.foldl lintLine progress).diagnostics = [] ∧
        (lines.foldl lintLine progress).previousBlank = false) ↔
      progress.diagnostics = [] ∧ Neat progress.state progress.previousBlank lines := by
  induction lines generalizing progress with
  | nil => rw [foldl_nil, neat_nil_iff]
  | cons line later ih =>
    rw [forall_mem_cons] at unbroken
    rw [foldl_cons, ih unbroken.2]
    by_cases closes : rtrimHorizontal line = line
    · by_cases filled : line.dropWhile isHorizontal = []
      · have empty : line = [] := by
          rw [← closes]
          exact rdropWhile_eq_nil_iff.mpr (dropWhile_eq_nil_iff.mp filled)
        subst empty
        rw [lintLine_nil, neat_blank_iff, append_eq_nil_iff, reportIf_eq_nil, and_assoc]
      · have trimmed := trimmed_content closes unbroken.1 filled
        have blank : ∀ byte ∈ line.takeWhile isHorizontal, isHorizontal byte = true :=
          fun _ => mem_takeWhile_imp
        rw [← takeWhile_append_dropWhile (p := isHorizontal) (l := line), neat_line_iff trimmed blank]
        obtain ⟨scanned, visible, silent⟩ := lintLine_append trimmed blank progress
        rw [scanned, visible, silent, and_assoc]
    · refine iff_of_false (fun silent => lintLine_open closes progress silent.1) ?_
      rintro ⟨_, neat⟩
      exact closes (cons.inj neat.rtrim_eq).1

theorem splitLines_textOf (filled : lines ≠ [])
    (unbroken : ∀ line ∈ lines, ∀ byte ∈ line, isBreak byte = false) :
    splitLines (textOf lines) = lines := by
  obtain ⟨line, later, rfl⟩ := exists_cons_of_ne_nil filled
  have visible : (textOf (line :: later)).isEmpty = false := by simp [textOf]
  rw [splitLines, visible, getlines, segments_textOf unbroken, if_pos getLast?_concat,
    dropLast_concat]
  rfl

theorem getLast?_textOf (filled : lines ≠ []) : (textOf lines).getLast? = some 10 := by
  rw [← dropLast_append_getLast filled, textOf, flatMap_append, flatMap_singleton, ← append_assoc,
    getLast?_append]
  rfl

/-- The linter is silent about neat lines that may have one blank line in front. -/
theorem lintSource_eq_nil_iff : lintSource source = [] ↔
    ∃ lines, lines ≠ [] ∧ Neat {} false lines ∧ source = textOf lines := by
  simp only [lintSource, append_eq_nil_iff, reportIf_eq_nil, bne_eq_false_iff_eq, and_assoc]
  constructor
  · rintro ⟨returnless, silent, visible, ended⟩
    have returnless : 13 ∉ source := by simpa using returnless
    obtain ⟨lines, last, _, whole, unbroken⟩ := exists_segments returnless
    have finished : last = [] := by
      by_contra begun
      rw [whole, getLast?_append_of_ne_nil _ begun] at ended
      exact absurd (unbroken last (mem_append_right _ mem_cons_self) 10 (mem_of_getLast? ended))
        (by decide)
    subst finished
    rw [append_nil] at whole
    subst whole
    have filled : lines ≠ [] := by
      rintro rfl
      cases ended
    have unbroken := fun line member => unbroken line (mem_append_left [[]] member)
    rw [normalizeNewlines_of_returnless returnless, splitLines_textOf filled unbroken] at silent visible
    exact ⟨lines, filled, ((foldl_lintLine unbroken).mp ⟨silent, visible⟩).2, rfl⟩
  · rintro ⟨lines, filled, neat, rfl⟩
    have unbroken := neat.unbroken
    have returnless := textOf_returnless unbroken
    rw [normalizeNewlines_of_returnless returnless, splitLines_textOf filled unbroken]
    obtain ⟨silent, visible⟩ := (@foldl_lintLine lines {} unbroken).mpr ⟨rfl, neat⟩
    exact ⟨by simpa using returnless, silent, visible, getLast?_textOf filled⟩

/-- A canonical text begins with a visible byte. -/
theorem Canonical.visible (canonical : Canonical source) : ∃ byte rest,
    source = byte :: rest ∧ byte ≠ 10 := by
  obtain ⟨lines, neat, rfl⟩ := canonical
  cases neat with
  | @line _ _ content later trimmed _ =>
    obtain ⟨byte, rest, rfl⟩ := exists_cons_of_ne_nil trimmed.filled
    have flush : indentation {} (byte :: rest) = [] := by simp [indentation, targetDepth]
    rw [flush, nil_append]
    refine ⟨byte, rest ++ 10 :: textOf later, by simp [textOf], ?_⟩
    rintro rfl
    exact absurd (trimmed.unbroken 10 mem_cons_self) (by decide)

/-- The linter is silent exactly about the texts that formatting keeps, apart from the empty
text, which is reported, and a blank line in front of a canonical text, which is not. -/
theorem lintSource_agrees_iff (source : Bytes) :
    (lintSource source = [] ↔ formatSource source = source) ↔
      source ≠ [] ∧ ∀ rest, source = 10 :: rest → ¬ Canonical rest := by
  have silent : lintSource source = [] ↔
      Canonical source ∨ ∃ rest, source = 10 :: rest ∧ Canonical rest := by
    rw [lintSource_eq_nil_iff]
    constructor
    · rintro ⟨lines, filled, neat, rfl⟩
      cases neat with
      | ended => exact absurd rfl filled
      | blank rest => exact .inr ⟨_, rfl, _, rest, rfl⟩
      | line trimmed rest => exact .inl ⟨_, .line trimmed rest, rfl⟩
    · rintro (⟨lines, neat, rfl⟩ | ⟨_, rfl, lines, neat, rfl⟩)
      · cases neat with
        | line trimmed rest => exact ⟨_, cons_ne_nil _ _, .line trimmed rest, rfl⟩
      · exact ⟨[] :: lines, cons_ne_nil _ _, .blank neat, rfl⟩
  rw [silent, formatSource_eq_self_iff]
  constructor
  · intro agrees
    refine ⟨fun empty => ?_, fun rest leading canonical => ?_⟩
    · rcases agrees.mpr (.inl empty) with canonical | ⟨rest, leading, _⟩
      · obtain ⟨byte, rest, same, _⟩ := canonical.visible
        cases empty.symm.trans same
      · cases empty.symm.trans leading
    · rcases agrees.mp (.inr ⟨rest, leading, canonical⟩) with empty | canonical
      · cases empty.symm.trans leading
      · obtain ⟨byte, rest, same, visible⟩ := canonical.visible
        exact visible (cons.inj (same.symm.trans leading)).1
  · rintro ⟨filled, bare⟩
    refine ⟨fun either => ?_, fun either => .inl (either.resolve_left filled)⟩
    rcases either with canonical | ⟨rest, leading, canonical⟩
    · exact .inr canonical
    · exact absurd canonical (bare rest leading)

/-- A blank line in front of `x` is not reported, and formatting removes it. -/
theorem lint_misses_leading_blank :
    lintSource [10, 120, 10] = [] ∧ formatSource [10, 120, 10] = [120, 10] := by
  decide +kernel

/-- A formatted text is not reported, unless nothing is left of it. -/
theorem lintSource_formatSource (source : Bytes) :
    lintSource (formatSource source) = [] ↔ formatSource source ≠ [] := by
  rcases formatSource_canonical source with empty | ⟨lines, neat, same⟩
  · rw [empty]
    decide
  · rw [same]
    cases neat with
    | line trimmed rest =>
      refine iff_of_true (lintSource_eq_nil_iff.mpr ⟨_, ?_, .line trimmed rest, rfl⟩) ?_ <;>
        simp [textOf]

end ShortHand.Tooling
