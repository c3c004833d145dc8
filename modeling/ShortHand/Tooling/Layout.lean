import Mathlib.Data.List.TakeWhile
import ShortHand.Tooling.Formatter
import ShortHand.Tooling.Scanner

/-! The formatter as a change of the gaps between the contents of lines. -/

namespace ShortHand.Tooling

open ShortHand.Evidence List

def isBreak (byte : Byte) : Bool := byte = 10 || byte = 13

theorem isBlank_eq : ∀ byte : Byte, isBlank byte = (isHorizontal byte || isBreak byte) := by
  decide +kernel

/-- The contents of the lines, each with the gap behind it, after the gap in front. -/
def pieces : Bytes → Bytes × List (Bytes × Bytes)
  | [] => ([], [])
  | byte :: rest =>
    let (gap, later) := pieces rest
    if isBlank byte then (byte :: gap, later)
    else
      match later with
      | [] => ([], [([byte], gap)])
      | (content, next) :: others =>
        if gap.any isBreak then ([], ([byte], gap) :: (content, next) :: others)
        else ([], (byte :: (gap ++ content), next) :: others)

/-- A line: it begins visibly and does not break. -/
structure IsContent (content : Bytes) : Prop where
  visible : ∀ byte ∈ content.head?, isBlank byte = false
  filled : content ≠ []
  whole : ∀ byte ∈ content, isBreak byte = false

/-- Lines with blank gaps, which break the line in front of another one. -/
inductive Pieced : List (Bytes × Bytes) → Prop where
  | nil : Pieced []
  | last {content gap : Bytes} (line : IsContent content) (blank : ∀ byte ∈ gap, isBlank byte = true) :
    Pieced [(content, gap)]
  | cons {content gap : Bytes} {next : Bytes × Bytes} {later : List (Bytes × Bytes)}
      (line : IsContent content) (blank : ∀ byte ∈ gap, isBlank byte = true)
      (breaks : gap.any isBreak = true) (rest : Pieced (next :: later)) :
    Pieced ((content, gap) :: next :: later)

/-- What the texts are put together from. -/
def pieceText (parts : List (Bytes × Bytes)) : Bytes := parts.flatMap fun part => part.1 ++ part.2

theorem pieces_text (text : Bytes) : (pieces text).1 ++ pieceText (pieces text).2 = text := by
  induction text with
  | nil => rfl
  | cons byte rest ih =>
    rw [pieces]
    split
    rename_i gap later found
    rw [found] at ih
    split
    · rw [cons_append, ih]
    split
    · simp only [pieceText, flatMap_nil, append_nil] at ih
      simp [pieceText, ih]
    · simp only [pieceText, flatMap_cons] at ih
      split <;> simp [pieceText, ← ih]

theorem pieces_pieced (text : Bytes) :
    (∀ byte ∈ (pieces text).1, isBlank byte = true) ∧ Pieced (pieces text).2 := by
  induction text with
  | nil => exact ⟨nofun, .nil⟩
  | cons byte rest ih =>
    rw [pieces]
    split
    rename_i gap later found
    rw [found] at ih
    obtain ⟨blank, pieced⟩ := ih
    split
    · exact ⟨forall_mem_cons.mpr ⟨‹_›, blank⟩, pieced⟩
    rename_i visible
    have visible : isBlank byte = false := Bool.eq_false_iff.mpr visible
    have unbroken : isBreak byte = false := by
      rw [isBlank_eq, Bool.or_eq_false_iff] at visible
      exact visible.2
    have single : IsContent [byte] := by
      refine ⟨?_, cons_ne_nil _ _, ?_⟩
      · intro first same
        cases same
        exact visible
      · intro first member
        cases mem_singleton.mp member
        exact unbroken
    split
    · exact ⟨nofun, .last single blank⟩
    rename_i content next others
    split
    · exact ⟨nofun, .cons single blank ‹_› pieced⟩
    rename_i horizontal
    have joined : IsContent content → IsContent (byte :: (gap ++ content)) := by
      intro line
      refine ⟨?_, cons_ne_nil _ _, ?_⟩
      · intro first same
        cases same
        exact visible
      · intro first member
        rcases mem_cons.mp member with rfl | member
        · exact unbroken
        rcases mem_append.mp member with inGap | inContent
        · by_contra breaks
          exact horizontal (any_eq_true.mpr
            ⟨first, inGap, Bool.eq_true_of_not_eq_false breaks⟩)
        · exact line.whole first inContent
    refine ⟨nofun, ?_⟩
    cases pieced with
    | last line blankNext => exact .last (joined line) blankNext
    | cons line blankNext breaks rest => exact .cons (joined line) blankNext breaks rest

def lineEnds (gap : Bytes) : Nat := (normalizeNewlines gap).count 10

/-- The margin behind the last line end. -/
def margin (gap : Bytes) : Bytes := (gap.reverse.takeWhile isHorizontal).reverse

/-- Put a text in front of the first line. -/
def prepend (text : Bytes) : List Bytes → List Bytes
  | [] => [text]
  | first :: later => (text ++ first) :: later

/-- The lines of a gap and what follows it, without their trailing blanks. -/
def linesOf (gap : Bytes) : List (Bytes × Bytes) → List Bytes
  | [] => replicate (lineEnds gap + 1) []
  | (content, next) :: later =>
    replicate (lineEnds gap) [] ++ prepend (margin gap ++ content) (linesOf next later)

theorem rtrimHorizontal_cons (byte : Byte) (line : Bytes) :
    rtrimHorizontal (byte :: line) =
      if rtrimHorizontal line = [] ∧ isHorizontal byte = true then []
      else byte :: rtrimHorizontal line := by
  simp only [rtrimHorizontal, reverse_cons, dropWhile_append, reverse_eq_nil_iff,
    List.isEmpty_iff]
  split
  · rename_i empty
    by_cases horizontal : isHorizontal byte = true
    · simp [empty, horizontal, dropWhile]
    · simp [empty, horizontal, dropWhile]
  · rename_i filled
    simp [filled]

theorem margin_cons (byte : Byte) (gap : Bytes) :
    margin (byte :: gap) =
      if gap.all isHorizontal = true ∧ isHorizontal byte = true then byte :: gap
      else margin gap := by
  simp only [margin, reverse_cons, takeWhile_append]
  by_cases whole : gap.all isHorizontal = true
  · have taken : gap.reverse.takeWhile isHorizontal = gap.reverse := by
      simpa using whole
    by_cases horizontal : isHorizontal byte = true
    · simp [taken, whole, horizontal]
    · simp [taken, horizontal]
  · have shorter : (gap.reverse.takeWhile isHorizontal).length ≠ gap.reverse.length := by
      intro same
      apply whole
      have taken := (List.takeWhile_prefix isHorizontal (l := gap.reverse)).eq_of_length same
      simpa using taken
    rw [if_neg shorter]
    simp [whole]

theorem margin_of_horizontal (horizontal : gap.all isHorizontal = true) : margin gap = gap := by
  have taken : gap.reverse.takeWhile isHorizontal = gap.reverse := by
    simpa using horizontal
  rw [margin, taken, reverse_reverse]

theorem margin_of_break (breaks : isBreak byte = true) : margin (byte :: gap) = margin gap := by
  have notHorizontal : isHorizontal byte = false := by
    revert byte
    decide +kernel
  rw [margin_cons, if_neg (by simp [notHorizontal])]

/-- The right-trimmed first line with a visible byte in front. -/
theorem map_rtrim_visible (filled : lines ≠ []) (visible : isHorizontal byte = false) :
    (prepend [byte] lines).map rtrimHorizontal = prepend [byte] (lines.map rtrimHorizontal) := by
  cases lines with
  | nil => cases filled rfl
  | cons first later => simp [prepend, rtrimHorizontal_cons, visible]

theorem segments_cons (other : byte ≠ delimiter) :
    segments delimiter (byte :: rest) = prepend [byte] (segments delimiter rest) := by
  rw [segments, if_neg other]
  cases segments delimiter rest <;> rfl

theorem segments_ne_nil : segments delimiter text ≠ [] := by
  obtain ⟨first, later, parts⟩ := segments_filled delimiter text
  simp [parts]

theorem isBreak_iff : isBreak byte = true ↔ byte = 10 ∨ byte = 13 := by
  simp [isBreak]

theorem normalizeNewlines_cons (other : byte ≠ 13) :
    normalizeNewlines (byte :: rest) = byte :: normalizeNewlines rest := by
  rw [normalizeNewlines]
  · intro _ same
    exact absurd same other
  · exact other

theorem normalizeNewlines_return (alone : rest.head? ≠ some 10) :
    normalizeNewlines (13 :: rest) = 10 :: normalizeNewlines rest := by
  rw [normalizeNewlines]
  rintro later rfl
  exact alone rfl

theorem lineEnds_eq_zero : lineEnds gap = 0 ↔ gap.any isBreak = false := by
  unfold lineEnds
  induction gap using normalizeNewlines.induct with
  | case1 => simp [normalizeNewlines]
  | case2 rest _ => simp [normalizeNewlines, isBreak]
  | case3 rest alone _ =>
    rw [normalizeNewlines_return fun head => alone _ (head?_eq_some_iff.mp head).choose_spec]
    simp [isBreak]
  | case4 byte rest first second ih =>
    rw [normalizeNewlines_cons second, any_cons, Bool.or_eq_false_iff,
      ← ih]
    by_cases newline : byte = 10
    · simp [newline, isBreak]
    · have other : byte ≠ 13 := second
      simp [newline, isBreak, other]

theorem all_horizontal {gap : Bytes} (blank : ∀ byte ∈ gap, isBlank byte = true)
    (unbroken : gap.any isBreak = false) : gap.all isHorizontal = true := by
  rw [all_eq_true]
  intro byte member
  have broken : isBreak byte = false := Bool.eq_false_iff.mpr (any_eq_false.mp unbroken byte member)
  have either := blank byte member
  rwa [isBlank_eq, broken, Bool.or_false] at either

/-- A line end in front of a gap. -/
theorem linesOf_break (margins : margin longer = margin gap)
    (counted : lineEnds longer = lineEnds gap + 1) :
    linesOf longer later = [] :: linesOf gap later := by
  cases later with
  | nil => rw [linesOf, linesOf, counted, replicate_succ]
  | cons part later =>
    rw [linesOf, linesOf, counted, replicate_succ, margins, cons_append]

theorem map_rtrim_horizontal (horizontal : isHorizontal byte = true) :
    (prepend [byte] lines).map rtrimHorizontal =
      match lines.map rtrimHorizontal with
      | [] => [[]]
      | first :: later => (if first = [] then [] else byte :: first) :: later := by
  cases lines with
  | nil => simp [prepend, horizontal, rtrimHorizontal]
  | cons first later => simp [prepend, rtrimHorizontal_cons, horizontal]

/-- A blank within the line in front of a gap. -/
theorem linesOf_horizontal (horizontal : isHorizontal byte = true)
    (blank : ∀ byte ∈ gap, isBlank byte = true) (pieced : Pieced later) :
    linesOf (byte :: gap) later =
      match linesOf gap later with
      | [] => [[]]
      | first :: others => (if first = [] then [] else byte :: first) :: others := by
  have notReturn : byte ≠ 13 := by
    rintro rfl
    cases horizontal
  have notNewline : byte ≠ 10 := by
    rintro rfl
    cases horizontal
  have counted : lineEnds (byte :: gap) = lineEnds gap := by
    rw [lineEnds, lineEnds, normalizeNewlines_cons notReturn, count_cons_of_ne notNewline]
  cases later with
  | nil => simp [linesOf, counted, replicate_succ]
  | cons part later =>
    rw [linesOf, linesOf, counted]
    cases ends : lineEnds gap with
    | zero =>
      have whole := all_horizontal blank (lineEnds_eq_zero.mp ends)
      have filled : part.1 ≠ [] := by
        cases pieced with
        | last line => exact line.filled
        | cons line => exact line.filled
      rw [margin_cons, if_pos ⟨whole, horizontal⟩, margin_of_horizontal whole]
      cases linesOf part.2 later <;> simp [prepend, filled]
    | succ count =>
      have broken : ¬ (gap.all isHorizontal = true ∧ isHorizontal byte = true) := by
        rintro ⟨whole, _⟩
        have unbroken : gap.any isBreak = false := by
          rw [any_eq_false]
          intro other member breaks
          have horizontal := all_eq_true.mp whole other member
          rcases isBreak_iff.mp breaks with rfl | rfl <;> cases horizontal
        rw [lineEnds_eq_zero.mpr unbroken] at ends
        cases ends
      rw [margin_cons, if_neg broken]
      rfl

theorem pieces_blank (blank : isBlank byte = true) :
    pieces (byte :: rest) = (byte :: (pieces rest).1, (pieces rest).2) := by
  rw [pieces]
  split
  rename_i found
  rw [if_pos blank, found]

theorem linesOf_visible (visible : isBlank byte = false) :
    linesOf (pieces (byte :: rest)).1 (pieces (byte :: rest)).2 =
      prepend [byte] (linesOf (pieces rest).1 (pieces rest).2) := by
  have blank := (pieces_pieced rest).1
  rw [pieces]
  generalize pieces rest = found at blank ⊢
  obtain ⟨gap, later⟩ := found
  dsimp only at blank ⊢
  rw [if_neg (Bool.eq_false_iff.mp visible)]
  cases later with
  | nil => rfl
  | cons part later =>
    dsimp only
    split
    · rfl
    rename_i unbroken
    have unbroken : gap.any isBreak = false := Bool.eq_false_iff.mpr unbroken
    rw [linesOf, linesOf, lineEnds_eq_zero.mpr unbroken,
      margin_of_horizontal (all_horizontal blank unbroken)]
    cases linesOf part.2 later <;> simp [prepend, lineEnds, normalizeNewlines, margin]

/-- The lines of a text, right-trimmed, are those of its pieces. -/
theorem linesOf_pieces (text : Bytes) :
    (segments 10 (normalizeNewlines text)).map rtrimHorizontal =
      linesOf (pieces text).1 (pieces text).2 := by
  induction text using normalizeNewlines.induct with
  | case1 => rfl
  | case2 rest ih =>
    rw [pieces_blank rfl, pieces_blank rfl, normalizeNewlines, segments, if_pos rfl, map_cons,
      ih]
    refine (linesOf_break ?_ ?_).symm
    · rw [margin_of_break rfl, margin_of_break rfl]
    · simp [lineEnds, normalizeNewlines]
  | case3 rest alone ih =>
    have single : rest.head? ≠ some 10 := fun head =>
      alone _ (head?_eq_some_iff.mp head).choose_spec
    have singleGap : (pieces rest).1.head? ≠ some 10 := by
      intro head
      obtain ⟨tail, whole⟩ := head?_eq_some_iff.mp head
      apply single
      rw [← pieces_text rest, whole]
      rfl
    rw [pieces_blank rfl, normalizeNewlines_return single, segments, if_pos rfl, map_cons,
      ih]
    refine (linesOf_break (margin_of_break rfl) ?_).symm
    rw [lineEnds, lineEnds, normalizeNewlines_return singleGap, count_cons_self]
  | case4 byte rest first second ih =>
    rw [normalizeNewlines_cons second]
    by_cases newline : byte = 10
    · subst newline
      rw [segments, if_pos rfl, map_cons, ih]
      refine (linesOf_break (margin_of_break rfl) ?_).symm
      rw [lineEnds, lineEnds, normalizeNewlines_cons (by decide), count_cons_self]
    · rw [segments_cons newline]
      by_cases horizontal : isHorizontal byte = true
      · have blank : isBlank byte = true := by rw [isBlank_eq, horizontal, Bool.true_or]
        rw [map_rtrim_horizontal horizontal, ih, pieces_blank blank,
          linesOf_horizontal horizontal (pieces_pieced rest).1 (pieces_pieced rest).2]
      · have visible : isBlank byte = false := by
          have other : byte ≠ 13 := second
          simp [isBlank_eq, Bool.eq_false_iff.mpr horizontal, isBreak, newline, other]
        rw [map_rtrim_visible segments_ne_nil (Bool.eq_false_iff.mpr horizontal),
          ih, linesOf_visible visible]

/-- The lines that the formatter adds: whether it has begun, where its scan is, and
whether it owes a blank line. Blank lines at the end are never added. -/
def setLines : Bool → ScanState → Bool → List Bytes → List Bytes
  | _, _, _, [] => []
  | started, state, pending, line :: later =>
    let content := line.dropWhile isHorizontal
    if content.isEmpty then setLines started state started later
    else
      (if pending then [[]] else []) ++
        (indentation state content ++ content) :: setLines true (scanCode content state) false later

def keptLines (progress : Formatting) : List Bytes :=
  (progress.formatted.reverse.dropWhile isEmpty).reverse

theorem keptLines_eq (ends : ∀ line ∈ lines.getLast?, line ≠ [])
    (empty : ∀ line ∈ blanks, line = []) (whole : progress.formatted = lines ++ blanks) :
    keptLines progress = lines := by
  rw [keptLines, whole, reverse_append, dropWhile_append_of_pos
    fun line member => isEmpty_iff.mpr (empty line (mem_reverse.mp member))]
  cases last : lines.reverse with
  | nil => rw [reverse_eq_nil_iff.mp last, dropWhile_nil, reverse_nil]
  | cons line earlier =>
    have filled : line.isEmpty = false := by
      refine isEmpty_eq_false_iff.mpr (ends line ?_)
      rw [← head?_reverse, last]
      rfl
    rw [dropWhile_cons_of_neg (by simp [filled]), ← last, reverse_reverse]

/-- The formatter's loop: what it has kept so far ends in a line that is not blank,
with at most one blank line behind it. -/
theorem keptLines_foldl {kept : List Bytes} {raws : List Bytes} {progress : Formatting}
    (ends : ∀ line ∈ kept.getLast?, line ≠ [])
    (whole : progress.formatted =
      kept ++ if !kept.isEmpty && progress.previousBlank then [[]] else []) :
    keptLines (raws.foldl formatLine progress) =
      kept ++ setLines (!kept.isEmpty) progress.state (!kept.isEmpty && progress.previousBlank)
        (raws.map rtrimHorizontal) := by
  induction raws generalizing kept progress with
  | nil =>
    rw [map_nil, setLines, append_nil]
    refine keptLines_eq ends ?_ whole
    intro line member
    split at member
    · exact mem_singleton.mp member
    · cases member
  | cons raw raws ih =>
    rw [foldl_cons, map_cons, setLines]
    by_cases blank : ((rtrimHorizontal raw).dropWhile isHorizontal).isEmpty = true
    · rw [@ih kept _ ends]
      · simp only [formatLine, if_pos blank, Bool.and_true]
      simp only [formatLine, if_pos blank, whole]
      cases started : kept.isEmpty with
      | true => simp [isEmpty_iff.mp started]
      | false => cases progress.previousBlank <;> simp [isEmpty_eq_false_iff.mp started]
    · generalize contents : (rtrimHorizontal raw).dropWhile isHorizontal = content at blank ⊢
      have filled := isEmpty_eq_false_iff.mp (Bool.eq_false_iff.mpr blank)
      have step : formatLine progress raw =
          ⟨progress.formatted ++ [indentation progress.state content ++ content],
            scanCode content progress.state, false⟩ := by
        rw [← contents] at blank ⊢
        exact if_neg blank
      rw [if_neg blank, step, @ih
        (progress.formatted ++ [indentation progress.state content ++ content])]
      · have started : (progress.formatted ++
            [indentation progress.state content ++ content]).isEmpty = false :=
          isEmpty_eq_false_iff.mpr (append_ne_nil_of_right_ne_nil _ (cons_ne_nil _ _))
        rw [started, whole]
        simp
      · intro line member
        rw [getLast?_append_of_ne_nil _ (cons_ne_nil _ _)] at member
        cases member
        exact append_ne_nil_of_right_ne_nil _ filled
      · simp

theorem setLines_replicate {state : ScanState} {count : Nat} {lines : List Bytes} :
    setLines started state pending (replicate count [] ++ lines) =
      setLines started state (if count = 0 then pending else started) lines := by
  induction count generalizing pending with
  | zero => rfl
  | succ count ih =>
    rw [replicate_succ, cons_append, setLines]
    simp only [dropWhile_nil, isEmpty_nil, if_true, ih]
    split <;> rfl

/-- A line, the gap behind it and the gap that the formatter sets there. -/
structure Piece where
  content : Bytes
  gap : Bytes
  replacement : Bytes

/-- A line end, one blank line if there were any, and the margin of the next line. -/
def replacement (state : ScanState) (gap next : Bytes) : Bytes :=
  10 :: ((if 2 ≤ lineEnds gap then [10] else []) ++ indentation state next)

def layout : ScanState → List (Bytes × Bytes) → List Piece
  | _, [] => []
  | _, [(content, gap)] => [⟨content, gap, [10]⟩]
  | state, (content, gap) :: next :: later =>
    ⟨content, gap, replacement (scanCode content state) gap next.1⟩ ::
      layout (scanCode content state) (next :: later)

def formattedText (parts : List Piece) : Bytes :=
  parts.flatMap fun piece => piece.content ++ piece.replacement

theorem dropWhile_margin (line : IsContent content) :
    (margin gap ++ content).dropWhile isHorizontal = content := by
  rw [dropWhile_append_of_pos]
  · cases content with
    | nil => cases line.filled rfl
    | cons byte content =>
      have visible := line.visible byte rfl
      rw [isBlank_eq, Bool.or_eq_false_iff] at visible
      rw [dropWhile_cons_of_neg (by simp [visible.1])]
  · intro byte member
    rw [margin, mem_reverse] at member
    exact mem_takeWhile_imp member

/-- Behind a line the lines of its gap begin with the empty rest of it. -/
theorem linesOf_behind (pieced : Pieced ((content, gap) :: later)) :
    linesOf gap later = [] :: (linesOf gap later).tail := by
  cases pieced with
  | last => simp [linesOf, replicate_succ]
  | cons _ _ breaks _ =>
    have some : lineEnds gap ≠ 0 := by
      rw [Ne, lineEnds_eq_zero, breaks]
      decide
    obtain ⟨count, counted⟩ := Nat.exists_eq_succ_of_ne_zero some
    rw [linesOf, counted]
    rfl

/-- Setting a line and what follows it, by induction on the lines that follow. -/
theorem setLines_pieces (pieced : Pieced ((content, gap) :: later)) :
    content ++ 10 :: (setLines true (scanCode content state) false (linesOf gap later).tail).flatMap
        (· ++ [10]) =
      formattedText (layout state ((content, gap) :: later)) := by
  induction later generalizing content gap state with
  | nil =>
    have blank : setLines true (scanCode content state) false (linesOf gap []).tail = [] := by
      have all := @setLines_replicate true false (scanCode content state) (lineEnds gap) []
      rw [append_nil] at all
      rw [linesOf, replicate_succ, tail_cons, all, setLines]
    rw [blank]
    simp [formattedText, layout]
  | cons next later ih =>
    cases pieced with
    | cons _ _ breaks rest =>
      have line : IsContent next.1 := by
        cases rest with
        | last line => exact line
        | cons line => exact line
      have some : lineEnds gap ≠ 0 := by
        rw [Ne, lineEnds_eq_zero, breaks]
        decide
      obtain ⟨count, counted⟩ := Nat.exists_eq_succ_of_ne_zero some
      have filled : next.1.isEmpty = false := isEmpty_eq_false_iff.mpr line.filled
      have lines : (linesOf gap (next :: later)).tail = replicate count [] ++
          (margin gap ++ next.1) :: (linesOf next.2 later).tail := by
        rw [linesOf, counted, linesOf_behind rest]
        simp [prepend]
      rw [lines, setLines_replicate, setLines]
      simp only [dropWhile_margin line, filled]
      have deeper := @ih next.1 next.2 (scanCode content state) rest
      have one : (if count = 0 then false else true) = decide (2 ≤ lineEnds gap) := by
        rw [counted]
        cases count <;> simp
      rw [layout, formattedText, flatMap_cons, ← formattedText, ← deeper, one, replacement]
      by_cases twice : 2 ≤ lineEnds gap <;> simp [twice]

theorem foldl_formatLine_blank :
    keptLines ((raws ++ [[]]).foldl formatLine progress) =
      keptLines (raws.foldl formatLine progress) := by
  rw [foldl_append]
  generalize raws.foldl formatLine progress = reached
  have blank : formatLine reached [] = { reached with
      formatted := if !reached.formatted.isEmpty && !reached.previousBlank
        then reached.formatted ++ [[]] else reached.formatted,
      previousBlank := true } := rfl
  rw [foldl_cons, foldl_nil, blank, keptLines]
  split
  · rw [reverse_append]
    rfl
  · rfl

theorem keptLines_segments (text : Bytes) :
    keptLines ((splitLines text).foldl formatLine {}) =
      keptLines ((segments 10 text).foldl formatLine {}) := by
  unfold splitLines
  split
  · rename_i empty
    rw [isEmpty_iff.mp empty]
    rfl
  · unfold getlines
    split
    · rename_i last
      conv_rhs => rw [← dropLast_append_getLast? _ last]
      rw [foldl_formatLine_blank]
    · rfl

/-- Formatting keeps the lines and sets the gaps. -/
theorem formatSource_eq (source : Bytes) :
    formatSource source = formattedText (layout {} (pieces source).2) := by
  have start : formatSource source = (keptLines
      ((splitLines (normalizeNewlines source)).foldl formatLine {})).flatMap (· ++ [10]) := rfl
  have lines := @keptLines_foldl [] (segments 10 (normalizeNewlines source)) {} nofun rfl
  rw [start, keptLines_segments, lines, linesOf_pieces]
  have pieced := (pieces_pieced source).2
  cases cut : (pieces source).2 with
  | nil =>
    have all := @setLines_replicate false false {} (lineEnds (pieces source).1 + 1) []
    rw [append_nil] at all
    simp only [linesOf, isEmpty_nil, Bool.not_true, Bool.false_and, all, setLines]
    rfl
  | cons part later =>
    rw [cut] at pieced
    have line : IsContent part.1 := by
      cases pieced with
      | last line => exact line
      | cons line => exact line
    have filled : part.1.isEmpty = false := isEmpty_eq_false_iff.mpr line.filled
    have unindented : indentation {} part.1 = [] := by
      simp [indentation, targetDepth]
    rw [← setLines_pieces pieced, linesOf, setLines_replicate, linesOf_behind pieced, prepend,
      setLines]
    simp [dropWhile_margin line, filled, unindented]

end ShortHand.Tooling
