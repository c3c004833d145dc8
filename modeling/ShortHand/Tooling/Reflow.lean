import Mathlib.Data.List.Cycle
import Mathlib.Data.List.Forall2
import ShortHand.Library.Fields
import ShortHand.Tooling.Layout

/-! How the scanner reads a text without carriage returns whose line gaps were set anew. -/

namespace ShortHand.Tooling

open ShortHand.Library ShortHand.Evidence
open List hiding after count next set tail

/-- A byte of a text, with whether it stands in a line gap that is set differently. -/
abbrev Marked := Byte × Bool

def bytes (text : List Marked) : Bytes := text.map Prod.fst

/-- A marked text and the text it becomes. -/
inductive Reflow : List Marked → Bytes → Prop where
  | missing : Reflow [] [10]
  | ending {gap : List Marked} (some : gap ≠ []) (blank : ∀ item ∈ gap, isBlank item.1 = true) :
    Reflow gap [10]
  | byte {byte : Byte} {rest : List Marked} {text : Bytes} (whole : isBreak byte = false)
      (later : Reflow rest text) : Reflow ((byte, false) :: rest) (byte :: text)
  | gap {gap margin : Bytes} {rest : List Marked} {text : Bytes}
      (blank : ∀ byte ∈ gap, isBlank byte = true) (breaks : gap.any isBreak = true)
      (set : ∀ byte ∈ margin, isBlank byte = true)
      (visible : ∀ item ∈ rest.head?, isBlank item.1 = false) (filled : rest ≠ [])
      (later : Reflow rest text) :
    Reflow (gap.map (·, decide (gap ≠ 10 :: margin)) ++ rest) (10 :: margin ++ text)

section Heads

variable {text : List Marked} {set : Bytes}

theorem filled_of_breaks (breaks : gap.any isBreak = true) : ∃ byte rest, gap = byte :: rest := by
  cases gap with
  | nil => cases breaks
  | cons byte rest => exact ⟨byte, rest, rfl⟩

theorem Reflow.visible (reflow : Reflow (item :: text) set) (visible : isBlank item.1 = false) :
    item.2 = false ∧ ∃ later, set = item.1 :: later ∧ Reflow text later := by
  generalize whole : item :: text = marked at reflow
  cases reflow with
  | missing => cases whole
  | ending _ blank =>
    subst whole
    rw [blank item mem_cons_self] at visible
    cases visible
  | byte _ later =>
    cases whole
    exact ⟨rfl, _, rfl, later⟩
  | gap blank breaks =>
    obtain ⟨byte, rest, rfl⟩ := filled_of_breaks breaks
    cases whole
    rw [blank byte mem_cons_self] at visible
    cases visible

theorem Reflow.nil (reflow : Reflow [] set) : set = [10] := by
  generalize nothing : ([] : List Marked) = marked at reflow
  cases reflow with
  | missing | ending => rfl
  | byte => cases nothing
  | gap _ breaks =>
    obtain ⟨byte, rest, rfl⟩ := filled_of_breaks breaks
    cases nothing

/-- Two blank runs, and behind them nothing or a reflowed text that begins visibly. -/
def Blanks (text : List Marked) (set : Bytes) : Prop :=
  ∃ run rest setRun setRest, text = run ++ rest ∧ set = setRun ++ setRest ∧
    run ≠ [] ∧ setRun ≠ [] ∧ (∀ item ∈ run, isBlank item.1 = true) ∧
    (∀ byte ∈ setRun, isBlank byte = true) ∧
    (rest = [] ∧ setRest = [] ∨
      rest ≠ [] ∧ (∀ item ∈ rest.head?, isBlank item.1 = false) ∧ Reflow rest setRest)

theorem Blanks.cons (blank : isBlank byte = true) (blanks : Blanks text set) :
    Blanks ((byte, false) :: text) (byte :: set) := by
  obtain ⟨run, rest, setRun, setRest, rfl, rfl, _, _, blankRun, blankSet, behind⟩ := blanks
  exact ⟨(byte, false) :: run, rest, byte :: setRun, setRest, rfl, rfl, nofun, nofun,
    forall_mem_cons.mpr ⟨blank, blankRun⟩, forall_mem_cons.mpr ⟨blank, blankSet⟩, behind⟩

theorem Reflow.blanks (reflow : Reflow text set) (some : text ≠ [])
    (blank : ∀ item ∈ text.head?, isBlank item.1 = true) : Blanks text set := by
  induction reflow with
  | missing => cases some rfl
  | ending some all =>
    exact ⟨_, [], [10], [], (append_nil _).symm, rfl, some, nofun, all, by simp [isBlank],
      .inl ⟨rfl, rfl⟩⟩
  | @byte byte rest text whole later ih =>
    have thisBlank : isBlank byte = true := blank (byte, false) rfl
    cases rest with
    | nil =>
      cases later.nil
      exact ⟨[(byte, false)], [], [byte, 10], [], rfl, rfl, nofun, nofun, by simpa using thisBlank,
        by simpa [show isBlank 10 = true from rfl] using thisBlank, .inl ⟨rfl, rfl⟩⟩
    | cons next rest =>
      by_cases nextBlank : isBlank next.1 = true
      · exact (ih nofun (by simpa using nextBlank)).cons thisBlank
      · exact ⟨[(byte, false)], next :: rest, [byte], text, rfl, rfl, nofun, nofun,
          by simpa using thisBlank, by simpa using thisBlank,
          .inr ⟨nofun, by simpa using nextBlank, later⟩⟩
  | gap blankGap breaks setBlank visible filled later =>
    obtain ⟨byte, rest, rfl⟩ := filled_of_breaks breaks
    exact ⟨_, _, _, _, rfl, rfl, nofun, nofun, forall_mem_map.mpr blankGap,
      forall_mem_cons.mpr ⟨rfl, setBlank⟩, .inr ⟨filled, visible, later⟩⟩

/-- The first byte stays, unless it is blank or missing; then a blank stands there. -/
theorem Reflow.head (reflow : Reflow text set) :
    (∃ byte rest later, text = (byte, false) :: rest ∧ isBlank byte = false ∧ set = byte :: later ∧
        Reflow rest later) ∨
      (∀ byte ∈ (bytes text).head?, isBlank byte = true) ∧ ∃ byte later, set = byte :: later ∧
        isBlank byte = true := by
  cases reflow with
  | missing => exact .inr ⟨nofun, 10, [], rfl, rfl⟩
  | ending some blank =>
    have all : ∀ byte ∈ bytes text, isBlank byte = true := forall_mem_map.mpr blank
    exact .inr ⟨fun byte member => all byte (mem_of_mem_head? member), 10, [], rfl, rfl⟩
  | byte whole later =>
    rename_i byte rest text
    by_cases blank : isBlank byte = true
    · exact .inr ⟨by simpa [bytes] using blank, byte, text, rfl, blank⟩
    · exact .inl ⟨byte, rest, text, rfl, Bool.eq_false_iff.mpr blank, rfl, later⟩
  | gap blank breaks =>
    obtain ⟨byte, rest, rfl⟩ := filled_of_breaks breaks
    exact .inr ⟨by simpa [bytes] using blank byte mem_cons_self, 10, _, rfl, rfl⟩

/-- A run of bytes of a kind that no blank is of. -/
theorem Reflow.takeWhile (reflow : Reflow text set)
    (visible : ∀ byte, isBlank byte = true → kind byte = false) :
    (bytes text).takeWhile kind = set.takeWhile kind ∧
      Reflow (text.drop (set.takeWhile kind).length) (set.dropWhile kind) ∧
      bytes (text.drop (set.takeWhile kind).length) = (bytes text).dropWhile kind := by
  induction reflow with
  | missing => simp [bytes, visible 10 rfl, Reflow.missing]
  | @ending gap some blank =>
    cases gap with
    | nil => cases some rfl
    | cons item rest =>
      have other := visible _ (blank item mem_cons_self)
      simp [bytes, visible 10 rfl, other, Reflow.ending some blank]
  | @byte byte rest text whole later ih =>
    by_cases same : kind byte = true
    · obtain ⟨taken, dropped, rests⟩ := ih
      refine ⟨?_, ?_, ?_⟩
      · simpa [bytes, same] using taken
      · simpa [same] using dropped
      · simpa [bytes, same] using rests
    · simp [bytes, same, Reflow.byte whole later]
  | @gap gap margin rest text blank breaks setBlank visibleRest filled later _ =>
    have whole := Reflow.gap blank breaks setBlank visibleRest filled later
    generalize decide (gap ≠ 10 :: margin) = changed at whole ⊢
    obtain ⟨byte, tail, rfl⟩ := filled_of_breaks breaks
    have other := visible _ (blank byte mem_cons_self)
    simp only [map_cons, cons_append] at whole ⊢
    simp [bytes, visible 10 rfl, other, whole]

theorem dropWhile_run {run rest : Bytes} (blank : ∀ byte ∈ run, isBlank byte = true)
    (visible : ∀ byte ∈ rest.head?, isBlank byte = false) :
    (run ++ rest).dropWhile isBlank = rest := by
  rw [dropWhile_append_of_pos blank]
  cases rest with
  | nil => rfl
  | cons byte rest => rw [dropWhile_cons_of_neg (by simp [visible byte rfl])]

/-- What follows the blanks, if anything does. -/
theorem Reflow.skip (reflow : Reflow text set) :
    (bytes text).dropWhile isBlank = [] ∧ set.dropWhile isBlank = [] ∨
      ∃ item rest setRest, bytes (item :: rest) = (bytes text).dropWhile isBlank ∧
        set.dropWhile isBlank = item.1 :: setRest ∧ isBlank item.1 = false ∧
        Reflow (item :: rest) (item.1 :: setRest) := by
  cases text with
  | nil =>
    cases reflow.nil
    exact .inl ⟨rfl, rfl⟩
  | cons item text =>
    by_cases blank : isBlank item.1 = true
    · obtain ⟨run, rest, setRun, setRest, whole, setWhole, _, _, blankRun, blankSet, behind⟩ :=
        reflow.blanks nofun (by simpa using blank)
      have blankBytes : ∀ byte ∈ bytes run, isBlank byte = true := forall_mem_map.mpr blankRun
      rw [whole, setWhole]
      simp only [bytes, map_append]
      rcases behind with ⟨rfl, rfl⟩ | ⟨filled, visible, later⟩
      · exact .inl ⟨dropWhile_run blankBytes nofun, dropWhile_run blankSet nofun⟩
      obtain ⟨next, rest, rfl⟩ := exists_cons_of_ne_nil filled
      have nextVisible := visible next rfl
      obtain ⟨_, setLater, rfl, _⟩ := later.visible nextVisible
      refine .inr ⟨next, rest, setLater, ?_, ?_, nextVisible, later⟩
      · exact (dropWhile_run blankBytes (by simpa using nextVisible)).symm
      · exact dropWhile_run blankSet (by simpa using nextVisible)
    · have visible := Bool.eq_false_iff.mpr blank
      obtain ⟨_, setLater, rfl, _⟩ := reflow.visible visible
      refine .inr ⟨item, text, setLater, ?_, ?_, visible, reflow⟩
      · simp [bytes, visible]
      · simp [visible]

theorem isWordByte_visible (byte : Byte) (blank : isBlank byte = true) : isWordByte byte = false := by
  revert byte
  decide +kernel

theorem Reflow.keepsProfile (reflow : Reflow text set) :
    profileAhead (bytes text) = profileAhead set := by
  have heads : (bytes text).head?.any isBlank = set.head?.any isBlank ∨
      (bytes text = [] ∧ set.dropWhile isBlank = []) := by
    rcases reflow.head with ⟨byte, rest, later, rfl, _, rfl, _⟩ | ⟨blank, byte, later, rfl, setBlank⟩
    · exact .inl rfl
    cases text with
    | nil =>
      cases reflow.nil
      exact .inr ⟨rfl, rfl⟩
    | cons item text => exact .inl (by simpa [bytes, setBlank] using blank item.1 rfl)
  have names : ((bytes text).dropWhile isBlank).head?.any isWordStart =
        (set.dropWhile isBlank).head?.any isWordStart ∧
      ((((bytes text).dropWhile isBlank).dropWhile isWordByte).dropWhile isBlank).head? =
        (((set.dropWhile isBlank).dropWhile isWordByte).dropWhile isBlank).head? := by
    rcases reflow.skip with ⟨empty, setEmpty⟩ | ⟨item, rest, setRest, whole, setWhole, _, later⟩
    · rw [empty, setEmpty]
      exact ⟨rfl, rfl⟩
    rw [← whole, setWhole]
    refine ⟨rfl, ?_⟩
    obtain ⟨_, behind, rests⟩ := later.takeWhile isWordByte_visible
    rw [← rests]
    rcases behind.skip with ⟨empty, setEmpty⟩ | ⟨next, _, _, found, setFound, _, _⟩
    · rw [empty, setEmpty]
    · rw [← found, setFound]
      rfl
  rcases heads with same | ⟨empty, setEmpty⟩
  · simp only [profileAhead, same, names.1, names.2]
  · simp [profileAhead, empty, setEmpty]

end Heads

section Tails

variable {text : List Marked} {set : Bytes}

theorem bytes_append : bytes (gap.map (·, changed) ++ rest) = gap ++ bytes rest := by
  simp [bytes, Function.comp_def]

theorem ne_of_blank (blank : isBlank byte = true) (visible : isBlank other = false) : byte ≠ other := by
  rintro rfl
  exact Bool.eq_false_iff.mp visible blank

theorem stringTail_run (blank : ∀ byte ∈ run, isBlank byte = true) :
    stringTail (run ++ rest) = (stringTail rest).map (run ++ ·) := by
  induction run with
  | nil => simp
  | cons byte run ih =>
    obtain ⟨first, later⟩ := forall_mem_cons.mp blank
    rw [cons_append, stringTail, if_neg (ne_of_blank first rfl), ih later, Option.map_map]
    rfl

theorem blockTail_run {run rest : Bytes} (some : run ≠ [])
    (blank : ∀ byte ∈ run, isBlank byte = true) :
    blockTail stars (run ++ rest) = (blockTail 0 rest).map (run ++ ·) := by
  induction run generalizing stars with
  | nil => cases some rfl
  | cons byte run ih =>
    obtain ⟨first, later⟩ := forall_mem_cons.mp blank
    rw [cons_append, blockTail, if_neg (ne_of_blank first rfl),
      if_neg (fun slash => ne_of_blank first rfl slash.1)]
    cases run with
    | nil => rfl
    | cons next run =>
      rw [ih (cons_ne_nil _ _) later, Option.map_map]
      rfl

theorem stringTail_head (found : stringTail rest = some tail) :
    ∃ byte later, tail = byte :: later ∧ rest.head? = some byte := by
  cases rest with
  | nil => cases found
  | cons byte rest =>
    rw [stringTail] at found
    split at found
    · rename_i same
      cases found
      exact ⟨34, [], rfl, by rw [same]; rfl⟩
    · obtain ⟨later, _, rfl⟩ := Option.map_eq_some_iff.mp found
      exact ⟨byte, later, rfl, rfl⟩

theorem rel_map {first : Option α} {second : Option β} (related : Option.Rel relation first second)
    (mapped : ∀ value other, relation value other → result (f value) (g other)) :
    Option.Rel result (first.map f) (second.map g) := by
  cases related with
  | some related => exact .some (mapped _ _ related)
  | none => exact .none

/-- How the rest of a literal compares: it is the same one exactly if no line gap in it is
set differently. -/
structure KeptString (text : List Marked) (set tail setTail : Bytes) : Prop where
  behind : Reflow (text.drop tail.length) (set.drop setTail.length)
  taken : bytes (text.take tail.length) = tail
  setTaken : set.take setTail.length = setTail
  same : tail = setTail ↔ ∀ item ∈ text.take tail.length, item.2 = false

/-- Two literals that go on behind a gap. -/
theorem KeptString.gap {gap margin : Bytes} {rest : List Marked}
    (blank : ∀ byte ∈ gap, isBlank byte = true) (breaks : gap.any isBreak = true)
    (setBlank : ∀ byte ∈ margin, isBlank byte = true)
    (visible : ∀ item ∈ rest.head?, isBlank item.1 = false) (filled : rest ≠ [])
    (later : Reflow rest set) (found : stringTail (bytes rest) = some tail)
    (setFound : stringTail set = some setTail) (kept : KeptString rest set tail setTail) :
    KeptString (gap.map (·, decide (gap ≠ 10 :: margin)) ++ rest) (10 :: margin ++ set)
      (gap ++ tail) (10 :: margin ++ setTail) := by
  have blankSet : ∀ byte ∈ 10 :: margin, isBlank byte = true :=
    forall_mem_cons.mpr ⟨rfl, setBlank⟩
  have lengths : (gap.map (·, decide (gap ≠ 10 :: margin))).length = gap.length :=
    length_map _
  refine ⟨?_, ?_, ?_, ?_⟩
  · rw [length_append, length_append, ← lengths, drop_length_add_append,
      drop_length_add_append]
    exact kept.behind
  · rw [length_append, ← lengths, take_length_add_append, bytes_append, kept.taken]
  · rw [length_append, take_length_add_append, kept.setTaken]
  · -- both literals go on behind the gap with the same visible byte
    obtain ⟨first, firstRest, rfl, firstHead⟩ := stringTail_head found
    obtain ⟨second, secondRest, rfl, secondHead⟩ := stringTail_head setFound
    obtain ⟨item, others, rfl⟩ := exists_cons_of_ne_nil filled
    have firstVisible := visible item rfl
    obtain ⟨_, _, rfl, _⟩ := later.visible firstVisible
    cases firstHead
    cases secondHead
    rw [length_append, ← lengths, take_length_add_append]
    simp only [mem_append, or_imp, forall_and]
    rw [← kept.same]
    constructor
    · intro equal
      obtain ⟨gaps, _, rests⟩ := append_cons_inj_of_forall blank blankSet
        (Bool.eq_false_iff.mp firstVisible) (Bool.eq_false_iff.mp firstVisible) equal
      exact ⟨forall_mem_map.mpr fun _ _ => decide_eq_false (not_not.mpr gaps), by rw [rests]⟩
    · rintro ⟨unchanged, rests⟩
      obtain ⟨byte, tail, rfl⟩ := filled_of_breaks breaks
      have gaps := unchanged (byte, _) (mem_map_of_mem mem_cons_self)
      rw [not_not.mp (of_decide_eq_false gaps), rests]

/-- A string stays a string, and an unclosed one stays unclosed. -/
theorem Reflow.keepsString (reflow : Reflow text set) :
    Option.Rel (KeptString text set) (stringTail (bytes text)) (stringTail set) := by
  induction reflow with
  | missing => exact .none
  | @ending gap _ blank =>
    have none := @stringTail_run (bytes gap) [] (forall_mem_map.mpr blank)
    rw [append_nil] at none
    rw [none]
    exact .none
  | @byte byte rest text whole later ih =>
    simp only [bytes, map_cons, stringTail]
    split_ifs with quote
    · exact .some ⟨later, by simp [bytes, quote], by simp [quote], by simp⟩
    refine rel_map ih fun tail setTail kept => ⟨kept.behind, ?_, ?_, ?_⟩
    · simpa [bytes] using kept.taken
    · simpa using kept.setTaken
    · simpa using kept.same
  | @gap gap margin rest text blank breaks setBlank visible filled later ih =>
    rw [bytes_append, stringTail_run blank,
      stringTail_run (forall_mem_cons.mpr ⟨rfl, setBlank⟩)]
    generalize found : stringTail (bytes rest) = tail at ih ⊢
    generalize setFound : stringTail text = setTail at ih ⊢
    cases ih with
    | none => exact .none
    | some kept => exact .some (kept.gap blank breaks setBlank visible filled later found setFound)

/-- A block comment stays one, and an unclosed one stays unclosed: a gap has no asterisk
and no slash. -/
theorem Reflow.keepsBlock (reflow : Reflow text set) :
    Option.Rel (fun tail setTail => Reflow (text.drop tail.length) (set.drop setTail.length))
      (blockTail stars (bytes text)) (blockTail stars set) := by
  induction reflow generalizing stars with
  | missing => exact .none
  | @ending gap some blank =>
    have none := @blockTail_run stars (bytes gap) [] (by simpa [bytes] using some)
      (forall_mem_map.mpr blank)
    rw [append_nil] at none
    rw [none]
    exact .none
  | @byte byte rest text whole later ih =>
    simp only [bytes, map_cons, blockTail]
    split_ifs
    · exact rel_map ih fun _ _ => id
    · exact .some later
    · exact .none
    · exact rel_map ih fun _ _ => id
  | @gap gap margin rest text blank breaks setBlank visible filled later ih =>
    have some : gap ≠ [] := by
      rintro rfl
      cases breaks
    have lengths : (gap.map (·, decide (gap ≠ 10 :: margin))).length = gap.length :=
      length_map _
    rw [bytes_append, blockTail_run some blank,
      blockTail_run (cons_ne_nil _ _) (forall_mem_cons.mpr ⟨rfl, setBlank⟩)]
    refine rel_map ih fun tail setTail behind => ?_
    rw [length_append, length_append, ← lengths, drop_length_add_append,
      drop_length_add_append]
    exact behind

/-- Behind a line comment: a blank run in both texts, unless the comment was the last
of the text. -/
def BehindComment (text : List Marked) (set : Bytes) : Prop :=
  text = [] ∧ set = [10] ∨ Blanks text set

theorem Reflow.keepsLine (reflow : Reflow text set) (returnless : 13 ∉ bytes text) :
    BehindComment (text.drop (lineTail (bytes text)).length)
      (set.drop (lineTail set).length) := by
  induction reflow with
  | missing => exact .inl ⟨rfl, rfl⟩
  | @ending gap some blank =>
    by_cases finished : gap.drop (lineTail (bytes gap)).length = []
    · exact .inl ⟨finished, rfl⟩
    · exact .inr ⟨_, [], [10], [], (append_nil _).symm, rfl, finished, nofun,
        fun item member => blank item (mem_of_mem_drop member), by simp [isBlank],
        .inl ⟨rfl, rfl⟩⟩
  | @byte byte rest text whole later ih =>
    have notNewline : byte ≠ 10 := by
      rintro rfl
      cases whole
    have tail : ∀ rest : Bytes, lineTail (byte :: rest) = byte :: lineTail rest := by
      simp [lineTail, notNewline]
    rw [show bytes ((byte, false) :: rest) = byte :: bytes rest from rfl] at returnless ⊢
    rw [tail, tail]
    exact ih fun member => returnless (mem_cons_of_mem _ member)
  | @gap gap margin rest text blank breaks setBlank visible filled later _ =>
    generalize decide (gap ≠ 10 :: margin) = changed at returnless ⊢
    rw [bytes_append] at returnless ⊢
    -- the gap breaks the line, so the comment ends inside it
    have newline : (10 : Byte) ∈ gap := by
      obtain ⟨byte, member, isBreak⟩ := any_eq_true.mp breaks
      rcases isBreak_iff.mp isBreak with rfl | rfl
      · exact member
      · exact absurd (mem_append_left _ member) returnless
    have shorter : (lineTail gap).length ≠ gap.length := by
      intro whole
      have all := (List.takeWhile_prefix (fun byte : Byte => byte ≠ 10) (l := gap)).eq_of_length whole
      exact absurd rfl (of_decide_eq_true (takeWhile_eq_self_iff.mp all 10 newline))
    have within : (lineTail (gap ++ bytes rest)) = lineTail gap := by
      rwa [lineTail, lineTail, takeWhile_append, if_neg]
    have fits : (lineTail gap).length ≤ gap.length := (List.takeWhile_prefix _).length_le
    rw [within, drop_append_of_le_length (by rw [length_map]; exact fits)]
    have all : ∀ item ∈ gap.map (·, changed), isBlank item.1 = true := forall_mem_map.mpr blank
    refine .inr ⟨_, rest, 10 :: margin, text, rfl, rfl, ?_, nofun,
      fun item member => all item (mem_of_mem_drop member),
      forall_mem_cons.mpr ⟨rfl, setBlank⟩, .inr ⟨filled, visible, later⟩⟩
    rw [ne_eq, drop_eq_nil_iff, length_map]
    omega

end Tails

/-- A match and what it becomes. Blanks and comments may change, strings only if a
line gap inside them is set differently. -/
structure Same (lexeme : Lexeme Marked) (set : Lexeme Byte) : Prop where
  rule : lexeme.rule = set.rule
  text : ∀ kind, lexeme.rule = .token kind → kind ≠ .stringLiteral → bytes lexeme.text = set.text
  string : lexeme.rule = .token .stringLiteral →
    (bytes lexeme.text = set.text ↔ ∀ item ∈ lexeme.text, item.2 = false)

section Step

variable {item : Marked} {text : List Marked} {set : Bytes}

theorem isDigit_visible (byte : Byte) (blank : isBlank byte = true) : isDigit byte = false := by
  revert byte
  decide +kernel

/-- The same bytes up to a place, and a reflowed text behind it. -/
structure Aligned (text : List Marked) (set : Bytes) (count : Nat) : Prop where
  taken : bytes (text.take count) = set.take count
  behind : Reflow (text.drop count) (set.drop count)

theorem Aligned.add (aligned : Aligned text set first)
    (further : Aligned (text.drop first) (set.drop first) second) :
    Aligned text set (first + second) where
  taken := by
    rw [take_add, take_add, bytes, map_append, ← bytes, aligned.taken, ← bytes,
      further.taken]
  behind := by
    have later := further.behind
    rwa [drop_drop, drop_drop] at later

theorem Reflow.aligned_one (reflow : Reflow (item :: text) set) (visible : isBlank item.1 = false) :
    Aligned (item :: text) set 1 := by
  obtain ⟨_, later, rfl, behind⟩ := reflow.visible visible
  exact ⟨rfl, behind⟩

theorem drop_takeWhile (text : Bytes) :
    text.drop (text.takeWhile kind).length = text.dropWhile kind := by
  have split : text.takeWhile kind ++ text.dropWhile kind = text := takeWhile_append_dropWhile
  conv_lhs => arg 2; rw [← split]
  exact drop_left

theorem Reflow.aligned_run (reflow : Reflow text set)
    (visible : ∀ byte, isBlank byte = true → kind byte = false) :
    Aligned text set (set.takeWhile kind).length := by
  obtain ⟨run, behind, _⟩ := reflow.takeWhile visible
  have taken : ∀ whole : Bytes, whole.take (whole.takeWhile kind).length = whole.takeWhile kind :=
    fun whole => (prefix_iff_eq_take.mp (List.takeWhile_prefix kind)).symm
  refine ⟨?_, by rw [drop_takeWhile]; exact behind⟩
  rw [bytes, map_take, ← bytes, taken]
  conv_lhs => rw [← run]
  rw [taken, run]

theorem Reflow.any_head (reflow : Reflow text set)
    (visible : ∀ byte, isBlank byte = true → kind byte = false) :
    (bytes text).head?.any kind = set.head?.any kind := by
  rcases reflow.head with ⟨byte, rest, later, rfl, _, rfl, _⟩ | ⟨blank, byte, later, rfl, setBlank⟩
  · rfl
  rw [head?_cons, Option.any_some, visible byte setBlank]
  cases text with
  | nil => rfl
  | cons item text => simpa [bytes] using visible _ (blank item.1 rfl)

theorem Reflow.keepsFraction (reflow : Reflow text set) :
    fraction (bytes text) = fraction set ∧
      ∀ count, fraction set = some count → Aligned text set count := by
  have blankly : ∀ {byte : Byte} {rest : Bytes}, isBlank byte = true →
      fraction (byte :: rest) = none := by
    intro byte rest blank
    have other : byte ≠ 46 := by
      rintro rfl
      cases blank
    simp [fraction, other]
  rcases reflow.head with ⟨byte, rest, later, rfl, visible, rfl, behind⟩ |
    ⟨blank, byte, later, rfl, setBlank⟩
  · obtain ⟨digits, _⟩ := behind.takeWhile isDigit_visible
    have any := behind.any_head isDigit_visible
    refine ⟨?_, ?_⟩
    · simp only [bytes, map_cons, fraction] at digits any ⊢
      rw [any, digits]
    intro count found
    obtain ⟨_, result⟩ := Option.ite_none_right_eq_some.mp found
    cases result
    exact (reflow.aligned_one visible).add (behind.aligned_run isDigit_visible)
  · rw [blankly setBlank]
    refine ⟨?_, nofun⟩
    cases text with
    | nil => rfl
    | cons item text => exact blankly (blank item.1 rfl)

/-- A number ends where it ended. -/
theorem Reflow.keepsNumber (reflow : Reflow text set) :
    numberMatch (bytes text) = numberMatch set ∧
      Aligned text set (numberMatch set).2 := by
  obtain ⟨whole, behind, rests⟩ := reflow.takeWhile isDigit_visible
  have first := reflow.aligned_run isDigit_visible
  obtain ⟨same, further⟩ := behind.keepsFraction
  rw [numberMatch, numberMatch, whole, ← rests, same]
  refine ⟨rfl, ?_⟩
  cases found : fraction (set.dropWhile isDigit) with
  | none => exact first
  | some count =>
    refine first.add ?_
    rw [drop_takeWhile]
    exact further count found

/-- A word, with what decides whether it is a keyword. -/
theorem Reflow.keepsWord (reflow : Reflow text set) :
    wordKind ((bytes text).takeWhile isWordByte) ((bytes text).dropWhile isWordByte) =
        wordKind (set.takeWhile isWordByte) (set.dropWhile isWordByte) ∧
      ((bytes text).takeWhile isWordByte).length = (set.takeWhile isWordByte).length ∧
      Aligned text set (set.takeWhile isWordByte).length := by
  obtain ⟨whole, behind, rests⟩ := reflow.takeWhile isWordByte_visible
  refine ⟨?_, by rw [whole], reflow.aligned_run isWordByte_visible⟩
  rw [whole, ← rests, wordKind, wordKind, behind.keepsProfile]

theorem symbolMatch_congr (unpaired : next ≠ secondByte first ∨ secondByte first = none)
    (also : other ≠ secondByte first ∨ secondByte first = none) :
    symbolMatch first next = symbolMatch first other := by
  have single : ∀ {next : Option Byte}, (next ≠ secondByte first ∨ secondByte first = none) →
      ((secondByte first).isSome && next = secondByte first) = false := by
    rintro next (different | none)
    · simp [different]
    · simp [none]
  rw [symbolMatch, symbolMatch, single unpaired, single also]

theorem secondByte_visible (first : Byte) : ∀ byte, secondByte first = some byte →
    isBlank byte = false := by
  unfold secondByte
  split_ifs <;> simp [isBlank]

theorem Reflow.keepsSymbol (reflow : Reflow (item :: text) set) (visible : isBlank item.1 = false) :
    symbolMatch item.1 (bytes text).head? = symbolMatch item.1 set.tail.head? ∧
      ((symbolMatch item.1 set.tail.head?).1 = .token .symbol →
        Aligned (item :: text) set (symbolMatch item.1 set.tail.head?).2) := by
  have one := reflow.aligned_one visible
  obtain ⟨_, later, rfl, behind⟩ := reflow.visible visible
  rcases behind.head with ⟨byte, rest, later, rfl, nextVisible, rfl, _⟩ |
    ⟨nextBlank, byte, later, rfl, setBlank⟩
  · have two := one.add (behind.aligned_one nextVisible)
    refine ⟨rfl, fun _ => ?_⟩
    unfold symbolMatch
    split_ifs
    · exact two
    · exact one
    · exact one
  · have unpaired : ∀ {next : Option Byte}, (∀ byte ∈ next, isBlank byte = true) →
        next ≠ secondByte item.1 ∨ secondByte item.1 = none := by
      intro next blankNext
      by_cases none : secondByte item.1 = none
      · exact .inr none
      left
      rintro rfl
      obtain ⟨byte, found⟩ := Option.ne_none_iff_exists'.mp none
      have shown := blankNext byte found
      rw [secondByte_visible _ _ found] at shown
      cases shown
    have setNext : ∀ next ∈ (byte :: later).head?, isBlank next = true := by simpa using setBlank
    refine ⟨symbolMatch_congr (unpaired nextBlank) (unpaired setNext), fun isSymbol => ?_⟩
    rw [symbolMatch]
    split_ifs with pair single
    · simp only [Bool.and_eq_true, decide_eq_true_eq] at pair
      rcases unpaired setNext with different | none
      · exact absurd pair.2 different
      · rw [none] at pair
        cases pair.1
    · exact one
    · exact one

/-- A match of both texts: what it becomes, and what is behind it. -/
def Steps (text : List Marked) (set : Bytes) (found setFound : Rule × Nat) : Prop :=
  Same ⟨found.1, text.take found.2⟩ ⟨setFound.1, set.take setFound.2⟩ ∧ found.1 ≠ .blank ∧
    (Reflow (text.drop found.2) (set.drop setFound.2) ∨
      found.1 = .lineComment ∧ BehindComment (text.drop found.2) (set.drop setFound.2))

theorem Aligned.steps {count : Nat} (aligned : Aligned text set count)
    (known : rule ≠ .blank) (string : rule ≠ .token .stringLiteral) :
    Steps text set (rule, count) (rule, count) :=
  ⟨⟨rfl, fun _ _ _ => aligned.taken, fun same => absurd same string⟩, known, .inl aligned.behind⟩

theorem wordKind_ne_string (word rest : Bytes) : wordKind word rest ≠ .stringLiteral := by
  unfold wordKind
  split_ifs <;> simp

theorem numberMatch_ne_string (text : Bytes) : (numberMatch text).1 ≠ .stringLiteral := by
  unfold numberMatch
  split <;> simp

def Rule.isFault : Rule → Bool
  | .fault _ => true
  | .blank | .lineComment | .blockComment | .token _ => false

/-- A fault of both texts. -/
def Faults (found setFound : Rule × Nat) : Prop :=
  found.1.isFault = true ∧ setFound.1.isFault = true

theorem Reflow.steps_string (reflow : Reflow text later) (quote : item = (34, false)) :
    Steps (item :: text) (item.1 :: later) (stringMatch (bytes text)) (stringMatch later) ∨
      Faults (stringMatch (bytes text)) (stringMatch later) := by
  have kept := reflow.keepsString
  rw [stringMatch, stringMatch]
  generalize stringTail (bytes text) = found at kept ⊢
  generalize stringTail later = setFound at kept ⊢
  cases kept with
  | none => exact .inr ⟨rfl, rfl⟩
  | @some tail setTail kept =>
    simp only [Nat.add_comm 1]
    refine .inl ⟨⟨rfl, fun kind isKind other => ?_, fun _ => ?_⟩, by simp, .inl kept.behind⟩
    · cases isKind
      exact absurd rfl other
    · simp only [take_succ_cons, kept.setTaken, forall_mem_cons, ← kept.same, quote, true_and]
      rw [show bytes ((34, false) :: text.take tail.length) = 34 :: bytes (text.take tail.length)
        from rfl, kept.taken, cons_inj_right]

theorem Reflow.steps_line (reflow : Reflow text later)
    (returnless : 13 ∉ bytes text) {front : List Marked} {setFront : Bytes}
    (fronts : front.length = count) (setFronts : setFront.length = count) :
    Steps (front ++ text) (setFront ++ later) (.lineComment, count + (lineTail (bytes text)).length)
      (.lineComment, count + (lineTail later).length) := by
  refine ⟨⟨rfl, nofun, nofun⟩, by simp, .inr ⟨rfl, ?_⟩⟩
  subst fronts
  rw [drop_length_add_append, ← setFronts, drop_length_add_append]
  exact reflow.keepsLine returnless

theorem Reflow.steps_slash (reflow : Reflow text later) (returnless : 13 ∉ bytes text) :
    Steps (item :: text) (item.1 :: later) (slashMatch (bytes text)) (slashMatch later) ∨
      Faults (slashMatch (bytes text)) (slashMatch later) := by
  have single : ∀ {rest : Bytes}, rest.head? ≠ some 47 → rest.head? ≠ some 42 →
      slashMatch rest = (.token .symbol, 1) := by
    intro rest notSlash notStar
    unfold slashMatch
    split
    · exact absurd rfl notSlash
    · exact absurd rfl notStar
    · rfl
  have one : Aligned (item :: text) (item.1 :: later) 1 := ⟨rfl, reflow⟩
  rcases reflow.head with ⟨byte, rest, further, rfl, _, rfl, behind⟩ |
    ⟨nextBlank, byte, further, rfl, setBlank⟩
  · change Byte at byte
    by_cases second : byte = 47
    · subst second
      have within : 13 ∉ bytes rest := fun member => returnless (mem_cons_of_mem _ member)
      exact .inl (@Reflow.steps_line rest further 2 behind within [item, (47, false)] [item.1, 47]
        rfl rfl)
    · by_cases star : byte = 42
      · subst star
        have kept := @Reflow.keepsBlock _ _ 0 behind
        rw [show bytes ((42, false) :: rest) = 42 :: bytes rest from rfl, slashMatch, slashMatch]
        generalize blockTail 0 (bytes rest) = found at kept ⊢
        generalize blockTail 0 further = setFound at kept ⊢
        cases kept with
        | none => exact .inr ⟨rfl, rfl⟩
        | some after =>
          simp only [Nat.add_comm 2]
          exact .inl ⟨⟨rfl, nofun, nofun⟩, by simp, .inl after⟩
      · rw [single (by simpa [bytes] using second) (by simpa [bytes] using star),
          single (by simpa using second) (by simpa using star)]
        exact .inl (one.steps (by simp) (by simp))
  · have setNext : ∀ next ∈ (byte :: further).head?, isBlank next = true := by simpa using setBlank
    rw [single (fun same => nomatch nextBlank 47 same) (fun same => nomatch nextBlank 42 same),
      single (fun same => nomatch setNext 47 same) (fun same => nomatch setNext 42 same)]
    exact .inl (one.steps (by simp) (by simp))

/-- One match of a reflowed text that begins visibly. -/
theorem Reflow.steps (reflow : Reflow (item :: text) set) (visible : isBlank item.1 = false)
    (returnless : 13 ∉ bytes text) :
    ∃ later, set = item.1 :: later ∧
      (Steps (item :: text) set (nextMatch item.1 (bytes text)) (nextMatch item.1 later) ∨
        Faults (nextMatch item.1 (bytes text)) (nextMatch item.1 later)) := by
  obtain ⟨plain, later, rfl, behind⟩ := reflow.visible visible
  refine ⟨later, rfl, ?_⟩
  have whole : item.1 :: bytes text = bytes (item :: text) := rfl
  simp only [nextMatch, visible, Bool.false_eq_true, if_false]
  by_cases word : isWordStart item.1 = true
  · simp only [word, if_true]
    obtain ⟨kinds, lengths, aligned⟩ := reflow.keepsWord
    rw [whole, kinds, lengths]
    refine .inl (aligned.steps (by simp) ?_)
    intro string
    exact wordKind_ne_string _ _ (Rule.token.inj string)
  simp only [word, Bool.false_eq_true, if_false]
  by_cases digit : isDigit item.1 = true
  · simp only [digit, if_true]
    obtain ⟨same, aligned⟩ := reflow.keepsNumber
    rw [whole, same]
    refine .inl (aligned.steps (by simp) ?_)
    intro string
    exact numberMatch_ne_string _ (Rule.token.inj string)
  simp only [digit, Bool.false_eq_true, if_false]
  by_cases quote : item.1 = 34
  · simp only [quote, if_true]
    have steps := behind.steps_string (Prod.ext quote plain : item = (34, false))
    rwa [quote] at steps
  simp only [quote, if_false]
  by_cases hash : item.1 = 35
  · simp only [hash, if_true]
    have steps := @Reflow.steps_line text later 1 behind returnless [item] [item.1] rfl rfl
    rw [hash] at steps
    exact .inl steps
  simp only [hash, if_false]
  by_cases slash : item.1 = 47
  · simp only [slash, if_true]
    have steps := @Reflow.steps_slash item text later behind returnless
    rwa [slash] at steps
  simp only [slash, if_false]
  obtain ⟨same, aligned⟩ := reflow.keepsSymbol visible
  rw [same]
  by_cases symbol : (symbolMatch item.1 later.head?).1 = .token .symbol
  · have steps := @Aligned.steps _ _ (.token .symbol) _ (aligned symbol) (by simp) (by simp)
    rw [← symbol] at steps
    exact .inl steps
  · have fault : (symbolMatch item.1 later.head?).1.isFault = true := by
      unfold symbolMatch at symbol ⊢
      split_ifs at symbol ⊢
      · exact absurd rfl symbol
      · exact absurd rfl symbol
      · rfl
    exact .inr ⟨fault, fault⟩

end Step

section Lexemes

variable {α : Type} {byte : α → Byte}

theorem lexemesFrom_skip : lexemesFrom byte skip text = lexemesFrom byte 0 (text.drop skip) := by
  induction text generalizing skip with
  | nil => rw [drop_nil, lexemesFrom, lexemesFrom]
  | cons item text ih =>
    cases skip with
    | zero => rfl
    | succ skip => rw [lexemesFrom, drop_succ_cons, ih]

theorem nextMatch_pos (first : Byte) (rest : Bytes) : 0 < (nextMatch first rest).2 := by
  have symbols : ∀ next, 0 < (symbolMatch first next).2 := by
    intro next
    unfold symbolMatch
    split_ifs <;> exact Nat.succ_pos _
  unfold nextMatch
  split_ifs with blank word digit
  · simp [blank]
  · simp [isWordByte, word]
  · have digits : 0 < ((first :: rest).takeWhile isDigit).length := by simp [digit]
    dsimp only
    unfold numberMatch
    split
    · exact Nat.add_pos_left digits _
    · exact digits
  · unfold stringMatch
    split <;> dsimp only <;> omega
  · dsimp only
    omega
  · unfold slashMatch
    split
    · dsimp only
      omega
    · split <;> dsimp only <;> omega
    · exact Nat.succ_pos _
  · exact symbols _

theorem lexemesFrom_cons : lexemesFrom byte 0 (item :: rest) =
      ⟨(nextMatch (byte item) (rest.map byte)).1,
        (item :: rest).take (nextMatch (byte item) (rest.map byte)).2⟩ ::
      lexemesFrom byte 0 ((item :: rest).drop (nextMatch (byte item) (rest.map byte)).2) := by
  rw [lexemesFrom, lexemesFrom_skip]
  obtain ⟨count, counted⟩ := Nat.exists_eq_add_of_lt (nextMatch_pos (byte item) (rest.map byte))
  rw [counted, Nat.add_sub_cancel, drop_succ_cons]

/-- A blank run is one match. -/
theorem lexemesFrom_run (some : run ≠ []) (blank : ∀ item ∈ run, isBlank (byte item) = true)
    (visible : ∀ item ∈ rest.head?, isBlank (byte item) = false) :
    lexemesFrom byte 0 (run ++ rest) = ⟨.blank, run⟩ :: lexemesFrom byte 0 rest := by
  obtain ⟨first, run, rfl⟩ := exists_cons_of_ne_nil some
  have firstBlank := blank first mem_cons_self
  have taken : ((byte first :: (run ++ rest).map byte).takeWhile isBlank).length =
      (first :: run).length := by
    rw [← map_cons, ← cons_append, map_append, takeWhile_append_of_pos]
    · have stops : (rest.map byte).takeWhile isBlank = [] := by
        cases rest with
        | nil => rfl
        | cons item rest => simp [visible item rfl]
      rw [stops, append_nil, length_map]
    · exact forall_mem_map.mpr blank
  have found : nextMatch (byte first) ((run ++ rest).map byte) = (.blank, (first :: run).length) := by
    rw [nextMatch, if_pos firstBlank, taken]
  rw [cons_append, lexemesFrom_cons, found, ← cons_append, take_left, drop_left]

/-- Matches, with a blank behind the last one. -/
def closed : List (Lexeme α) → List (Lexeme α)
  | [] => [⟨.blank, []⟩]
  | [last] => if last.rule = .blank then [last] else [last, ⟨.blank, []⟩]
  | first :: second :: later => first :: closed (second :: later)

theorem closed_cons (goesOn : first.rule ≠ .blank ∨ later ≠ []) :
    closed (first :: later) = first :: closed later := by
  cases later with
  | nil =>
    rcases goesOn with known | absent
    · simp only [closed, if_neg known]
    · cases absent rfl
  | cons second later => rfl

end Lexemes

theorem same_blank {setRun : Bytes} : Same ⟨.blank, run⟩ ⟨.blank, setRun⟩ := ⟨rfl, nofun, nofun⟩

theorem lexemes_cons (first : Byte) (rest : Bytes) :
    lexemes (first :: rest) =
      ⟨(nextMatch first rest).1, (first :: rest).take (nextMatch first rest).2⟩ ::
      lexemes ((first :: rest).drop (nextMatch first rest).2) := by
  have unfolded := @lexemesFrom_cons Byte id first rest
  rwa [map_id] at unfolded

theorem lexemes_run {run rest : Bytes} (some : run ≠ []) (blank : ∀ byte ∈ run, isBlank byte = true)
    (visible : ∀ byte ∈ rest.head?, isBlank byte = false) :
    lexemes (run ++ rest) = ⟨.blank, run⟩ :: lexemes rest :=
  @lexemesFrom_run Byte id run rest some blank visible

/-- No match is a diagnostic. -/
def Faultless {α : Type} (matched : List (Lexeme α)) : Prop :=
  ∀ lexeme ∈ matched, lexeme.rule.isFault = false

theorem faultless_cons :
    Faultless (first :: later) ↔ first.rule.isFault = false ∧ Faultless later :=
  forall_mem_cons

/-- What one step of the comparison needs to know. -/
structure Comparable (text : List Marked) (set : Bytes) : Prop where
  returnless : 13 ∉ bytes text
  known : Faultless (lexemesFrom Prod.fst 0 text) ∨ Faultless (lexemes set)

theorem Comparable.tail {set setRest : Bytes} {lexeme : Lexeme Marked}
    {setLexeme : Lexeme Byte} (comparable : Comparable text set) (suffix : rest <:+ text)
    (split : lexemesFrom Prod.fst 0 text = lexeme :: lexemesFrom Prod.fst 0 rest)
    (setSplit : lexemes set = setLexeme :: lexemes setRest) : Comparable rest setRest := by
  refine ⟨fun member => ?_, ?_⟩
  · exact comparable.returnless ((suffix.map Prod.fst).subset member)
  · have known := comparable.known
    rw [split, setSplit, faultless_cons, faultless_cons] at known
    exact known.imp And.right And.right

/-- The matches of a reflowed text, one by one, with a blank at the end; by induction
on the length of the text. -/
theorem Reflow.lexemes_related {set : Bytes} (reflow : Reflow text set)
    (comparable : Comparable text set) :
    Forall₂ Same (closed (lexemesFrom Prod.fst 0 text)) (lexemes set) := by
  generalize bound : text.length = count
  induction count using Nat.strong_induction_on generalizing text set with
  | _ count ih =>
    subst bound
    have blanks : ∀ {rest setRest}, rest.length ≤ text.length → Blanks rest setRest →
        Comparable rest setRest →
        Forall₂ Same (closed (lexemesFrom Prod.fst 0 rest)) (lexemes setRest) := by
      rintro _ _ short ⟨run, rest, setRun, setRest, rfl, rfl, filled, setFilled, blankRun, blankSet,
        behind⟩ further
      rcases behind with ⟨rfl, rfl⟩ | ⟨more, visible, later⟩
      · have split := @lexemesFrom_run _ Prod.fst run [] filled blankRun (by simp)
        have setSplit := @lexemes_run setRun [] setFilled blankSet (by simp)
        rw [split, setSplit]
        exact .cons same_blank .nil
      · have split := @lexemesFrom_run _ Prod.fst run rest filled blankRun visible
        obtain ⟨item, rest, rfl⟩ := exists_cons_of_ne_nil more
        obtain ⟨_, setLater, rfl, _⟩ := later.visible (visible item rfl)
        have setSplit := @lexemes_run setRun (item.1 :: setLater) setFilled blankSet
          (by simpa using visible item rfl)
        rw [split, setSplit, closed_cons (.inr (by rw [lexemesFrom_cons]; exact cons_ne_nil _ _))]
        refine .cons same_blank (ih _ ?_ later
          (further.tail (suffix_append _ _) split setSplit) rfl)
        have positive := length_pos_iff.mpr filled
        rw [length_append] at short
        omega
    cases text with
    | nil =>
      rw [reflow.nil]
      exact .cons same_blank .nil
    | cons item text =>
      by_cases blank : isBlank item.1 = true
      · exact blanks le_rfl (reflow.blanks nofun (by simpa using blank)) comparable
      obtain ⟨later, rfl, steps | faults⟩ := reflow.steps (Bool.eq_false_iff.mpr blank)
        (fun member => comparable.returnless (mem_cons_of_mem _ member))
      · obtain ⟨same, notBlank, behind⟩ := steps
        have split := @lexemesFrom_cons _ Prod.fst item text
        have setSplit := lexemes_cons item.1 later
        have further := comparable.tail (drop_suffix _ _) split setSplit
        have shorter : ((item :: text).drop (nextMatch item.1 (bytes text)).2).length <
            (item :: text).length := by
          have positive := nextMatch_pos item.1 (bytes text)
          have long : (item :: text).length = text.length + 1 := rfl
          rw [length_drop]
          omega
        rw [split, setSplit, closed_cons (.inl notBlank)]
        refine .cons same ?_
        rcases behind with behind | ⟨_, ⟨finished, setFinished⟩ | behind⟩
        · exact ih _ shorter behind further rfl
        · have none : (item :: text).drop (nextMatch item.1 (text.map Prod.fst)).2 = [] := finished
          rw [none, setFinished]
          exact .cons same_blank .nil
        · exact blanks shorter.le behind further
      · -- a fault would be the first match of either text
        exfalso
        have known := comparable.known
        rw [lexemesFrom_cons, lexemes_cons, faultless_cons, faultless_cons] at known
        rcases known with ⟨known, _⟩ | ⟨known, _⟩
        · exact Bool.eq_false_iff.mp known faults.1
        · exact Bool.eq_false_iff.mp known faults.2

end ShortHand.Tooling
