import ShortHand.Evidence.Emitter
import ShortHand.Evidence.RoundTrip

/-! JSON texts written piece by piece, with strings escaped by `esc`, as trees that the parser
reads back. -/

namespace ShortHand.Evidence

open ShortHand.Library
open List (append_assoc cons_append flatMap_cons forall_mem_cons map_cons map_map nil_append)

variable {N : Numerals}

/-- No control character but the newline. -/
def Clean (text : Bytes) : Prop := ∀ byte ∈ text, 32 ≤ byte ∨ byte = 10

instance (text : Bytes) : Decidable (Clean text) :=
  decidable_of_iff (text.all fun byte => 32 ≤ byte || byte = 10) (by simp [Clean])

/-- The escapes of a report are those of a canonical text, for a clean string. -/
theorem esc_eq_jsonEscape (clean : Clean text) : esc text = jsonEscape text := by
  have same : ∀ byte : Byte, 32 ≤ byte ∨ byte = 10 → escapeChar byte = escapeByte byte := by
    decide +kernel
  induction text with
  | nil => rfl
  | cons byte text ih =>
    obtain ⟨first, later⟩ := forall_mem_cons.mp clean
    rw [esc, jsonEscape, flatMap_cons, flatMap_cons, same byte first, ← esc, ← jsonEscape,
      ih later]

theorem quotedEsc_eq_quoted (clean : Clean text) : quotedEsc text = quoted text := by
  rw [quotedEsc, esc_eq_jsonEscape clean]
  rfl

/-- A string with another control character is not read. -/
theorem parseStringBody_dirty {text rest : Bytes} (dirty : ¬ Clean text) :
    ∃ failure, parseStringBody fuel (esc text ++ rest) = .error failure := by
  induction text generalizing fuel with
  | nil => exact absurd nofun dirty
  | cons byte text ih =>
    cases fuel with
    | zero => exact ⟨_, rfl⟩
    | succ fuel =>
      rw [esc, flatMap_cons, ← esc]
      by_cases first : 32 ≤ byte ∨ byte = 10
      · have later : ¬ Clean text := fun clean => dirty (forall_mem_cons.mpr ⟨first, clean⟩)
        obtain ⟨failure, fails⟩ := @ih fuel later
        have escaped : ∀ code : Byte, (∃ decoded, parseEscape (code :: (esc text ++ rest)) =
            .ok (decoded, esc text ++ rest)) →
            parseStringBody (fuel + 1) (92 :: code :: (esc text ++ rest)) = .error failure := by
          rintro code ⟨decoded, read⟩
          simp [parseStringBody, read, fails, bind, Except.bind]
        refine ⟨failure, ?_⟩
        unfold escapeChar
        split_ifs with special newline
        · rcases Bool.or_eq_true_iff.mp special with quote | backslash
          · rw [of_decide_eq_true quote]
            exact escaped 34 ⟨_, rfl⟩
          · rw [of_decide_eq_true backslash]
            exact escaped 92 ⟨_, rfl⟩
        · exact escaped 110 ⟨_, rfl⟩
        · simp only [Bool.or_eq_true, decide_eq_true_eq, not_or] at special
          have visible : ¬ byte < 32 := not_lt.mpr (first.resolve_right newline)
          simp only [cons_append, nil_append, parseStringBody, if_neg special.1,
            if_neg visible, if_neg special.2, fails, bind, Except.bind]
      · rw [not_or, not_le] at first
        have plain : escapeChar byte = [byte] := by
          have all : ∀ byte : Byte, byte < 32 ∧ ¬ byte = 10 → escapeChar byte = [byte] := by
            decide +kernel
          exact all byte first
        have other : byte ≠ 34 := by
          rintro rfl
          exact absurd first.1 (by decide)
        refine ⟨⟨"unescaped control character in string", (esc text ++ rest).length⟩, ?_⟩
        rw [plain]
        simp only [cons_append, nil_append, parseStringBody, if_neg other, if_pos first.1]
        rfl

/-- The text does not close a list, and reading stops in it, wherever it ends. -/
structure Chokes (N : Numerals) (levels : Nat) (text : Bytes) : Prop where
  opens : ∀ rest tail, skipWhitespace (text ++ rest) ≠ 93 :: tail
  fails : ∀ rest, Follows rest → ∃ failure,
    (parseValue levels (text ++ rest) : Except Fault (Json N × Bytes)) = .error failure

section Choking

variable {levels : Nat} {text blanks rest : Bytes}

theorem Chokes.blank (chokes : Chokes N levels text) (blank : Blank blanks) :
    Chokes N levels (blanks ++ text) := by
  refine ⟨fun rest tail => ?_, fun rest follows => ?_⟩
  · rw [append_assoc, skipWhitespace_blank blank]
    exact chokes.opens rest tail
  cases levels with
  | zero => exact ⟨_, rfl⟩
  | succ levels =>
    rw [append_assoc, ← parseValue_skipWhitespace, skipWhitespace_blank blank,
      parseValue_skipWhitespace]
    exact chokes.fails rest follows

theorem Chokes.skips (chokes : Chokes N levels text) (follows : Follows rest) :
    ∃ failure, (parseValue levels (skipWhitespace (text ++ rest)) : Except Fault (Json N × Bytes)) =
      .error failure := by
  cases levels with
  | zero => exact ⟨_, rfl⟩
  | succ levels =>
    rw [parseValue_skipWhitespace]
    exact chokes.fails rest follows

theorem opens_of_head (visible : isSpace byte = false) (other : byte ≠ 93) :
    ∀ rest after, skipWhitespace (byte :: tail ++ rest) ≠ 93 :: after := by
  intro rest after closes
  rw [cons_append, skipWhitespace_cons visible] at closes
  exact other (List.cons.inj closes).1

theorem chokes_text (dirty : ¬ Clean value) : Chokes N (levels + 1) (quotedEsc value) := by
  refine ⟨opens_of_head rfl (by decide), fun rest _ => ?_⟩
  obtain ⟨failure, fails⟩ := @parseStringBody_dirty ((esc value ++ 34 :: rest).length + 1) value
    (34 :: rest) dirty
  have text : quotedEsc value ++ rest = 34 :: (esc value ++ 34 :: rest) := by
    simp [quotedEsc]
  refine ⟨failure, ?_⟩
  rw [text, parseValue, skipWhitespace_cons rfl]
  simp only [parseString, fails, bind, Except.bind]
  rfl

/-- A first item that is not read, or a later one behind items that are. -/
inductive ChokesAmong (N : Numerals) (levels : Nat) : List (Bytes × Json N) → Prop where
  | here {item : Bytes × Json N} {items : List (Bytes × Json N)} (chokes : Chokes N levels item.1) :
    ChokesAmong N levels (item :: items)
  | later {item : Bytes × Json N} {items : List (Bytes × Json N)}
      (spells : Spells levels item.1 item.2) (among : ChokesAmong N levels items) :
    ChokesAmong N levels (item :: items)

/-- One of the items that are not good is the first. -/
theorem chokesAmong_of {α : Type} {items : List α} {written : α → Bytes × Json N} {good : α → Prop}
    (reads : ∀ item ∈ items, good item → Spells levels (written item).1 (written item).2)
    (chokes : ∀ item ∈ items, ¬ good item → Chokes N levels (written item).1)
    (bad : ¬ ∀ item ∈ items, good item) : ChokesAmong N levels (items.map written) := by
  induction items with
  | nil => exact absurd nofun bad
  | cons item items ih =>
    obtain ⟨readsFirst, readsLater⟩ := forall_mem_cons.mp reads
    obtain ⟨chokesFirst, chokesLater⟩ := forall_mem_cons.mp chokes
    by_cases first : good item
    · refine .later (readsFirst first) (ih readsLater chokesLater fun later => ?_)
      exact bad (forall_mem_cons.mpr ⟨first, later⟩)
    · exact .here (chokesFirst first)

theorem parseElements_chokes (among : ChokesAmong N levels (item :: items)) (blank : Blank blanks) :
    ∃ failure, parseElements (parseValue levels) fuel
      (skipWhitespace (item.1 ++ piecesAfter 93 (items.map Prod.fst) blanks rest)) =
        (.error failure : Except Fault (List (Json N) × Bytes)) := by
  induction fuel generalizing item items with
  | zero => exact ⟨_, rfl⟩
  | succ fuel ih =>
    cases among with
    | here chokes =>
      obtain ⟨failure, fails⟩ := @Chokes.skips _ _ _
        (piecesAfter 93 (items.map Prod.fst) blanks rest) chokes (follows_piecesAfter (.inl rfl) blank)
      refine ⟨failure, ?_⟩
      rw [parseElements, fails]
      rfl
    | later spells further =>
      cases items with
      | nil => cases further
      | cons next items =>
        obtain ⟨failure, fails⟩ := ih further
        obtain ⟨left, blankLeft, first⟩ := spells.reads.skips
          (@follows_piecesAfter blanks rest 93 ((next :: items).map Prod.fst) (.inl rfl) blank)
        refine ⟨failure, ?_⟩
        rw [parseElements, first]
        simp only [bind, Except.bind, skipWhitespace_blank blankLeft, map_cons,
          skipWhitespace_comma, fails]

theorem chokes_array (among : ChokesAmong N levels items) (blank : Blank blanks) :
    Chokes N (levels + 1) (91 :: interleaved [44] (items.map Prod.fst) ++ blanks ++ [93]) := by
  refine ⟨opens_of_head rfl (by decide), fun rest _ => ?_⟩
  have bracket : isSpace 91 = false := rfl
  cases items with
  | nil => cases among
  | cons item items =>
    have opens : ∀ tail, skipWhitespace
        (item.1 ++ piecesAfter 93 (items.map Prod.fst) blanks rest) ≠ 93 :: tail := by
      intro tail
      cases among with
      | here chokes => exact chokes.opens _ tail
      | later spells _ => exact spells.reads.open_ (follows_piecesAfter (.inl rfl) blank) tail
    obtain ⟨failure, fails⟩ := @parseElements_chokes _ _ _ rest _ _
      ((skipWhitespace (item.1 ++ piecesAfter 93 (items.map Prod.fst) blanks rest)).length + 1) among blank
    refine ⟨failure, ?_⟩
    simp only [cons_append, append_assoc, nil_append, parseValue,
      skipWhitespace_cons bracket]
    change parseArray _ _ = _
    rw [map_cons, interleaved_piecesAfter, parseArray]
    split
    · rename_i closes
      exact absurd closes (opens _)
    · rw [fails]
      rfl

/-- A member whose value is not read, or whose key was there before, or such a later one. -/
theorem parseMembers_chokes {member : Member N}
    {members : List (Member N)} (keyed : ∀ entry ∈ member :: members, entry.Keyed)
    (among : ChokesAmong N levels ((member :: members).map fun entry => (entry.text, entry.value)))
    (blank : Blank blanks) : ∃ failure, parseMembers (parseValue levels) fuel earlier
      (skipWhitespace (member.written ++ piecesAfter 125 (members.map Member.written) blanks rest)) =
        (.error failure : Except Fault (List (Bytes × Json N) × Bytes)) := by
  induction fuel generalizing earlier member members with
  | zero => exact ⟨_, rfl⟩
  | succ fuel ih =>
    obtain ⟨this, later⟩ := forall_mem_cons.mp keyed
    have follows := @follows_piecesAfter blanks rest 125 (members.map Member.written) (.inr rfl) blank
    rw [parseMembers_keyed this]
    cases among with
    | here chokes =>
      obtain ⟨failure, fails⟩ := chokes.fails _ follows
      exact ⟨failure, by rw [fails]; rfl⟩
    | later spells further =>
      obtain ⟨left, blankLeft, read⟩ := spells.reads _ follows
      rw [read]
      cases emplaced : emplaceEntry member.key member.value earlier with
      | none => exact ⟨_, by simp only [bind, Except.bind, emplaced]; rfl⟩
      | some grown =>
        cases members with
        | nil => cases further
        | cons next members =>
          obtain ⟨failure, fails⟩ := @ih grown next members later further
          refine ⟨failure, ?_⟩
          simp only [bind, Except.bind, emplaced, skipWhitespace_blank blankLeft, map_cons,
            skipWhitespace_comma]
          exact fails

theorem chokes_object {members : List (Bytes × Bytes × Json N)}
    (among : ChokesAmong N levels (members.map Prod.snd)) (blank : Blank blanks)
    (blankEnd : Blank closing) :
    Chokes N (levels + 1)
      (123 :: blanks ++ interleaved (44 :: blanks) (members.map memberText) ++ closing ++ [125]) := by
  refine ⟨opens_of_head rfl (by decide), fun rest _ => ?_⟩
  have brace : isSpace 123 = false := rfl
  obtain ⟨last, blankLast, text⟩ := interleaved_blanks blank blankEnd members
  have keyed : ∀ member ∈ members.map (escapedMember blanks), member.Keyed :=
    List.forall_mem_map.mpr fun member _ => escapedMember_keyed blank member
  rw [cons_append, cons_append, text]
  cases members with
  | nil => cases among
  | cons member members =>
    obtain ⟨failure, fails⟩ := @parseMembers_chokes _ _ _ rest
      ((skipWhitespace ((escapedMember blanks member).written ++ piecesAfter 125
        ((members.map (escapedMember blanks)).map Member.written) last rest)).length + 1) []
      (escapedMember blanks member) (members.map (escapedMember blanks)) keyed
      (by rw [← map_cons, map_map]; exact among) blankLast
    refine ⟨failure, ?_⟩
    simp only [cons_append, append_assoc, nil_append, parseValue,
      skipWhitespace_cons brace]
    change parseObject _ _ = _
    rw [map_cons, map_cons, interleaved_piecesAfter, parseObject]
    split
    · rename_i closes
      exact absurd closes (keyed _ List.mem_cons_self).open_
    · rw [fails]
      rfl

end Choking

/-- A value as it is written: strings escaped by `esc`, numbers as they are, members in
order with the same blanks around each. -/
inductive Written where
  | text (value : Bytes)
  | number (token : Bytes)
  | boolean (value : Bool)
  | array (items : List Written)
  | object (blanks space closing : Bytes) (members : List (Bytes × Written))

mutual

def Written.render : Written → Bytes
  | .text value => quotedEsc value
  | .number token => token
  | .boolean value => boolText value
  | .array items => 91 :: interleaved [44] (renderItems items) ++ [93]
  | .object blanks space closing members =>
    123 :: blanks ++ interleaved (44 :: blanks) (renderMembers space members) ++ closing ++ [125]

def renderItems : List Written → List Bytes
  | [] => []
  | item :: items => item.render :: renderItems items

def renderMembers (space : Bytes) : List (Bytes × Written) → List Bytes
  | [] => []
  | (key, member) :: members =>
    (quotedEsc key ++ 58 :: (space ++ member.render)) :: renderMembers space members

end

/-- A number token that the library reads. -/
def Legible (N : Numerals) (token : Bytes) : Prop :=
  scanNumber token = .ok (token, []) ∧ (N.read token).isSome = true

mutual

/-- The document with every string as it was before it was escaped. -/
def Written.document (N : Numerals) : Written → Json N
  | .text value => .string value
  | .number token => (N.read token).elim .null .number
  | .boolean value => .boolean value
  | .array items => .array (documentItems N items)
  | .object _ _ _ members => .object (OrderedMap.ofEntries (documentMembers N members)).entries

def documentItems (N : Numerals) : List Written → List (Json N)
  | [] => []
  | item :: items => item.document N :: documentItems N items

def documentMembers (N : Numerals) : List (Bytes × Written) → List (Bytes × Json N)
  | [] => []
  | (key, member) :: members => (key, member.document N) :: documentMembers N members

end

mutual

/-- All strings are clean and all numbers can be read. -/
def Written.Sound (N : Numerals) : Written → Prop
  | .text value => Clean value
  | .number token => Legible N token
  | .boolean _ => True
  | .array items => soundItems N items
  | .object _ _ _ members => soundMembers N members

def soundItems (N : Numerals) : List Written → Prop
  | [] => True
  | item :: items => item.Sound N ∧ soundItems N items

def soundMembers (N : Numerals) : List (Bytes × Written) → Prop
  | [] => True
  | (_, member) :: members => member.Sound N ∧ soundMembers N members

end

theorem renderItems_eq (items : List Written) : renderItems items = items.map Written.render := by
  induction items with
  | nil => rfl
  | cons item items ih => rw [renderItems, ih, map_cons]

theorem renderMembers_eq (space : Bytes) (members : List (Bytes × Written)) :
    renderMembers space members =
      members.map fun member => quotedEsc member.1 ++ 58 :: (space ++ member.2.render) := by
  induction members with
  | nil => rfl
  | cons member members ih => rw [renderMembers, ih, map_cons]

theorem documentItems_eq (items : List Written) :
    documentItems N items = items.map (Written.document N) := by
  induction items with
  | nil => rfl
  | cons item items ih => rw [documentItems, ih, map_cons]

theorem documentMembers_eq (members : List (Bytes × Written)) :
    documentMembers N members = members.map fun member => (member.1, member.2.document N) := by
  induction members with
  | nil => rfl
  | cons member members ih => rw [documentMembers, ih, map_cons]

theorem soundItems_iff : soundItems N items ↔ ∀ item ∈ items, item.Sound N := by
  induction items with
  | nil => exact ⟨nofun, fun _ => trivial⟩
  | cons item items ih =>
    rw [soundItems, ih, forall_mem_cons]

theorem soundMembers_iff : soundMembers N members ↔ ∀ member ∈ members, member.2.Sound N := by
  induction members with
  | nil => exact ⟨nofun, fun _ => trivial⟩
  | cons member members ih =>
    rw [soundMembers, ih, forall_mem_cons]

/-- At most so many levels deep, with distinct clean keys and blanks that are blank. A
number is a number token, or what a stream writes for an infinite one. -/
def Written.Formed : Nat → Written → Prop
  | 0, _ => False
  | _ + 1, .text _ | _ + 1, .boolean _ => True
  | _ + 1, .number token => scanNumber token = .ok (token, []) ∨ token = ascii "inf"
  | levels + 1, .array items => ∀ item ∈ items, item.Formed levels
  | levels + 1, .object blanks space closing members =>
    Blank blanks ∧ Blank space ∧ Blank closing ∧ (∀ member ∈ members, Clean member.1) ∧
      (members.map Prod.fst).Nodup ∧ ∀ member ∈ members, member.2.Formed levels

theorem parse_number (formed : scanNumber token = .ok (token, []) ∨ token = ascii "inf") :
    (Legible N token → Spells (levels + 1) token ((N.read token).elim .null .number : Json N)) ∧
      (¬ Legible N token → Chokes N (levels + 1) token) := by
  rcases formed with scanned | rfl
  · have number := scanNumber_iff.mp scanned
    constructor
    · rintro ⟨_, read⟩
      obtain ⟨value, same⟩ := Option.isSome_iff_exists.mp read
      rw [same]
      exact .number number same
    · intro illegible
      obtain ⟨byte, tail, rfl, kind⟩ := number.head
      obtain ⟨visible, other, _⟩ := number_head byte kind
      refine ⟨opens_of_head visible other, fun rest follows => ?_⟩
      have unread : N.read (byte :: tail) = none := by
        cases same : N.read (byte :: tail) with
        | none => rfl
        | some value => exact absurd ⟨scanned, by rw [same]; rfl⟩ illegible
      rw [parseValue_number number, parseNumber, scanNumber_complete number follows]
      simp [unread, bind, Except.bind, fault]
  · constructor
    · rintro ⟨scanned, _⟩
      exact absurd scanned (by decide)
    · intro _
      refine ⟨opens_of_head rfl (by decide), fun rest _ => ?_⟩
      exact ⟨⟨"unexpected token", (ascii "inf" ++ rest).length⟩, rfl⟩

/-- What is written is read back if it is sound, and otherwise not read at all. -/
theorem Written.parse {written : Written} (formed : written.Formed levels) :
    (written.Sound N → Spells levels written.render (written.document N)) ∧
      (¬ written.Sound N → Chokes N levels written.render) := by
  induction levels generalizing written with
  | zero => cases formed
  | succ levels ih =>
    cases written with
    | text value =>
      refine ⟨fun clean => ?_, fun dirty => ?_⟩
      · rw [render, quotedEsc_eq_quoted clean]
        exact @spells_canonical _ (levels + 1) (.string value) trivial
      · rw [render]
        exact chokes_text dirty
    | number token =>
      exact parse_number formed
    | boolean value =>
      refine ⟨fun _ => ?_, fun impossible => absurd trivial impossible⟩
      have spelled := @spells_canonical N (levels + 1) (.boolean value) trivial
      cases value <;> exact spelled
    | array items =>
      have parses := fun item (member : item ∈ items) => ih (formed item member)
      let written := fun item : Written => (item.render, item.document N)
      have blank := blank_nil
      have rendered : (Written.array items).render =
          91 :: interleaved [44] ((items.map written).map Prod.fst) ++ [] ++ [93] := by
        rw [render, renderItems_eq, map_map, List.append_nil]
        rfl
      have read : (Written.array items).document N = .array ((items.map written).map Prod.snd) := by
        rw [document, documentItems_eq, map_map]
        rfl
      rw [rendered, read, Sound, soundItems_iff]
      constructor
      · intro sound
        exact .array (List.forall_mem_map.mpr fun item member =>
          (parses item member).1 (sound item member)) blank
      · intro unsound
        exact chokes_array (chokesAmong_of (fun item member => (parses item member).1)
          (fun item member => (parses item member).2) unsound) blank
    | object blanks space closing members =>
      obtain ⟨blank, blankSpace, blankEnd, clean, distinct, each⟩ := formed
      have parses := fun member (listed : member ∈ members) => ih (each member listed)
      let written := fun member : Bytes × Written =>
        (member.1, space ++ member.2.render, member.2.document N)
      have texts : renderMembers space members = (members.map written).map memberText := by
        rw [renderMembers_eq, map_map]
        refine List.map_congr_left fun member listed => ?_
        rw [quotedEsc_eq_quoted (clean member listed)]
        rfl
      have read : (Written.object blanks space closing members).document N =
          .object (OrderedMap.ofEntries ((members.map written).map memberEntry)).entries := by
        rw [document, documentMembers_eq, map_map]
        rfl
      rw [render, texts, read, Sound, soundMembers_iff]
      constructor
      · intro sound
        refine spells_object (List.forall_mem_map.mpr fun member listed =>
          ((parses member listed).1 (sound member listed)).blank blankSpace) blank blankEnd ?_
        rwa [map_map]
      · intro unsound
        refine chokes_object ?_ blank blankEnd
        rw [map_map]
        exact chokesAmong_of (fun member listed sound =>
          ((parses member listed).1 sound).blank blankSpace) (fun member listed unsound =>
          ((parses member listed).2 unsound).blank blankSpace) unsound

/-- A document written with a final newline is read exactly if it is sound. -/
theorem parseJson_written {written : Written} (formed : written.Formed (kMaxJsonDepth + 1)) :
    parseJson N (written.render ++ [10]) = .ok (written.document N) ↔ written.Sound N := by
  obtain ⟨spells, chokes⟩ := @Written.parse N _ _ formed
  constructor
  · intro parsed
    by_contra unsound
    obtain ⟨failure, fails⟩ := (chokes unsound).skips (@follows_of 10 [] (.inr (.inr (.inr rfl))))
    simp only [parseJson, parseDocument, fails] at parsed
    cases parsed
  · intro sound
    exact parseJson_spelled (spells sound)

end ShortHand.Evidence
