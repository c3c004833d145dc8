import ShortHand.Evidence.Grammar

/-! The parser inverts the canonical text, and whatever it accepts has its objects in
key order within the depth limit. -/

namespace ShortHand.Evidence

open ShortHand.Library List
open List (cons_append forall_mem_append forall_mem_cons map_map)

variable {N : Numerals} {levels : Nat} {text : Bytes} {value : Json N}

/-- Objects in key order, at most so many levels deep. -/
def Json.Within : Nat → Json N → Prop
  | 0, _ => False
  | levels + 1, .array items => ∀ item ∈ items, item.Within levels
  | levels + 1, .object members => InOrder members ∧ ∀ member ∈ members, member.2.Within levels
  | _ + 1, _ => True

theorem hexValue_hexDigit : ∀ value < 16, hexValue (hexDigit value) = some value := by decide

theorem charText_control {byte : Byte} (small : byte < 32) :
    CharText [92, 117, 48, 48, hexDigit (byte.val / 16), hexDigit (byte.val % 16)] [byte] := by
  have bound : byte.val < 32 := small
  have hex : HexText [48, 48, hexDigit (byte.val / 16), hexDigit (byte.val % 16)]
      (((0 * 16 + 0) * 16 + byte.val / 16) * 16 + byte.val % 16) :=
    .digits (by decide) (by decide) (hexValue_hexDigit _ (by omega)) (hexValue_hexDigit _ (by omega))
  have code : ((0 * 16 + 0) * 16 + byte.val / 16) * 16 + byte.val % 16 = byte.val := by omega
  rw [code] at hex
  have single : byte.val ≤ 0x7F := by omega
  have decoded : utf8 byte.val = [byte] := by
    rw [utf8, if_pos single, Fin.ofNat_val_eq_self]
  rw [← decoded]
  exact .scalar hex (by omega)

/-- One byte of a string is read back from its escape. -/
theorem charText_escapeByte (byte : Byte) : CharText (escapeByte byte) [byte] := by
  unfold escapeByte
  split_ifs with quote backslash backspace formfeed newline return_ tab control
  · exact .escape (by simp [quote, escapes])
  · exact .escape (by simp [backslash, escapes])
  · exact .escape (by simp [backspace, escapes])
  · exact .escape (by simp [formfeed, escapes])
  · exact .escape (by simp [newline, escapes])
  · exact .escape (by simp [return_, escapes])
  · exact .escape (by simp [tab, escapes])
  · exact charText_control control
  · exact .plain (not_lt.mp control) quote backslash

theorem stringText_jsonEscape (value : Bytes) : StringText (jsonEscape value) value := by
  induction value with
  | nil => exact .nil
  | cons byte value ih => exact .cons (charText_escapeByte byte) ih

/-- The text of a member from its key and the text of its value. -/
def memberText (member : Bytes × Bytes × Json N) : Bytes := quoted member.1 ++ 58 :: member.2.1

/-- The entry of a member. -/
def memberEntry (member : Bytes × Bytes × Json N) : Bytes × Json N := (member.1, member.2.2)

/-- A member behind blanks, with an escaped key. -/
def escapedMember (blanks : Bytes) (member : Bytes × Bytes × Json N) : Member N :=
  ⟨blanks, jsonEscape member.1, [], member.2.1, member.1, member.2.2⟩

theorem escapedMember_keyed (blank : Blank blanks) (member : Bytes × Bytes × Json N) :
    (escapedMember blanks member).Keyed :=
  ⟨blank, stringText_jsonEscape member.1, blank_nil⟩

/-- Blanks behind each separator belong to the members. -/
theorem interleaved_blanks (blank : Blank blanks) (blankEnd : Blank closing)
    (members : List (Bytes × Bytes × Json N)) :
    ∃ last, Blank last ∧
      blanks ++ interleaved (44 :: blanks) (members.map memberText) ++ closing =
        interleaved [44] ((members.map (escapedMember blanks)).map Member.written) ++ last := by
  cases members with
  | nil => exact ⟨blanks ++ closing, forall_mem_append.mpr ⟨blank, blankEnd⟩, by simp [interleaved]⟩
  | cons member members =>
    refine ⟨closing, blankEnd, ?_⟩
    simp [interleaved, Member.written, escapedMember, memberText, quoted, flatMap_map]

/-- An object with the same blanks in front of its members. -/
theorem spells_object {members : List (Bytes × Bytes × Json N)}
    (each : ∀ entry ∈ members, Spells levels entry.2.1 entry.2.2) (blank : Blank blanks)
    (blankEnd : Blank closing) (distinct : (members.map Prod.fst).Nodup) :
    Spells (levels + 1)
      (123 :: blanks ++ interleaved (44 :: blanks) (members.map memberText) ++ closing ++ [125])
      (.object (OrderedMap.ofEntries (members.map memberEntry)).entries) := by
  obtain ⟨last, blankLast, text⟩ := interleaved_blanks blank blankEnd members
  have spelled := @Spells.object N levels last (members.map (escapedMember blanks))
    (forall_mem_map.mpr fun member _ => escapedMember_keyed blank member)
    (forall_mem_map.mpr each) (by rwa [map_map]) blankLast
  have entries : (members.map (escapedMember blanks)).map Member.entry = members.map memberEntry := by
    rw [map_map]
    rfl
  rw [cons_append, ← text, entries] at spelled
  simpa using spelled

theorem canonicalItems_eq (items : List (Json N)) :
    canonicalItems items = interleaved [44] (items.map canonical) := by
  have later : ∀ items : List (Json N), laterItems items = (items.map canonical).flatMap ([44] ++ ·) := by
    intro items
    induction items with
    | nil => rfl
    | cons item items ih => simp [laterItems, ih]
  cases items with
  | nil => rfl
  | cons item items => rw [canonicalItems, later]; rfl

theorem canonicalMembers_eq (members : List (Bytes × Json N)) :
    canonicalMembers members =
      interleaved [44] (members.map fun entry => memberText (entry.1, canonical entry.2, entry.2)) := by
  have later : ∀ members : List (Bytes × Json N), laterMembers members =
      (members.map fun entry => memberText (entry.1, canonical entry.2, entry.2)).flatMap ([44] ++ ·) := by
    intro members
    induction members with
    | nil => rfl
    | cons entry members ih => simp [laterMembers, ih, memberText]
  cases members with
  | nil => rfl
  | cons entry members => simp [canonicalMembers, later, interleaved, memberText]

/-- The canonical text of a value is a text of it. -/
theorem spells_canonical (within : value.Within levels) : Spells levels (canonical value) value := by
  induction levels generalizing value with
  | zero => cases within
  | succ levels ih =>
    cases value with
    | null => exact .null
    | boolean value => exact .boolean
    | string value =>
      exact .string (stringText_jsonEscape value)
    | number value =>
      exact .number (scanNumber_iff.mp (N.scan_text value)) (N.read_text value)
    | array items =>
      have spelled := @Spells.array N levels [] (items.map fun item => (canonical item, item))
        (forall_mem_map.mpr fun item member => ih (within item member)) blank_nil
      simpa [canonical, canonicalItems_eq, Function.comp_def] using spelled
    | object members =>
      have spelled := @spells_object N levels [] []
        (members.map fun entry => (entry.1, canonical entry.2, entry.2))
        (forall_mem_map.mpr fun entry member => ih (within.2 entry member)) blank_nil blank_nil
        (by rw [map_map]; exact within.1.nodup)
      have entries : (members.map fun entry => (entry.1, canonical entry.2, entry.2)).map memberEntry =
          members := by
        simp [memberEntry, Function.comp_def]
      rw [entries, OrderedMap.ofEntries_inOrder within.1] at spelled
      simpa [canonical, canonicalMembers_eq, Function.comp_def] using spelled

/-- A document is read from the text of its value and a newline. -/
theorem parseJson_spelled (spells : Spells (kMaxJsonDepth + 1) text value) :
    parseJson N (text ++ [10]) = .ok value :=
  parseJson_iff.mpr (.padded blank_nil spells (by simp [Blank, isSpace]))

theorem parseJson_canonical (within : value.Within (kMaxJsonDepth + 1)) :
    parseJson N (canonical value ++ [10]) = .ok value :=
  parseJson_spelled (spells_canonical within)

/-- Numbers as their own tokens. -/
def tokenNumerals : Numerals where
  Double := { token : Bytes // scanNumber token = .ok (token, []) ∧ token.length ≤ 24 }
  decEq := inferInstance
  ofNat value :=
    if exact_ : scanNumber (ascii (toString value)) = .ok (ascii (toString value), []) ∧
        (ascii (toString value)).length ≤ 24 then ⟨ascii (toString value), exact_⟩
    else ⟨[48], by decide⟩
  text := Subtype.val
  read token :=
    if exact_ : scanNumber token = .ok (token, []) ∧ token.length ≤ 24 then some ⟨token, exact_⟩
    else none
  scan_text value := value.property.1
  read_text value := dif_pos value.property
  text_length value _ := by
    split
    · exact And.right ‹_›
    · decide

/-- The printer of the qualification reports, which writes 17 digits where the other
writes as many as a number can need; those are 17. -/
def qualificationJson (value : Json N) : Bytes := canonical value

theorem parseJson_canonical_text (within : value.Within (kMaxJsonDepth + 1)) :
    parseJson N (canonical value) = .ok value :=
  parseJson_iff.mpr (spells_canonical within)

/-- Values are read back from either text, which therefore determines them. -/
theorem canonical_round_trip (value : Json N) (within : value.Within (kMaxJsonDepth + 1)) :
    parseJson N (canonical value) = .ok value ∧ parseJson N (qualificationJson value) = .ok value ∧
      ∀ other : Json N, other.Within (kMaxJsonDepth + 1) →
        (canonical other = canonical value → other = value) ∧
        (qualificationJson other = qualificationJson value → other = value) := by
  have read := parseJson_canonical_text within
  have determined : ∀ other : Json N, other.Within (kMaxJsonDepth + 1) →
      canonical other = canonical value → other = value := by
    intro other also same
    have again := parseJson_canonical_text also
    rw [same, read] at again
    exact (Except.ok.inj again).symm
  exact ⟨read, read, fun other also => ⟨determined other also, determined other also⟩⟩

/-- A nested value with a control character in a key and a number. -/
def nestedSample : Json tokenNumerals :=
  .array [.object [([1, 34], .number (tokenNumerals.ofNat 0))], .string [200, 10], .null]

theorem nestedSample_round_trip :
    parseJson tokenNumerals (canonical nestedSample) = .ok nestedSample :=
  (canonical_round_trip nestedSample (by simp [nestedSample, Json.Within, InOrder, kMaxJsonDepth])).1

theorem Spells.within (spells : Spells levels text value) : value.Within levels := by
  induction spells with
  | null | boolean | number | string => trivial
  | array _ _ ih => exact forall_mem_map.mpr ih
  | object keyed _ distinct _ ih =>
    refine ⟨OrderedMap.ordered _, fun entry inside => ?_⟩
    have written := (OrderedMap.ofEntries_perm (by rwa [map_map])).mem_iff.mp inside
    obtain ⟨member, listed, rfl⟩ := mem_map.mp written
    exact ih member listed
  | padded _ _ _ ih => exact ih

theorem parseJson_within (parsed : parseJson N source = .ok value) :
    value.Within (kMaxJsonDepth + 1) :=
  (parseJson_iff.mp parsed).within

/-- A byte a document can have: printable, or a blank between tokens. -/
def Visible (byte : Byte) : Prop := 32 ≤ byte ∨ isSpace byte = true

theorem printable_of_digit : ∀ byte : Byte, isDigit byte = true → 32 ≤ byte := by decide +kernel

theorem NumberText.printable (number : NumberText token) : ∀ byte ∈ token, 32 ≤ byte := by
  have digits : ∀ {text : Bytes}, Digits text → ∀ byte ∈ text, 32 ≤ byte :=
    fun isDigits byte inside => printable_of_digit byte (isDigits.digits byte inside)
  obtain ⟨signed, integer, fraction, exponent⟩ := number
  refine forall_mem_append.mpr ⟨forall_mem_append.mpr ⟨forall_mem_append.mpr ⟨?_, ?_⟩, ?_⟩, ?_⟩
  · rcases signed with rfl | rfl <;> simp
  · cases integer with
    | zero => simp
    | positive isDigits => exact digits isDigits
  · cases fraction with
    | none => nofun
    | point isDigits => exact forall_mem_cons.mpr ⟨by decide, digits isDigits⟩
  · cases exponent with
    | none => nofun
    | power marker signed isDigits =>
      refine forall_mem_append.mpr ⟨forall_mem_cons.mpr ⟨?_, ?_⟩, digits isDigits⟩
      · rcases marker with rfl | rfl <;> decide
      · rcases signed with rfl | rfl | rfl <;> simp

theorem HexText.printable (hex : HexText text code) : ∀ byte ∈ text, 32 ≤ byte := by
  have visible : ∀ byte : Byte, (hexValue byte).isSome = true → 32 ≤ byte := by decide +kernel
  obtain ⟨first, second, third, fourth⟩ := hex
  simp only [forall_mem_cons]
  exact ⟨visible _ (by rw [first]; rfl), visible _ (by rw [second]; rfl),
    visible _ (by rw [third]; rfl), visible _ (by rw [fourth]; rfl), nofun⟩

theorem StringText.printable (spelled : StringText text decoded) : ∀ byte ∈ text, 32 ≤ byte := by
  induction spelled with
  | nil => nofun
  | cons char _ ih =>
    refine forall_mem_append.mpr ⟨?_, ih⟩
    cases char with
    | plain visible => exact forall_mem_singleton.mpr visible
    | escape listed =>
      have letters : ∀ entry ∈ escapes, 32 ≤ entry.1 := by simp [escapes]
      exact forall_mem_cons.mpr ⟨by decide, forall_mem_singleton.mpr (letters _ listed)⟩
    | scalar hex =>
      exact forall_mem_cons.mpr ⟨by decide, forall_mem_cons.mpr ⟨by decide, hex.printable⟩⟩
    | pair high _ low =>
      simp only [cons_append, forall_mem_cons, forall_mem_append]
      exact ⟨by decide, by decide, high.printable, by decide, by decide, low.printable⟩

theorem interleaved_forall {property : Byte → Prop} (comma : property 44)
    (each : ∀ piece ∈ pieces, ∀ byte ∈ piece, property byte) :
    ∀ byte ∈ interleaved [44] pieces, property byte := by
  cases pieces with
  | nil => nofun
  | cons piece pieces =>
    obtain ⟨first, later⟩ := forall_mem_cons.mp each
    refine forall_mem_append.mpr ⟨first, fun byte inside => ?_⟩
    obtain ⟨other, listed, inside⟩ := mem_flatMap.mp inside
    rcases mem_cons.mp inside with rfl | inside
    · exact comma
    · exact later other listed byte inside

theorem Spells.visible (spells : Spells levels text value) : ∀ byte ∈ text, Visible byte := by
  have comma : Visible 44 := .inl (by decide)
  have blanks : ∀ {blanks : Bytes}, Blank blanks → ∀ byte ∈ blanks, Visible byte :=
    fun blank byte inside => .inr (blank byte inside)
  have printed : ∀ {text : Bytes}, (∀ byte ∈ text, 32 ≤ byte) → ∀ byte ∈ text, Visible byte :=
    fun printable byte inside => .inl (printable byte inside)
  induction spells with
  | null => exact printed (by decide +kernel)
  | boolean =>
    rename_i value
    cases value <;> exact printed (by decide +kernel)
  | number token => exact printed token.printable
  | string spelled =>
    simp only [cons_append, forall_mem_cons, forall_mem_append]
    exact ⟨.inl (by decide), printed spelled.printable, .inl (by decide), nofun⟩
  | array _ blank ih =>
    simp only [cons_append, forall_mem_cons, forall_mem_append]
    exact ⟨.inl (by decide), ⟨interleaved_forall comma (forall_mem_map.mpr ih), blanks blank⟩,
      .inl (by decide), nofun⟩
  | object keyed _ _ blank ih =>
    simp only [cons_append, forall_mem_cons, forall_mem_append]
    refine ⟨.inl (by decide), ⟨interleaved_forall comma (forall_mem_map.mpr fun member listed => ?_),
      blanks blank⟩, .inl (by decide), nofun⟩
    simp only [Member.written, cons_append, append_assoc, forall_mem_cons,
      forall_mem_append]
    exact ⟨blanks (keyed member listed).before, .inl (by decide),
      printed (keyed member listed).spelled.printable, .inl (by decide),
      blanks (keyed member listed).after, .inl (by decide), ih member listed⟩
  | padded before _ after ih =>
    simp only [forall_mem_append]
    exact ⟨⟨blanks before, ih⟩, blanks after⟩

/-- Every byte of an accepted document is visible. -/
theorem parseJson_visible (parsed : parseJson N source = .ok value) :
    ∀ byte ∈ source, Visible byte :=
  (parseJson_iff.mp parsed).visible

end ShortHand.Evidence
