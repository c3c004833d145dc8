import Mathlib.Data.List.DropRight
import ShortHand.Library.Outcome
import ShortHand.Evidence.Json

/-! The grammar of RFC 8259 with the limits of the bounded parser, which accepts exactly its
texts. -/

namespace ShortHand.Evidence

open ShortHand.Library
open List (append_assoc append_nil cons_append cons_ne_nil exists_cons_of_ne_nil map_cons map_map
  map_nil mem_cons_self nil_append)

variable {N : Numerals}

def Blank (text : Bytes) : Prop := ∀ byte ∈ text, isSpace byte = true

structure Digits (text : Bytes) : Prop where
  filled : text ≠ []
  digits : ∀ byte ∈ text, isDigit byte = true

inductive IntegerText : Bytes → Prop
  | zero : IntegerText [48]
  | positive (digits : Digits (digit :: rest)) (nonzero : digit ≠ 48) : IntegerText (digit :: rest)

inductive FractionText : Bytes → Prop
  | none : FractionText []
  | point (digits : Digits text) : FractionText (46 :: text)

inductive ExponentText : Bytes → Prop
  | none : ExponentText []
  | power (marker : byte = 101 ∨ byte = 69) (signed : sign = [] ∨ sign = [43] ∨ sign = [45])
      (digits : Digits text) : ExponentText (byte :: sign ++ text)

inductive NumberText : Bytes → Prop
  | number (signed : sign = [] ∨ sign = [45]) (integer : IntegerText whole)
      (fraction : FractionText behind) (exponent : ExponentText power) :
    NumberText (sign ++ whole ++ behind ++ power)

/-- Four hexadecimal digits and their number. -/
inductive HexText : Bytes → Nat → Prop
  | digits (first : hexValue a = some p) (second : hexValue b = some q) (third : hexValue c = some r)
      (fourth : hexValue d = some s) : HexText [a, b, c, d] (((p * 16 + q) * 16 + r) * 16 + s)

/-- The letters behind a backslash. -/
def escapes : List (Byte × Byte) :=
  [(34, 34), (92, 92), (47, 47), (98, 8), (102, 12), (110, 10), (114, 13), (116, 9)]

/-- A character of a string and the bytes it stands for; surrogates come in pairs. -/
inductive CharText : Bytes → Bytes → Prop
  | plain (visible : 32 ≤ byte) (unquoted : byte ≠ 34) (unescaped : byte ≠ 92) :
    CharText [byte] [byte]
  | escape (listed : (letter, byte) ∈ escapes) : CharText [92, letter] [byte]
  | scalar (unit : HexText text code) (single : code < 0xD800 ∨ 0xDFFF < code) :
    CharText (92 :: 117 :: text) (utf8 code)
  | pair (first : HexText text high) (isHigh : 0xD800 ≤ high ∧ high ≤ 0xDBFF)
      (second : HexText other low) (isLow : 0xDC00 ≤ low ∧ low ≤ 0xDFFF) :
    CharText (92 :: 117 :: text ++ 92 :: 117 :: other)
      (utf8 (0x10000 + (high - 0xD800) * 1024 + (low - 0xDC00)))

inductive StringText : Bytes → Bytes → Prop
  | nil : StringText [] []
  | cons (char : CharText text decoded) (later : StringText rest value) :
    StringText (text ++ rest) (decoded ++ value)

/-- Pieces with a separator in front of each further one. -/
def interleaved (separator : Bytes) : List Bytes → Bytes
  | [] => []
  | piece :: rest => piece ++ rest.flatMap (separator ++ ·)

/-- A member of an object: its key with the blanks around it, and the text of its value. -/
structure Member (N : Numerals) where
  before : Bytes
  spelling : Bytes
  after : Bytes
  text : Bytes
  key : Bytes
  value : Json N

def Member.written (member : Member N) : Bytes :=
  member.before ++ 34 :: member.spelling ++ 34 :: member.after ++ 58 :: member.text

def Member.entry (member : Member N) : Bytes × Json N := (member.key, member.value)

structure Member.Keyed (member : Member N) : Prop where
  before : Blank member.before
  spelled : StringText member.spelling member.key
  after : Blank member.after

/-- A value with the blanks around it, at most so many levels deep: the keys of an object
differ, and every number can be read. -/
inductive Spells : Nat → Bytes → Json N → Prop
  | null : Spells (levels + 1) (ascii "null") .null
  | boolean : Spells (levels + 1) (ascii (if value then "true" else "false")) (.boolean value)
  | number (token : NumberText text) (read : N.read text = some value) :
    Spells (levels + 1) text (.number value)
  | string (spelled : StringText text value) : Spells (levels + 1) (34 :: text ++ [34]) (.string value)
  | array {items : List (Bytes × Json N)} (each : ∀ item ∈ items, Spells levels item.1 item.2)
      (blank : Blank blanks) :
    Spells (levels + 1) (91 :: interleaved [44] (items.map Prod.fst) ++ blanks ++ [93])
      (.array (items.map Prod.snd))
  | object {members : List (Member N)} (keyed : ∀ member ∈ members, member.Keyed)
      (each : ∀ member ∈ members, Spells levels member.text member.value)
      (distinct : (members.map Member.key).Nodup) (blank : Blank blanks) :
    Spells (levels + 1) (123 :: interleaved [44] (members.map Member.written) ++ blanks ++ [125])
      (.object (OrderedMap.ofEntries (members.map Member.entry)).entries)
  | padded (before : Blank first) (spelled : Spells levels text value) (after : Blank last) :
    Spells levels (first ++ text ++ last) value

section Blanks

variable {blanks rest : Bytes}

theorem blank_nil : Blank [] := nofun

theorem skipWhitespace_blank (blank : Blank blanks) :
    skipWhitespace (blanks ++ rest) = skipWhitespace rest :=
  List.dropWhile_append_of_pos blank

theorem skipWhitespace_cons (visible : isSpace byte = false) :
    skipWhitespace (byte :: rest) = byte :: rest := by
  simp [skipWhitespace, visible]

theorem skipWhitespace_idem (text : Bytes) :
    skipWhitespace (skipWhitespace text) = skipWhitespace text :=
  List.dropWhile_idempotent isSpace text

theorem exists_skipped (text : Bytes) : ∃ blanks, Blank blanks ∧ text = blanks ++ skipWhitespace text :=
  ⟨text.takeWhile isSpace, fun _ => List.mem_takeWhile_imp, List.takeWhile_append_dropWhile.symm⟩

/-- A value is read behind the blanks in front of it. -/
theorem parseValue_skipWhitespace :
    (parseValue (levels + 1) (skipWhitespace text) : Except Fault (Json N × Bytes)) =
      parseValue (levels + 1) text := by
  rw [parseValue, parseValue, skipWhitespace_idem]

/-- Nothing that a number could go on with. -/
def Follows : Bytes → Prop
  | [] => True
  | byte :: _ => isDigit byte = false ∧ byte ≠ 46 ∧ byte ≠ 101 ∧ byte ≠ 69

theorem follows_of {rest : Bytes}
    (ends : byte = 93 ∨ byte = 44 ∨ byte = 125 ∨ byte = 10) : Follows (byte :: rest) := by
  rcases ends with rfl | rfl | rfl | rfl <;> exact ⟨rfl, by decide, by decide, by decide⟩

theorem follows_blank (blank : Blank blanks) (follows : Follows rest) : Follows (blanks ++ rest) := by
  have apart : ∀ byte : Byte, isSpace byte = true →
      isDigit byte = false ∧ byte ≠ 46 ∧ byte ≠ 101 ∧ byte ≠ 69 := by
    decide +kernel
  cases blanks with
  | nil => exact follows
  | cons byte blanks => exact apart byte (blank byte mem_cons_self)

end Blanks

section Numbers

variable {source token rest : Bytes}

/-- No digit comes next. -/
def Undigit (rest : Bytes) : Prop := ∀ byte ∈ rest.head?, isDigit byte = false

theorem Follows.undigit (follows : Follows rest) : Undigit rest := by
  cases rest with
  | nil => nofun
  | cons byte rest =>
    intro first same
    cases same
    exact follows.1

theorem takeWhile_digits (digits : ∀ byte ∈ token, isDigit byte = true) (ends : Undigit rest) :
    (token ++ rest).takeWhile isDigit = token ∧ (token ++ rest).dropWhile isDigit = rest := by
  rw [List.takeWhile_append_of_pos digits, List.dropWhile_append_of_pos digits]
  cases rest with
  | nil => simp
  | cons byte rest => simp [ends byte rfl]

theorem undigit_dropWhile (source : Bytes) : Undigit (source.dropWhile isDigit) := by
  intro byte head
  have ends := List.head?_dropWhile_not isDigit source
  rwa [Option.mem_def.mp head] at ends

theorem scanDigits_iff : scanDigits message source = .ok (token, rest) ↔
      Digits token ∧ Undigit rest ∧ source = token ++ rest := by
  constructor
  · intro scanned
    cases source with
    | nil => cases scanned
    | cons byte source =>
      simp only [scanDigits] at scanned
      split_ifs at scanned with digit
      · cases scanned
        refine ⟨⟨cons_ne_nil _ _, ?_⟩, ?_, ?_⟩
        · exact List.forall_mem_cons.mpr ⟨digit, fun _ => List.mem_takeWhile_imp⟩
        · exact undigit_dropWhile source
        · rw [cons_append, List.takeWhile_append_dropWhile]
      · cases scanned
  · rintro ⟨⟨filled, digits⟩, ends, rfl⟩
    obtain ⟨byte, token, rfl⟩ := exists_cons_of_ne_nil filled
    obtain ⟨first, later⟩ := List.forall_mem_cons.mp digits
    simp [scanDigits, first, takeWhile_digits later ends]

theorem scanInteger_iff :
    scanInteger source = .ok (token, rest) ↔
      IntegerText token ∧ Undigit rest ∧ source = token ++ rest := by
  cases source with
  | nil =>
    refine ⟨nofun, ?_⟩
    rintro ⟨integer, _, same⟩
    cases integer <;> cases same
  | cons byte source =>
    by_cases zero : byte = 48
    · subst zero
      constructor
      · intro scanned
        cases source with
        | nil =>
          cases scanned
          exact ⟨.zero, nofun, rfl⟩
        | cons next source =>
          simp only [scanInteger, if_true] at scanned
          split_ifs at scanned with leading
          · cases scanned
          · cases scanned
            exact ⟨.zero, by simpa [Undigit] using leading, rfl⟩
      · rintro ⟨integer, ends, same⟩
        cases integer with
        | zero =>
          cases same
          cases rest with
          | nil => rfl
          | cons next rest => simp [scanInteger, ends next rfl]
        | positive _ nonzero =>
          cases same
          exact absurd rfl nonzero
    · have scans : scanInteger (byte :: source) = scanDigits "invalid number" (byte :: source) := by
        simp [scanInteger, scanDigits, zero]
      rw [scans, scanDigits_iff]
      constructor
      · rintro ⟨digits, ends, same⟩
        obtain ⟨first, token, rfl⟩ := exists_cons_of_ne_nil digits.filled
        cases same
        exact ⟨.positive digits zero, ends, rfl⟩
      · rintro ⟨integer, ends, same⟩
        cases integer with
        | zero =>
          cases same
          exact absurd rfl zero
        | positive digits => exact ⟨digits, ends, same⟩

/-- What is behind an optional part does not belong to it. -/
def Ends (token rest : Bytes) (starts : Byte → Prop) : Prop :=
  (token ≠ [] → Undigit rest) ∧ (token = [] → ∀ byte ∈ rest.head?, ¬ starts byte)

/-- A part that is not there is scanned as nothing. -/
theorem scan_absent_iff {scan : Scan Bytes} {kind : Bytes → Prop} (empty : kind [])
    (begins : ∀ byte tail, kind (byte :: tail) → starts byte)
    (absent : ∀ byte ∈ source.head?, ¬ starts byte) (scanned : scan source = .ok ([], source)) :
    scan source = .ok (token, rest) ↔ kind token ∧ Ends token rest starts ∧ source = token ++ rest := by
  rw [scanned]
  constructor
  · intro same
    cases same
    exact ⟨empty, ⟨fun filled => absurd rfl filled, fun _ => absent⟩, rfl⟩
  · rintro ⟨isKind, _, rfl⟩
    cases token with
    | nil => rfl
    | cons byte tail => exact absurd (begins byte tail isKind) (absent byte rfl)

theorem scanFraction_iff :
    scanFraction source = .ok (token, rest) ↔
      FractionText token ∧ Ends token rest (· = 46) ∧ source = token ++ rest := by
  by_cases absent : ∀ byte ∈ source.head?, byte ≠ 46
  · refine scan_absent_iff .none (fun _ _ fraction => by cases fraction; rfl) absent ?_
    unfold scanFraction
    split
    · exact absurd rfl (absent 46 rfl)
    · rfl
  · push Not at absent
    obtain ⟨_, head, rfl⟩ := absent
    obtain ⟨text, rfl⟩ := List.head?_eq_some_iff.mp head
    simp only [scanFraction, bind_eq_ok, Prod.exists, scanDigits_iff]
    constructor
    · rintro ⟨digits, after, ⟨isDigits, ends, rfl⟩, result⟩
      cases result
      exact ⟨.point isDigits, ⟨fun _ => ends, nofun⟩, rfl⟩
    · rintro ⟨fraction, ends, same⟩
      cases fraction with
      | none =>
        cases same
        exact absurd rfl (ends.2 rfl 46 rfl)
      | point digits =>
        cases same
        exact ⟨_, _, ⟨digits, ends.1 (cons_ne_nil _ _), rfl⟩, rfl⟩

theorem exponentSign_spec (source : Bytes) :
    ((exponentSign source).1 = [] ∨ (exponentSign source).1 = [43] ∨ (exponentSign source).1 = [45]) ∧
      source = (exponentSign source).1 ++ (exponentSign source).2 := by
  unfold exponentSign
  split
  · split_ifs with sign
    · rcases sign with rfl | rfl <;> simp
    · simp
  · simp

theorem exponentSign_append (signed : sign = [] ∨ sign = [43] ∨ sign = [45]) (digits : Digits token) :
    exponentSign (sign ++ (token ++ rest)) = (sign, token ++ rest) := by
  obtain ⟨byte, token, rfl⟩ := exists_cons_of_ne_nil digits.filled
  have first := digits.digits byte mem_cons_self
  rcases signed with rfl | rfl | rfl
  · have unsigned : ¬(byte = 43 ∨ byte = 45) := by
      rintro (rfl | rfl) <;> cases first
    simp [exponentSign, unsigned]
  · rfl
  · rfl

theorem scanExponent_iff :
    scanExponent source = .ok (token, rest) ↔
      ExponentText token ∧ Ends token rest (fun byte => byte = 101 ∨ byte = 69) ∧
        source = token ++ rest := by
  by_cases absent : ∀ byte ∈ source.head?, ¬(byte = 101 ∨ byte = 69)
  · refine scan_absent_iff .none (fun _ _ exponent => by cases exponent; assumption) absent ?_
    cases source with
    | nil => rfl
    | cons byte source => simp [scanExponent, absent byte rfl]
  · push Not at absent
    obtain ⟨byte, head, marker⟩ := absent
    obtain ⟨text, rfl⟩ := List.head?_eq_some_iff.mp head
    simp only [scanExponent, if_pos marker, bind_eq_ok, Prod.exists, scanDigits_iff]
    constructor
    · rintro ⟨digits, after, ⟨isDigits, ends, split⟩, result⟩
      cases result
      obtain ⟨signed, whole⟩ := exponentSign_spec text
      refine ⟨.power marker signed isDigits, ⟨fun _ => ends, nofun⟩, ?_⟩
      rw [split] at whole
      simp [← whole]
    · rintro ⟨exponent, ends, same⟩
      cases exponent with
      | none =>
        cases same
        exact absurd marker (ends.2 rfl byte rfl)
      | power _ signed digits =>
        rw [append_assoc, cons_append] at same
        cases same
        rw [exponentSign_append signed digits]
        exact ⟨_, _, ⟨digits, ends.1 (cons_ne_nil _ _), rfl⟩, by simp [pure, Except.pure]⟩

theorem signOf_spec (source : Bytes) :
    ((signOf source).1 = [] ∨ (signOf source).1 = [45]) ∧
      source = (signOf source).1 ++ (signOf source).2 := by
  unfold signOf
  split <;> simp

theorem signOf_of_ne (other : byte ≠ 45) : signOf (byte :: rest) = ([], byte :: rest) := by
  unfold signOf
  split
  · rename_i same
    cases same
    exact absurd rfl other
  · rfl

theorem scanNumber_sound (scanned : scanNumber source = .ok (token, rest)) :
    NumberText token ∧ source = token ++ rest := by
  simp only [scanNumber, bind_eq_ok, Prod.exists, scanInteger_iff, scanFraction_iff,
    scanExponent_iff] at scanned
  obtain ⟨whole, _, ⟨integer, _, split⟩, behind, _, ⟨fraction, _, rfl⟩, power, _,
    ⟨exponent, _, rfl⟩, result⟩ := scanned
  cases result
  obtain ⟨signed, same⟩ := signOf_spec source
  refine ⟨.number signed integer fraction exponent, ?_⟩
  rw [split] at same
  simpa using same

theorem IntegerText.head (integer : IntegerText token) :
    ∃ byte tail, token = byte :: tail ∧ isDigit byte = true := by
  cases integer with
  | zero => exact ⟨_, _, rfl, rfl⟩
  | positive digits => exact ⟨_, _, rfl, digits.digits _ mem_cons_self⟩

theorem scanNumber_complete (number : NumberText token) (follows : Follows rest) :
    scanNumber (token ++ rest) = .ok (token, rest) := by
  obtain ⟨signed, integer, fraction, exponent⟩ := number
  rename_i sign whole behind power
  have power_ends : Ends power rest (fun byte => byte = 101 ∨ byte = 69) := by
    refine ⟨fun _ => follows.undigit, fun _ byte head => ?_⟩
    obtain ⟨tail, rfl⟩ := List.head?_eq_some_iff.mp head
    exact not_or.mpr follows.2.2
  have behind_ends : Ends behind (power ++ rest) (· = 46) ∧ Undigit (power ++ rest) := by
    cases exponent with
    | none =>
      refine ⟨⟨fun _ => follows.undigit, fun _ byte head => ?_⟩, follows.undigit⟩
      obtain ⟨tail, rfl⟩ := List.head?_eq_some_iff.mp head
      exact follows.2.1
    | power marker =>
      rcases marker with rfl | rfl <;> simp [Ends, Undigit, isDigit]
  have whole_ends : Undigit (behind ++ (power ++ rest)) := by
    cases fraction with
    | none => exact behind_ends.2
    | point => simp [Undigit, isDigit]
  have signs : signOf (sign ++ (whole ++ (behind ++ (power ++ rest)))) =
      (sign, whole ++ (behind ++ (power ++ rest))) := by
    rcases signed with rfl | rfl
    · obtain ⟨byte, tail, rfl, digit⟩ := integer.head
      refine signOf_of_ne ?_
      rintro rfl
      cases digit
    · rfl
  simp only [scanNumber, bind_eq_ok, Prod.exists, append_assoc, signs]
  exact ⟨_, _, scanInteger_iff.mpr ⟨integer, whole_ends, rfl⟩, _, _,
    scanFraction_iff.mpr ⟨fraction, behind_ends.1, rfl⟩, _, _,
    scanExponent_iff.mpr ⟨exponent, power_ends, rfl⟩, by simp [pure, Except.pure]⟩

theorem scanNumber_iff : scanNumber token = .ok (token, []) ↔ NumberText token := by
  refine ⟨fun scanned => (scanNumber_sound scanned).1, fun number => ?_⟩
  have scanned := @scanNumber_complete token [] number trivial
  rwa [append_nil] at scanned

/-- A number starts with a digit or a minus sign. -/
theorem NumberText.head (number : NumberText token) :
    ∃ byte tail, token = byte :: tail ∧ (byte = 45 ∨ isDigit byte = true) := by
  obtain ⟨signed, integer, fraction, exponent⟩ := number
  obtain ⟨byte, tail, rfl, digit⟩ := integer.head
  rcases signed with rfl | rfl
  · exact ⟨_, _, rfl, .inr digit⟩
  · exact ⟨_, _, rfl, .inl rfl⟩

end Numbers

section Strings

variable {source text decoded value rest : Bytes}

theorem scanHex_iff : scanHex byte source = .ok number ↔ hexValue byte = some number := by
  unfold scanHex
  split
  · rename_i absent
    rw [absent]
    exact ⟨nofun, nofun⟩
  · rename_i found
    rw [found]
    simp

theorem parseUnicodeUnit_iff :
    parseUnicodeUnit source = .ok (code, rest) ↔ ∃ text, HexText text code ∧ source = text ++ rest := by
  constructor
  · intro parsed
    unfold parseUnicodeUnit at parsed
    split at parsed
    · simp only [bind_eq_ok, scanHex_iff] at parsed
      obtain ⟨_, first, _, second, _, third, _, fourth, result⟩ := parsed
      cases result
      exact ⟨_, .digits first second third fourth, rfl⟩
    · cases parsed
  · rintro ⟨text, ⟨first, second, third, fourth⟩, rfl⟩
    simp only [cons_append, nil_append, parseUnicodeUnit, bind_eq_ok, scanHex_iff]
    exact ⟨_, first, _, second, _, third, _, fourth, rfl⟩

theorem parseLowSurrogate_iff :
    parseLowSurrogate high source = .ok (decoded, rest) ↔
      ∃ text low, HexText text low ∧ (0xDC00 ≤ low ∧ low ≤ 0xDFFF) ∧
        decoded = utf8 (0x10000 + (high - 0xD800) * 1024 + (low - 0xDC00)) ∧
        source = 92 :: 117 :: text ++ rest := by
  constructor
  · intro parsed
    unfold parseLowSurrogate at parsed
    split at parsed
    · simp only [bind_eq_ok, Prod.exists, parseUnicodeUnit_iff] at parsed
      obtain ⟨low, after, ⟨text, hex, rfl⟩, result⟩ := parsed
      split_ifs at result with isLow
      · obtain ⟨same, rfl⟩ := Prod.mk.inj (Except.ok.inj result)
        exact ⟨text, low, hex, isLow, same.symm, rfl⟩
      · cases result
    · cases parsed
  · rintro ⟨text, low, hex, isLow, same, rfl⟩
    simp only [cons_append, parseLowSurrogate, bind_eq_ok, Prod.exists, parseUnicodeUnit_iff]
    exact ⟨low, rest, ⟨text, hex, rfl⟩, by rw [if_pos isLow, same]; rfl⟩

theorem parseUnicodeEscape_iff :
    parseUnicodeEscape source = .ok (decoded, rest) ↔
      ∃ text, CharText (92 :: 117 :: text) decoded ∧ source = text ++ rest := by
  simp only [parseUnicodeEscape, bind_eq_ok, Prod.exists, parseUnicodeUnit_iff]
  constructor
  · rintro ⟨code, after, ⟨text, hex, rfl⟩, continued⟩
    split_ifs at continued with isHigh isLow
    · obtain ⟨other, low, lowHex, isLow, same, rfl⟩ := parseLowSurrogate_iff.mp continued
      rw [same]
      exact ⟨text ++ 92 :: 117 :: other, .pair hex isHigh lowHex isLow, by simp⟩
    · cases continued
    · cases continued
      exact ⟨text, .scalar hex (by omega), rfl⟩
  · rintro ⟨text, char, rfl⟩
    generalize same : 92 :: 117 :: text = written at char
    cases char with
    | plain _ _ unescaped =>
      cases same
    | escape listed =>
      cases same
      simp [escapes] at listed
    | scalar hex single =>
      cases same
      refine ⟨_, _, ⟨_, hex, rfl⟩, ?_⟩
      rw [if_neg (by omega), if_neg (by omega)]
      rfl
    | pair hex isHigh other isLow =>
      cases same
      refine ⟨_, _, ⟨_, hex, append_assoc _ _ _⟩, ?_⟩
      rw [if_pos isHigh]
      exact parseLowSurrogate_iff.mpr ⟨_, _, other, isLow, rfl, rfl⟩

theorem parseEscape_iff :
    parseEscape source = .ok (decoded, rest) ↔
      ∃ text, CharText (92 :: text) decoded ∧ source = text ++ rest := by
  constructor
  · intro parsed
    cases source with
    | nil => cases parsed
    | cons letter source =>
      simp only [parseEscape] at parsed
      split_ifs at parsed with same _ _ _ _ _ unicode
      · cases parsed
        exact ⟨[letter], .escape (by rcases same with rfl | rfl | rfl <;> simp [escapes]), rfl⟩
      iterate 5
        cases parsed
        exact ⟨[letter], .escape (by simp [*, escapes]), rfl⟩
      · obtain ⟨text, char, rfl⟩ := parseUnicodeEscape_iff.mp parsed
        exact ⟨117 :: text, char, by rw [unicode]; rfl⟩
      · cases parsed
  · rintro ⟨text, char, rfl⟩
    have unicode : ∀ tail, CharText (92 :: 117 :: tail) decoded →
        parseEscape (117 :: tail ++ rest) = .ok (decoded, rest) := fun tail char =>
      parseUnicodeEscape_iff.mpr ⟨tail, char, rfl⟩
    generalize same : 92 :: text = written at char
    cases char with
    | plain _ _ unescaped =>
      cases same
      exact absurd rfl unescaped
    | escape listed =>
      cases same
      simp only [escapes, List.mem_cons, Prod.mk.injEq, List.not_mem_nil, or_false] at listed
      rcases listed with ⟨rfl, rfl⟩ | ⟨rfl, rfl⟩ | ⟨rfl, rfl⟩ | ⟨rfl, rfl⟩ | ⟨rfl, rfl⟩ | ⟨rfl, rfl⟩ |
        ⟨rfl, rfl⟩ | ⟨rfl, rfl⟩ <;> rfl
    | scalar hex single =>
      cases same
      exact unicode _ (.scalar hex single)
    | pair hex isHigh other isLow =>
      cases same
      exact unicode _ (.pair hex isHigh other isLow)

theorem parseStringBody_sound (parsed : parseStringBody fuel source = .ok (value, rest)) :
    ∃ text, StringText text value ∧ source = text ++ 34 :: rest := by
  induction fuel generalizing source value with
  | zero => cases parsed
  | succ fuel ih =>
    cases source with
    | nil => cases parsed
    | cons byte source =>
      simp only [parseStringBody] at parsed
      split_ifs at parsed with quote control backslash
      · cases parsed
        exact ⟨[], .nil, by rw [quote]; rfl⟩
      · cases parsed
      · simp only [bind_eq_ok, Prod.exists, parseEscape_iff] at parsed
        obtain ⟨decoded, _, ⟨text, char, rfl⟩, value, _, later, result⟩ := parsed
        cases result
        obtain ⟨spelling, spelled, rfl⟩ := ih later
        exact ⟨92 :: text ++ spelling, .cons char spelled, by simp [backslash]⟩
      · simp only [bind_eq_ok, Prod.exists] at parsed
        obtain ⟨value, _, later, result⟩ := parsed
        cases result
        obtain ⟨spelling, spelled, rfl⟩ := ih later
        exact ⟨[byte] ++ spelling, .cons (.plain (not_lt.mp control) quote backslash) spelled, rfl⟩

theorem CharText.cases_on_escape (char : CharText text decoded) :
    (∃ byte, 32 ≤ byte ∧ byte ≠ 34 ∧ byte ≠ 92 ∧ text = [byte] ∧ decoded = [byte]) ∨
      ∃ tail, text = 92 :: tail := by
  cases char with
  | plain visible unquoted unescaped => exact .inl ⟨_, visible, unquoted, unescaped, rfl, rfl⟩
  | escape | scalar | pair => exact .inr ⟨_, rfl⟩

theorem parseStringBody_complete (spelled : StringText text value) (enough : text.length < fuel) :
    parseStringBody fuel (text ++ 34 :: rest) = .ok (value, rest) := by
  induction spelled generalizing fuel with
  | nil =>
    cases fuel with
    | zero => cases enough
    | succ fuel => rfl
  | cons char _ ih =>
    rename_i text decoded others value _
    cases fuel with
    | zero => cases enough
    | succ fuel =>
      rcases char.cases_on_escape with ⟨byte, visible, unquoted, unescaped, rfl, rfl⟩ | ⟨tail, rfl⟩
      · have later := @ih fuel (by simp at enough; omega)
        simp [parseStringBody, unquoted, unescaped, not_lt.mpr visible, later, bind, Except.bind, pure,
          Except.pure]
      · have later := @ih fuel (by simp at enough; omega)
        have escape : parseEscape (tail ++ (others ++ 34 :: rest)) = .ok (decoded, others ++ 34 :: rest) :=
          parseEscape_iff.mpr ⟨tail, char, rfl⟩
        simp [parseStringBody, escape, later, bind, Except.bind, pure, Except.pure]

theorem parseString_iff :
    parseString source = .ok (value, rest) ↔ ∃ text, StringText text value ∧ source = text ++ 34 :: rest := by
  refine ⟨parseStringBody_sound, ?_⟩
  rintro ⟨text, spelled, rfl⟩
  refine parseStringBody_complete spelled ?_
  rw [List.length_append]
  omega

end Strings

section Sound

variable {levels : Nat} {source text blanks rest : Bytes} {value : Json N}

theorem Spells.blank (spells : Spells levels text value) (blank : Blank blanks) :
    Spells levels (blanks ++ text) value := by
  simpa using Spells.padded blank spells blank_nil

theorem parseValue_skipped :
    parseValue levels (skipWhitespace source) = .ok (value, rest) ↔
      parseValue levels source = .ok (value, rest) := by
  cases levels with
  | zero => exact ⟨nofun, nofun⟩
  | succ levels => rw [parseValue_skipWhitespace]

theorem skips_to (skipped : skipWhitespace source = byte :: rest) :
    ∃ blanks, Blank blanks ∧ source = blanks ++ byte :: rest := by
  rw [← skipped]
  exact exists_skipped source

/-- Whatever is read with so many levels left is a text of the grammar. -/
def Grammatical (N : Numerals) (levels : Nat) : Prop :=
  ∀ (source : Bytes) (value : Json N) (rest : Bytes), parseValue levels source = .ok (value, rest) →
    ∃ text, Spells levels text value ∧ source = text ++ rest

theorem parseElements_sound {values : List (Json N)} (sound : Grammatical N levels)
    (parsed : parseElements (parseValue levels) fuel (skipWhitespace source) = .ok (values, rest)) :
    ∃ items blanks, (∀ item ∈ items, Spells levels item.1 item.2) ∧ Blank blanks ∧ items ≠ [] ∧
      values = items.map Prod.snd ∧
      source = interleaved [44] (items.map Prod.fst) ++ blanks ++ 93 :: rest := by
  induction fuel generalizing source values with
  | zero => cases parsed
  | succ fuel ih =>
    simp only [parseElements, bind_eq_ok, Prod.exists, parseValue_skipped] at parsed
    obtain ⟨value, after, read, continued⟩ := parsed
    obtain ⟨text, spelled, rfl⟩ := sound _ _ _ read
    split at continued
    · rename_i closes
      cases continued
      obtain ⟨blanks, blank, rfl⟩ := skips_to closes
      exact ⟨[(text, value)], blanks, by simpa using spelled, blank, nofun, rfl, by simp [interleaved]⟩
    · rename_i comma
      simp only [bind_eq_ok, Prod.exists] at continued
      obtain ⟨values, tail, later, result⟩ := continued
      cases result
      obtain ⟨blanks, blank, rfl⟩ := skips_to comma
      obtain ⟨items, closing, each, blankEnd, filled, rfl, rfl⟩ := ih later
      obtain ⟨next, items, rfl⟩ := exists_cons_of_ne_nil filled
      have first : Spells levels (text ++ blanks) value := by
        simpa using Spells.padded blank_nil spelled blank
      refine ⟨(text ++ blanks, value) :: next :: items, closing, List.forall_mem_cons.mpr ⟨first, each⟩,
        blankEnd, nofun, rfl, ?_⟩
      simp [interleaved]
    · cases continued

theorem parseMembers_sound {earlier final : List (Bytes × Json N)} (sound : Grammatical N levels) (ordered : InOrder earlier)
    (parsed : parseMembers (parseValue levels) fuel earlier (skipWhitespace source) =
      .ok (final, rest)) :
    ∃ members : List (Member N), ∃ blanks, (∀ member ∈ members, member.Keyed) ∧
      (∀ member ∈ members, Spells levels member.text member.value) ∧ Blank blanks ∧ members ≠ [] ∧
      InOrder final ∧ final.Perm (members.map Member.entry ++ earlier) ∧
      source = interleaved [44] (members.map Member.written) ++ blanks ++ 125 :: rest := by
  induction fuel generalizing source earlier with
  | zero => cases parsed
  | succ fuel ih =>
    simp only [parseMembers, bind_eq_ok, Prod.exists] at parsed
    obtain ⟨key, _, readKey, _, _, readColon, value, after, read, continued⟩ := parsed
    unfold parseKey at readKey
    split at readKey
    · rename_i opens
      obtain ⟨before, blankBefore, rfl⟩ := skips_to opens
      obtain ⟨spelling, spelled, rfl⟩ := parseString_iff.mp readKey
      unfold parseColon at readColon
      split at readColon
      · rename_i colon
        cases readColon
        obtain ⟨behind, blankBehind, rfl⟩ := skips_to colon
        obtain ⟨text, spells, rfl⟩ := sound _ _ _ read
        split at continued
        · cases continued
        rename_i grown emplaced
        have grownOrdered := emplaceEntry_inOrder ordered emplaced
        have perm := emplaceEntry_perm emplaced
        split at continued
        · rename_i closes
          cases continued
          obtain ⟨blanks, blank, rfl⟩ := skips_to closes
          refine ⟨[⟨before, spelling, behind, text, key, value⟩], blanks, ?_, ?_, blank, nofun,
            grownOrdered, perm, ?_⟩
          · simpa using ⟨blankBefore, spelled, blankBehind⟩
          · simpa using spells
          · simp [interleaved, Member.written]
        · rename_i comma
          obtain ⟨blanks, blank, rfl⟩ := skips_to comma
          obtain ⟨members, closing, keyed, each, blankEnd, filled, finalOrdered, finalPerm, rfl⟩ :=
            ih grownOrdered continued
          obtain ⟨next, members, rfl⟩ := exists_cons_of_ne_nil filled
          refine ⟨⟨before, spelling, behind, text ++ blanks, key, value⟩ :: next :: members, closing,
            List.forall_mem_cons.mpr ⟨⟨blankBefore, spelled, blankBehind⟩, keyed⟩,
            List.forall_mem_cons.mpr ⟨?_, each⟩, blankEnd, nofun, finalOrdered, ?_, ?_⟩
          · simpa using Spells.padded blank_nil spells blank
          · exact finalPerm.trans ((perm.append_left _).trans List.perm_middle)
          · simp [interleaved, Member.written]
        · cases continued
      · cases readColon
    · cases readKey
    · cases readKey

theorem parseLiteral_sound (parsed : parseLiteral literal expected source = .ok (value, rest)) :
    expected = value ∧ source = literal ++ rest := by
  unfold parseLiteral at parsed
  split_ifs at parsed with starts
  · obtain ⟨tail, rfl⟩ := List.isPrefixOf_iff_prefix.mp starts
    cases parsed
    exact ⟨rfl, by rw [List.drop_left]⟩
  · cases parsed

/-- What the parser reads is a text of the grammar. -/
theorem parseValue_sound (levels : Nat) : Grammatical N levels := by
  induction levels with
  | zero => nofun
  | succ levels ih =>
    intro source value rest parsed
    -- The blanks in front of the value join its text.
    suffices core : ∃ text, Spells (levels + 1) text value ∧ skipWhitespace source = text ++ rest by
      obtain ⟨text, spells, same⟩ := core
      obtain ⟨blanks, blank, whole⟩ := exists_skipped source
      exact ⟨blanks ++ text, spells.blank blank, by rw [whole, same, append_assoc]⟩
    rw [parseValue] at parsed
    split at parsed
    · cases parsed
    rename_i byte source starts
    rw [starts]
    split_ifs at parsed with brace bracket quote isTrue isFalse isNull number
    · subst brace
      unfold parseObject at parsed
      split at parsed
      · rename_i closes
        cases parsed
        obtain ⟨blanks, blank, rfl⟩ := skips_to closes
        exact ⟨_, @Spells.object N levels blanks [] nofun nofun .nil blank, by simp [interleaved]⟩
      · simp only [bind_eq_ok, Prod.exists] at parsed
        obtain ⟨final, tail, read, result⟩ := parsed
        cases result
        obtain ⟨members, blanks, keyed, each, blank, _, ordered, perm, rfl⟩ :=
          parseMembers_sound ih .nil read
        rw [append_nil] at perm
        have distinct : (members.map Member.key).Nodup := by
          have keys := (perm.map Prod.fst).nodup_iff.mp ordered.nodup
          rwa [map_map] at keys
        have whole : final = (OrderedMap.ofEntries (members.map Member.entry)).entries :=
          ordered.eq_of_perm (OrderedMap.ordered _)
            (perm.trans (OrderedMap.ofEntries_perm (by rwa [map_map])).symm)
        rw [whole]
        exact ⟨_, .object keyed each distinct blank, by simp⟩
    · subst bracket
      unfold parseArray at parsed
      split at parsed
      · rename_i closes
        cases parsed
        obtain ⟨blanks, blank, rfl⟩ := skips_to closes
        exact ⟨_, @Spells.array N levels blanks [] nofun blank, by simp [interleaved]⟩
      · simp only [bind_eq_ok, Prod.exists] at parsed
        obtain ⟨values, tail, read, result⟩ := parsed
        cases result
        obtain ⟨items, blanks, each, blank, _, rfl, rfl⟩ := parseElements_sound ih read
        exact ⟨_, .array each blank, by simp⟩
    · simp only [bind_eq_ok, Prod.exists, parseString_iff] at parsed
      obtain ⟨decoded, tail, ⟨text, spelled, rfl⟩, result⟩ := parsed
      cases result
      exact ⟨_, .string spelled, by simp [quote]⟩
    · obtain ⟨rfl, same⟩ := parseLiteral_sound parsed
      exact ⟨_, @Spells.boolean N levels true, same⟩
    · obtain ⟨rfl, same⟩ := parseLiteral_sound parsed
      exact ⟨_, @Spells.boolean N levels false, same⟩
    · obtain ⟨rfl, same⟩ := parseLiteral_sound parsed
      exact ⟨_, .null, same⟩
    · simp only [parseNumber, bind_eq_ok, Prod.exists] at parsed
      obtain ⟨token, tail, scanned, result⟩ := parsed
      obtain ⟨isNumber, same⟩ := scanNumber_sound scanned
      split at result
      · cases result
      · rename_i read
        cases result
        exact ⟨token, .number isNumber read, same⟩
    · cases parsed

end Sound

theorem number_head : ∀ byte : Byte, byte = 45 ∨ isDigit byte = true → isSpace byte = false ∧
    byte ≠ 93 ∧ byte ≠ 123 ∧ byte ≠ 91 ∧ byte ≠ 34 ∧ byte ≠ 116 ∧ byte ≠ 102 ∧ byte ≠ 110 := by
  decide +kernel

theorem parseValue_number (number : NumberText token) :
    (parseValue (levels + 1) (token ++ rest) : Except Fault (Json N × Bytes)) =
      parseNumber (token ++ rest) := by
  obtain ⟨byte, tail, rfl, kind⟩ := number.head
  obtain ⟨visible, _, brace, bracket, quote, true_, false_, null⟩ := number_head byte kind
  rw [parseValue, cons_append, skipWhitespace_cons visible]
  simp only [if_neg brace, if_neg bracket, if_neg quote, if_neg true_, if_neg false_, if_neg null,
    if_pos kind]

section Complete

variable {levels : Nat} {text blanks rest : Bytes} {value : Json N} {close : Byte} {texts : List Bytes}

/-- The text is read as the value wherever it ends, up to the blanks behind it. -/
def Reads (levels : Nat) (text : Bytes) (value : Json N) : Prop :=
  ∀ rest, Follows rest → ∃ left, Blank left ∧ parseValue levels (text ++ rest) = .ok (value, left ++ rest)

/-- No value starts with a closing bracket. -/
theorem Reads.open_ (reads : Reads levels text value) (follows : Follows rest) (tail : Bytes) :
    skipWhitespace (text ++ rest) ≠ 93 :: tail := by
  intro closes
  obtain ⟨left, _, read⟩ := reads rest follows
  cases levels with
  | zero => cases read
  | succ levels =>
    rw [parseValue, closes] at read
    cases read

theorem Reads.skips (reads : Reads levels text value) (follows : Follows rest) :
    ∃ left, Blank left ∧
      parseValue levels (skipWhitespace (text ++ rest)) = .ok (value, left ++ rest) := by
  obtain ⟨left, blank, read⟩ := reads rest follows
  exact ⟨left, blank, parseValue_skipped.mpr read⟩

/-- The pieces after the first, the closing byte of a list and what follows it. -/
def piecesAfter (close : Byte) (texts : List Bytes) (blanks rest : Bytes) : Bytes :=
  texts.flatMap ([44] ++ ·) ++ (blanks ++ close :: rest)

theorem follows_piecesAfter (closes : close = 93 ∨ close = 125) (blank : Blank blanks) :
    Follows (piecesAfter close texts blanks rest) := by
  cases texts with
  | nil =>
    have ends : Follows (close :: rest) := by
      rcases closes with rfl | rfl
      · exact follows_of (.inl rfl)
      · exact follows_of (.inr (.inr (.inl rfl)))
    simpa [piecesAfter] using follows_blank blank ends
  | cons text texts => exact follows_of (.inr (.inl rfl))

theorem skipWhitespace_last (closes : close = 93 ∨ close = 125) (blank : Blank blanks) :
    skipWhitespace (piecesAfter close [] blanks rest) = close :: rest := by
  have skipped : skipWhitespace (blanks ++ close :: rest) = skipWhitespace (close :: rest) :=
    skipWhitespace_blank blank
  rcases closes with rfl | rfl <;> exact skipped

theorem skipWhitespace_comma :
    skipWhitespace (piecesAfter close (text :: texts) blanks rest) =
      44 :: (text ++ piecesAfter close texts blanks rest) := by
  simp [piecesAfter, skipWhitespace, isSpace]

theorem interleaved_piecesAfter :
    interleaved [44] (text :: texts) ++ (blanks ++ close :: rest) =
      text ++ piecesAfter close texts blanks rest := by
  simp [interleaved, piecesAfter]

/-- Every separator is a comma, which no blank is. -/
theorem length_le_piecesAfter :
    texts.length ≤ (skipWhitespace (text ++ piecesAfter close texts blanks rest)).length := by
  obtain ⟨skipped, blank, whole⟩ := exists_skipped (text ++ piecesAfter close texts blanks rest)
  have unmarked : skipped.count 44 = 0 :=
    List.count_eq_zero.mpr fun inside => absurd (blank 44 inside) (by decide)
  have commas : texts.length ≤ (texts.flatMap ([44] ++ ·)).count 44 := by
    clear whole
    induction texts with
    | nil => exact Nat.zero_le _
    | cons text texts ih =>
      simp only [List.flatMap_cons, List.count_append, List.length_cons, List.count_singleton_self]
      omega
  calc texts.length
    _ ≤ (text ++ piecesAfter close texts blanks rest).count 44 := by
      simp only [piecesAfter, List.count_append]
      omega
    _ = (skipWhitespace (text ++ piecesAfter close texts blanks rest)).count 44 := by
      conv => lhs; rw [whole, List.count_append, unmarked, Nat.zero_add]
    _ ≤ _ := List.count_le_length

theorem parseElements_complete {items : List (Bytes × Json N)} {fuel : Nat}
    (each : ∀ entry ∈ item :: items, Reads levels entry.1 entry.2) (blank : Blank blanks)
    (enough : items.length < fuel) : parseElements (parseValue levels) fuel
      (skipWhitespace (item.1 ++ piecesAfter 93 (items.map Prod.fst) blanks rest)) =
      .ok ((item :: items).map Prod.snd, rest) := by
  obtain ⟨fuel, rfl⟩ := Nat.exists_eq_add_one.mpr (Nat.zero_lt_of_lt enough)
  obtain ⟨this, later⟩ := List.forall_mem_cons.mp each
  obtain ⟨left, blankLeft, first⟩ := this.skips
    (@follows_piecesAfter blanks rest 93 (items.map Prod.fst) (.inl rfl) blank)
  rw [parseElements, first]
  simp only [bind, Except.bind, skipWhitespace_blank blankLeft]
  cases items with
  | nil =>
    simp only [map_nil, skipWhitespace_last (.inl rfl) blank]
    rfl
  | cons next items =>
    simp only [map_cons, skipWhitespace_comma,
      parseElements_complete later blank (Nat.lt_of_succ_lt_succ enough)]
    rfl

theorem parseArray_complete {items : List (Bytes × Json N)}
    (each : ∀ item ∈ items, Reads levels item.1 item.2) (blank : Blank blanks) :
    parseArray (parseValue levels) (interleaved [44] (items.map Prod.fst) ++ (blanks ++ 93 :: rest)) =
      .ok (.array (items.map Prod.snd), rest) := by
  cases items with
  | nil =>
    have closing : skipWhitespace (blanks ++ 93 :: rest) = 93 :: rest := skipWhitespace_blank blank
    simp only [map_nil, interleaved, nil_append, parseArray, closing]
  | cons item items =>
    have enough := @length_le_piecesAfter item.1 blanks rest 93 (items.map Prod.fst)
    rw [List.length_map] at enough
    have parsed := @parseElements_complete _ _ blanks rest _ _ _ each blank (Nat.lt_succ_of_le enough)
    rw [map_cons, interleaved_piecesAfter, parseArray]
    split
    · rename_i closes
      exact absurd closes
        ((each item mem_cons_self).open_ (follows_piecesAfter (.inl rfl) blank) _)
    · rw [parsed]
      rfl

/-- A member is read from its key to its value. -/
theorem parseMembers_keyed {member : Member N} {earlier : List (Bytes × Json N)} (keyed : member.Keyed) :
    parseMembers (parseValue levels) (fuel + 1) earlier (skipWhitespace (member.written ++ rest)) = (do
      let (value, rest) ← parseValue levels (member.text ++ rest)
      match emplaceEntry member.key value earlier with
      | none => fault ("duplicate object key: " ++ shown member.key) rest
      | some members =>
        match skipWhitespace rest with
        | 125 :: rest => return (members, rest)
        | 44 :: rest => parseMembers (parseValue levels) fuel members (skipWhitespace rest)
        | rest => fault "expected ','" rest) := by
  have opens : skipWhitespace (member.written ++ rest) =
      34 :: (member.spelling ++ 34 :: (member.after ++ 58 :: (member.text ++ rest))) := by
    simp only [Member.written, append_assoc, cons_append, skipWhitespace_blank keyed.before]
    exact skipWhitespace_cons rfl
  have key : parseKey (34 :: (member.spelling ++ 34 :: (member.after ++ 58 :: (member.text ++ rest)))) =
      .ok (member.key, member.after ++ 58 :: (member.text ++ rest)) :=
    parseString_iff.mpr ⟨_, keyed.spelled, rfl⟩
  have colon : parseColon (member.after ++ 58 :: (member.text ++ rest)) = .ok ((), member.text ++ rest) := by
    rw [parseColon, skipWhitespace_blank keyed.after]
    rfl
  rw [opens, parseMembers, key]
  simp only [bind, Except.bind, colon] <;> rfl

/-- The members join those read before, whatever the order of their keys. -/
theorem parseMembers_complete
    {earlier : List (Bytes × Json N)} (keyed : ∀ entry ∈ member :: members, entry.Keyed)
    (each : ∀ entry ∈ member :: members, Reads levels entry.text entry.value) (blank : Blank blanks)
    (ordered : InOrder earlier)
    (distinct : ((earlier ++ (member :: members).map Member.entry).map Prod.fst).Nodup)
    (enough : members.length < fuel) : ∃ final, parseMembers (parseValue levels) fuel earlier
        (skipWhitespace (member.written ++ piecesAfter 125 (members.map Member.written) blanks rest)) =
          .ok (final, rest) ∧
      InOrder final ∧ final.Perm (earlier ++ (member :: members).map Member.entry) := by
  obtain ⟨fuel, rfl⟩ := Nat.exists_eq_add_one.mpr (Nat.zero_lt_of_lt enough)
  obtain ⟨this, later⟩ := List.forall_mem_cons.mp each
  obtain ⟨left, blankLeft, read⟩ := this _
    (@follows_piecesAfter blanks rest 125 (members.map Member.written) (.inr rfl) blank)
  obtain ⟨grown, emplaced⟩ := exists_emplaceEntry ordered (absent_of_nodup distinct)
  have grownOrdered := emplaceEntry_inOrder ordered emplaced
  rw [parseMembers_keyed (keyed member mem_cons_self), read]
  simp only [bind, Except.bind, skipWhitespace_blank blankLeft]
  cases members with
  | nil =>
    refine ⟨grown, ?_, grownOrdered,
      (emplaceEntry_perm emplaced).trans (List.perm_append_singleton _ _).symm⟩
    simp only [map_nil, skipWhitespace_last (.inr rfl) blank, emplaced]
    rfl
  | cons next members =>
    have moved : (grown ++ (next :: members).map Member.entry).Perm
        (earlier ++ (member :: next :: members).map Member.entry) :=
      ((emplaceEntry_perm emplaced).append_right _).trans List.perm_middle.symm
    obtain ⟨final, parsed, finalOrdered, perm⟩ := parseMembers_complete
      (List.forall_mem_cons.mp keyed).2 later blank grownOrdered
      ((moved.map _).nodup_iff.mpr distinct) (Nat.lt_of_succ_lt_succ enough)
    refine ⟨final, ?_, finalOrdered, perm.trans moved⟩
    simp only [map_cons, skipWhitespace_comma, emplaced]
    exact parsed

theorem Member.Keyed.open_ {member : Member N} (keyed : member.Keyed) :
    skipWhitespace (member.written ++ rest) ≠ 125 :: tail := by
  simp only [Member.written, append_assoc, cons_append, skipWhitespace_blank keyed.before]
  nofun

theorem parseObject_complete {members : List (Member N)} (keyed : ∀ member ∈ members, member.Keyed)
    (each : ∀ member ∈ members, Reads levels member.text member.value)
    (distinct : (members.map Member.key).Nodup) (blank : Blank blanks) :
    parseObject (parseValue levels)
      (interleaved [44] (members.map Member.written) ++ (blanks ++ 125 :: rest)) =
      .ok (.object (OrderedMap.ofEntries (members.map Member.entry)).entries, rest) := by
  cases members with
  | nil =>
    have closing : skipWhitespace (blanks ++ 125 :: rest) = 125 :: rest := skipWhitespace_blank blank
    simp only [map_nil, interleaved, nil_append, parseObject, closing]
    rfl
  | cons member members =>
    have keys : (((member :: members).map Member.entry).map Prod.fst).Nodup := by
      rwa [map_map]
    have enough := @length_le_piecesAfter member.written blanks rest 125 (members.map Member.written)
    rw [List.length_map] at enough
    obtain ⟨final, parsed, ordered, perm⟩ := @parseMembers_complete _ _ blanks rest _ _ _ [] keyed each
      blank .nil keys (Nat.lt_succ_of_le enough)
    have whole : final = (OrderedMap.ofEntries ((member :: members).map Member.entry)).entries :=
      ordered.eq_of_perm (OrderedMap.ordered _) (perm.trans (OrderedMap.ofEntries_perm keys).symm)
    rw [map_cons, interleaved_piecesAfter, parseObject]
    split
    · rename_i closes
      exact absurd closes (keyed member mem_cons_self).open_
    · rw [parsed, whole]
      rfl

/-- A text of the grammar is read. -/
theorem Spells.reads (spells : Spells levels text value) : Reads levels text value := by
  induction spells with
  | null => exact fun rest _ => ⟨[], blank_nil, rfl⟩
  | boolean =>
    rename_i value
    cases value <;> exact fun rest _ => ⟨[], blank_nil, rfl⟩
  | number token read =>
    intro rest follows
    refine ⟨[], blank_nil, ?_⟩
    rw [parseValue_number token, parseNumber, scanNumber_complete token follows]
    simp [bind, Except.bind, read, pure, Except.pure]
  | string spelled =>
    intro rest _
    have read : parseString (_ ++ 34 :: rest) = .ok (_, rest) := parseString_iff.mpr ⟨_, spelled, rfl⟩
    refine ⟨[], blank_nil, ?_⟩
    simp only [cons_append, append_assoc, nil_append, parseValue]
    rw [skipWhitespace_cons rfl]
    simp [read, bind, Except.bind, pure, Except.pure]
  | array _ blank ih =>
    intro rest _
    refine ⟨[], blank_nil, ?_⟩
    simp only [cons_append, append_assoc, nil_append, parseValue]
    exact parseArray_complete ih blank
  | object keyed _ distinct blank ih =>
    intro rest _
    refine ⟨[], blank_nil, ?_⟩
    simp only [cons_append, append_assoc, nil_append, parseValue]
    exact parseObject_complete keyed ih distinct blank
  | padded before _ after ih =>
    intro rest follows
    obtain ⟨left, blank, read⟩ := ih _ (follows_blank after follows)
    refine ⟨left ++ _, List.forall_mem_append.mpr ⟨blank, after⟩, ?_⟩
    rw [← parseValue_skipped, append_assoc, append_assoc, skipWhitespace_blank before,
      parseValue_skipped, read, append_assoc]

end Complete

/-- The parser accepts exactly the texts of the grammar. -/
theorem parseJson_iff :
    parseJson N source = .ok value ↔ Spells (kMaxJsonDepth + 1) source value := by
  constructor
  · intro parsed
    unfold parseJson at parsed
    split at parsed
    · cases parsed
    rename_i read
    cases parsed
    simp only [parseDocument, bind_eq_ok, Prod.exists, parseValue_skipped] at read
    obtain ⟨value, rest, read, result⟩ := read
    obtain ⟨text, spells, rfl⟩ := parseValue_sound _ _ _ _ read
    split at result
    · rename_i empty
      cases result
      obtain ⟨blanks, blank, whole⟩ := exists_skipped rest
      rw [empty] at whole
      rw [whole]
      simpa using Spells.padded blank_nil spells blank
    · cases result
  · intro spells
    obtain ⟨left, blank, read⟩ := spells.reads [] trivial
    rw [append_nil] at read
    have ends : skipWhitespace (left ++ []) = [] := skipWhitespace_blank blank
    rw [parseJson, parseDocument, parseValue_skipped.mpr read]
    simp only [bind, Except.bind, ends]
    rfl

/-- A byte string is accepted if and only if it is a text of the grammar. -/
theorem parseJson_accepts_iff (source : Bytes) :
    (∃ value : Json N, parseJson N source = .ok value) ↔
      ∃ value : Json N, Spells (kMaxJsonDepth + 1) source value :=
  exists_congr fun _ => parseJson_iff

end ShortHand.Evidence
