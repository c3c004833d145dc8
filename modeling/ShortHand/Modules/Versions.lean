import ShortHand.Modules.Manifest

/-! Exact versions: the validator against the grammar of SemVer 2.0.0. -/

namespace ShortHand.Modules

open ShortHand.Library ShortHand.Evidence
open List (all_eq_true)

inductive NumericIdentifier : Bytes → Prop
  | zero : NumericIdentifier [48]
  | positive (leading : isDigit digit = true) (nonzero : digit ≠ 48)
      (digits : ∀ byte ∈ rest, isDigit byte = true) : NumericIdentifier (digit :: rest)

def identifierCharacter (byte : Byte) : Bool := isDigit byte || isalpha byte || byte = 45

/-- Letters, digits and hyphens, not all of them digits. -/
structure AlphanumericIdentifier (text : Bytes) : Prop where
  characters : ∀ byte ∈ text, identifierCharacter byte = true
  nonDigit : ∃ byte ∈ text, isDigit byte = false

def PrereleaseIdentifier (text : Bytes) : Prop :=
  AlphanumericIdentifier text ∨ NumericIdentifier text

def BuildIdentifier (text : Bytes) : Prop :=
  AlphanumericIdentifier text ∨ text ≠ [] ∧ ∀ byte ∈ text, isDigit byte = true

def DotSeparated (identifier : Bytes → Prop) (text : Bytes) : Prop :=
  ∃ parts, parts ≠ [] ∧ (∀ part ∈ parts, identifier part) ∧ text = [46].intercalate parts

def VersionCore (text : Bytes) : Prop :=
  ∃ major minor patch, NumericIdentifier major ∧ NumericIdentifier minor ∧
    NumericIdentifier patch ∧ text = major ++ 46 :: minor ++ 46 :: patch

inductive SemVer : Bytes → Prop
  | core (numbers : VersionCore core) : SemVer core
  | prerelease (numbers : VersionCore core) (early : DotSeparated PrereleaseIdentifier tail) :
      SemVer (core ++ 45 :: tail)
  | build (numbers : VersionCore core) (built : DotSeparated BuildIdentifier tail) :
      SemVer (core ++ 43 :: tail)
  | both (numbers : VersionCore core) (early : DotSeparated PrereleaseIdentifier middle)
      (built : DotSeparated BuildIdentifier tail) : SemVer (core ++ 45 :: middle ++ 43 :: tail)

theorem segments_unmarked {text : Bytes} (unmarked : delimiter ∉ text) :
    segments delimiter text = [text] := by
  induction text with
  | nil => rfl
  | cons byte rest ih =>
    rw [List.mem_cons, not_or] at unmarked
    rw [segments, if_neg (Ne.symm unmarked.1), ih unmarked.2]

theorem segments_intercalate (filled : parts ≠ []) (unmarked : ∀ part ∈ parts, delimiter ∉ part) :
    segments delimiter ([delimiter].intercalate parts) = parts := by
  induction parts with
  | nil => exact absurd rfl filled
  | cons part parts ih =>
    rw [List.forall_mem_cons] at unmarked
    cases parts with
    | nil => simpa using segments_unmarked unmarked.1
    | cons next later =>
      rw [List.intercalate_cons_cons, List.append_assoc, List.singleton_append,
        segments_append unmarked.1, ih (List.cons_ne_nil _ _) unmarked.2]

/-- Cutting at the first delimiter. -/
theorem cutAt_cases (delimiter : Byte) (value : Bytes) :
    (cutAt delimiter value = (value, none) ∧ delimiter ∉ value) ∨
      ∃ first rest, cutAt delimiter value = (first, some rest) ∧ delimiter ∉ first ∧
        value = first ++ delimiter :: rest := by
  induction value with
  | nil => exact .inl ⟨rfl, List.not_mem_nil⟩
  | cons byte value ih =>
    by_cases same : byte = delimiter
    · subst byte
      exact .inr ⟨[], value, by simp [cutAt], List.not_mem_nil, rfl⟩
    rcases ih with ⟨whole, absent⟩ | ⟨first, rest, parts, absent, rfl⟩
    · left
      simp_all [cutAt, Ne.symm same]
    · right
      refine ⟨byte :: first, rest, ?_, by simp [absent, Ne.symm same], rfl⟩
      simp_all [cutAt]

theorem cutAt_unmarked {value : Bytes} (unmarked : delimiter ∉ value) :
    cutAt delimiter value = (value, none) := by
  rcases cutAt_cases delimiter value with whole | ⟨first, rest, _, _, rfl⟩
  · exact whole.1
  · simp at unmarked

theorem cutAt_append {first : Bytes} (unmarked : delimiter ∉ first) :
    cutAt delimiter (first ++ delimiter :: rest) = (first, some rest) := by
  induction first with
  | nil => simp [cutAt]
  | cons byte first ih =>
    rw [List.mem_cons, not_or] at unmarked
    simp_all [cutAt, Ne.symm unmarked.1]

theorem validCoreNumber_iff : validCoreNumber value = true ↔ NumericIdentifier value := by
  constructor
  · intro valid
    cases value with
    | nil => cases valid
    | cons digit rest =>
      simp only [validCoreNumber, List.isEmpty_cons, Bool.false_or, List.length_cons,
        List.head?_cons, List.all_cons, Bool.and_eq_true, Bool.not_eq_true', Bool.and_eq_false_iff,
        decide_eq_false_iff_not, all_eq_true] at valid
      obtain ⟨single, leading, digits⟩ := valid
      by_cases zero : digit = 48
      · have empty : rest = [] := List.eq_nil_of_length_eq_zero (by simp_all)
        rw [zero, empty]
        exact .zero
      · exact .positive leading zero digits
  · intro numeric
    cases numeric with
    | zero => decide
    | positive leading nonzero digits => simp_all [validCoreNumber]

theorem alphanumeric_or_digits (characters : ∀ byte ∈ text, identifierCharacter byte = true) :
    AlphanumericIdentifier text ∨ ∀ byte ∈ text, isDigit byte = true := by
  by_cases digits : ∀ byte ∈ text, isDigit byte = true
  · exact .inr digits
  · push Not at digits
    obtain ⟨byte, member, other⟩ := digits
    exact .inl ⟨characters, byte, member, by simpa using other⟩

theorem AlphanumericIdentifier.valid (alphanumeric : AlphanumericIdentifier text) :
    validSemverIdentifier text prerelease = true := by
  obtain ⟨characters, byte, member, other⟩ := alphanumeric
  have filled : text ≠ [] := List.ne_nil_of_mem member
  have mixed : text.all isDigit = false := List.all_eq_false.mpr ⟨byte, member, by simp [other]⟩
  have allowed := all_eq_true.mpr characters
  unfold identifierCharacter at allowed
  simp [validSemverIdentifier, filled, mixed, allowed]

theorem validSemverIdentifier_digits (filled : text ≠ [])
    (digits : ∀ byte ∈ text, isDigit byte = true) :
    validSemverIdentifier text prerelease = (!prerelease || validCoreNumber text) := by
  obtain ⟨digit, rest, rfl⟩ := List.exists_cons_of_ne_nil filled
  have allowed : (digit :: rest).all (fun byte => isDigit byte || isalpha byte || byte = 45) =
      true := all_eq_true.mpr fun byte member => by simp [digits byte member]
  have numeric : (digit :: rest).all isDigit = true := all_eq_true.mpr digits
  rw [validSemverIdentifier, validCoreNumber, allowed, numeric]
  cases rest <;> cases prerelease <;> simp

theorem validSemverIdentifier_characters (valid : validSemverIdentifier text prerelease = true) :
    text ≠ [] ∧ ∀ byte ∈ text, identifierCharacter byte = true := by
  simp only [validSemverIdentifier, Bool.and_eq_true, all_eq_true] at valid
  exact ⟨by simpa using valid.1.1, valid.1.2⟩

theorem validSemverIdentifier_prerelease :
    validSemverIdentifier text true = true ↔ PrereleaseIdentifier text := by
  constructor
  · intro valid
    obtain ⟨filled, characters⟩ := validSemverIdentifier_characters valid
    refine (alphanumeric_or_digits characters).imp_right fun digits => ?_
    rw [validSemverIdentifier_digits filled digits] at valid
    exact validCoreNumber_iff.mp valid
  · rintro (alphanumeric | numeric)
    · exact alphanumeric.valid
    have valid := validCoreNumber_iff.mpr numeric
    rw [validSemverIdentifier_digits]
    · exact valid
    · cases numeric <;> exact List.cons_ne_nil _ _
    · simp only [validCoreNumber, Bool.and_eq_true, all_eq_true] at valid
      exact valid.2

theorem validSemverIdentifier_build :
    validSemverIdentifier text false = true ↔ BuildIdentifier text := by
  constructor
  · intro valid
    obtain ⟨filled, characters⟩ := validSemverIdentifier_characters valid
    exact (alphanumeric_or_digits characters).imp_right fun digits => ⟨filled, digits⟩
  · rintro (alphanumeric | ⟨filled, digits⟩)
    · exact alphanumeric.valid
    · exact validSemverIdentifier_digits filled digits

/-- No identifier holds a dot or a plus. -/
theorem validSemverIdentifier_unmarked (valid : validSemverIdentifier text prerelease = true) :
    46 ∉ text ∧ 43 ∉ text := by
  have characters := (validSemverIdentifier_characters valid).2
  exact ⟨fun dot => absurd (characters 46 dot) (by decide),
    fun plus => absurd (characters 43 plus) (by decide)⟩

theorem validCoreNumber_unmarked (valid : validCoreNumber text = true) :
    46 ∉ text ∧ 43 ∉ text ∧ 45 ∉ text := by
  simp only [validCoreNumber, Bool.and_eq_true, all_eq_true] at valid
  exact ⟨fun dot => absurd (valid.2 46 dot) (by decide),
    fun plus => absurd (valid.2 43 plus) (by decide),
    fun dash => absurd (valid.2 45 dash) (by decide)⟩

/-- A section whose segments are valid, for the identifiers of either section. -/
theorem dotSeparated_iff {prerelease : Bool} {identifier : Bytes → Prop}
    (valid : ∀ text, validSemverIdentifier text prerelease = true ↔ identifier text) :
    ((segments 46 text).all fun part => validSemverIdentifier part prerelease) = true ↔
      DotSeparated identifier text := by
  rw [all_eq_true]
  constructor
  · intro parts
    obtain ⟨first, later, listed⟩ := segments_filled 46 text
    exact ⟨segments 46 text, by simp [listed], fun part member => (valid part).mp (parts part member),
      (intercalate_segments 46 text).symm⟩
  · rintro ⟨parts, filled, identifiers, rfl⟩
    have each : ∀ part ∈ parts, validSemverIdentifier part prerelease = true :=
      fun part member => (valid part).mpr (identifiers part member)
    rwa [segments_intercalate filled fun part member =>
      (validSemverIdentifier_unmarked (each part member)).1]

/-- No section holds a plus. -/
theorem section_unmarked {prerelease : Bool} {identifier : Bytes → Prop}
    (valid : ∀ text, validSemverIdentifier text prerelease = true ↔ identifier text)
    (separated : DotSeparated identifier text) : 43 ∉ text := by
  obtain ⟨parts, _, identifiers, rfl⟩ := separated
  intro plus
  rcases mem_intercalate plus with dot | ⟨part, listed, inside⟩
  · cases List.mem_singleton.mp dot
  · exact (validSemverIdentifier_unmarked ((valid part).mpr (identifiers part listed))).2 inside

theorem prerelease_unmarked (early : DotSeparated PrereleaseIdentifier text) : 43 ∉ text :=
  section_unmarked (fun _ => validSemverIdentifier_prerelease) early

theorem build_unmarked (built : DotSeparated BuildIdentifier text) : 43 ∉ text :=
  section_unmarked (fun _ => validSemverIdentifier_build) built

theorem versionCore_iff :
    ((segments 46 text).length = 3 && (segments 46 text).all validCoreNumber) = true ↔
      VersionCore text := by
  rw [Bool.and_eq_true, decide_eq_true_iff, all_eq_true]
  constructor
  · rintro ⟨three, valid⟩
    obtain ⟨major, minor, patch, parts⟩ := List.length_eq_three.mp three
    have whole := intercalate_segments 46 text
    simp only [parts, List.forall_mem_cons, validCoreNumber_iff] at valid whole
    exact ⟨major, minor, patch, valid.1, valid.2.1, valid.2.2.1, by simp [← whole]⟩
  · rintro ⟨major, minor, patch, first, second, third, rfl⟩
    rw [← validCoreNumber_iff] at first second third
    rw [List.append_assoc, List.cons_append, segments_append (validCoreNumber_unmarked first).1,
      segments_append (validCoreNumber_unmarked second).1,
      segments_unmarked (validCoreNumber_unmarked third).1]
    simp [first, second, third]

theorem VersionCore.unmarked (numbers : VersionCore core) : 43 ∉ core ∧ 45 ∉ core := by
  obtain ⟨major, minor, patch, first, second, third, rfl⟩ := numbers
  rw [← validCoreNumber_iff] at first second third
  have := validCoreNumber_unmarked first
  have := validCoreNumber_unmarked second
  have := validCoreNumber_unmarked third
  simp_all

/-- The checks of the validator, once the text is cut. -/
theorem validExactVersion_cut (outer : cutAt 43 value = (front, build))
    (inner : cutAt 45 front = (core, prerelease)) (filled : value ≠ []) :
    validExactVersion value = true ↔ value.length ≤ 128 ∧
      (∀ text ∈ build, 43 ∉ text ∧ DotSeparated BuildIdentifier text) ∧
      (∀ text ∈ prerelease, DotSeparated PrereleaseIdentifier text) ∧ VersionCore core := by
  simp only [← versionCore_iff, ← dotSeparated_iff fun _ => validSemverIdentifier_build,
    ← dotSeparated_iff fun _ => validSemverIdentifier_prerelease]
  simp [validExactVersion, outer, inner, filled, Option.all_eq_true, and_assoc]

theorem VersionCore.filled (numbers : VersionCore core) (text : Bytes) : core ++ text ≠ [] := by
  obtain ⟨major, minor, patch, _, _, _, rfl⟩ := numbers
  simp

/-- The validator accepts the versions of SemVer 2.0.0 with at most 128 bytes, and nothing
else. -/
theorem validExactVersion_iff (value : Bytes) :
    validExactVersion value = true ↔ value.length ≤ 128 ∧ SemVer value := by
  constructor
  · intro valid
    have filled : value ≠ [] := by
      rintro rfl
      cases valid
    rcases cutAt_cases 43 value with ⟨outer, _⟩ | ⟨front, build, outer, _, rfl⟩
    · rcases cutAt_cases 45 value with ⟨inner, _⟩ | ⟨core, early, inner, _, rfl⟩
      · obtain ⟨short, _, _, numbers⟩ := (validExactVersion_cut outer inner filled).mp valid
        exact ⟨short, .core numbers⟩
      · obtain ⟨short, _, before, numbers⟩ := (validExactVersion_cut outer inner filled).mp valid
        exact ⟨short, .prerelease numbers (before early rfl)⟩
    · rcases cutAt_cases 45 front with ⟨inner, _⟩ | ⟨core, early, inner, _, rfl⟩
      · obtain ⟨short, after, _, numbers⟩ := (validExactVersion_cut outer inner filled).mp valid
        exact ⟨short, .build numbers (after build rfl).2⟩
      · obtain ⟨short, after, before, numbers⟩ :=
          (validExactVersion_cut outer inner filled).mp valid
        exact ⟨short, .both numbers (before early rfl) (after build rfl).2⟩
  · rintro ⟨short, version⟩
    cases version with
    | core numbers =>
      have filled : value ≠ [] := by simpa using numbers.filled []
      rw [validExactVersion_cut (cutAt_unmarked numbers.unmarked.1)
        (cutAt_unmarked numbers.unmarked.2) filled]
      exact ⟨short, by simp, by simp, numbers⟩
    | @prerelease core tail numbers early =>
      have plain : 43 ∉ core ++ 45 :: tail := by simp [numbers.unmarked.1, prerelease_unmarked early]
      rw [validExactVersion_cut (cutAt_unmarked plain) (cutAt_append numbers.unmarked.2)
        (numbers.filled _)]
      exact ⟨short, by simp, by simpa using early, numbers⟩
    | @build core tail numbers built =>
      rw [validExactVersion_cut (cutAt_append numbers.unmarked.1)
        (cutAt_unmarked numbers.unmarked.2) (numbers.filled _)]
      exact ⟨short, by simpa using ⟨build_unmarked built, built⟩, by simp, numbers⟩
    | @both core middle tail numbers early built =>
      have plain : 43 ∉ core ++ 45 :: middle := by simp [numbers.unmarked.1, prerelease_unmarked early]
      rw [validExactVersion_cut (cutAt_append plain) (cutAt_append numbers.unmarked.2) (by simp)]
      exact ⟨short, by simpa using ⟨build_unmarked built, built⟩, by simpa using early, numbers⟩

end ShortHand.Modules
