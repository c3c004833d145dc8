import Mathlib.Algebra.Order.Field.Basic
import Mathlib.Data.Nat.Digits.Lemmas
import ShortHand.Evidence.Workbook

/-! A notation for all rationals, so that exact numerals exist: the numerator and the
denominator around a decimal point. -/

namespace ShortHand.Evidence

open List

namespace Quotient

/-- The decimal digits of a number. -/
def digitsOf (value : Nat) : Bytes :=
  if value = 0 then [48]
  else (Nat.digits 10 value).reverse.map fun digit => Fin.ofNat 256 (48 + digit)

variable (number : ℚ)

/-- The denominator after the point; whole numbers have none. -/
def pointed : Bytes := if number.den = 1 then [] else 46 :: digitsOf number.den

/-- Numerator and denominator around the point. -/
def text : Bytes :=
  (if number < 0 then [45] else []) ++ (digitsOf number.num.natAbs ++ pointed number)

def unsigned (token : Bytes) : Option ℚ :=
  if (token.takeWhile isDigit).isEmpty then none
  else
    match token.dropWhile isDigit with
    | [] => some (decimal token)
    | 46 :: rest => some (decimal (token.takeWhile isDigit) / decimal rest)
    | _ => none

def read (token : Bytes) : Option ℚ :=
  match signOf token with
  | ([], rest) => unsigned rest
  | (_, rest) => (unsigned rest).map (-·)

variable {value : Nat} {rest : Bytes}

theorem digitsOf_digit : ∀ byte ∈ digitsOf value, isDigit byte = true := by
  have digits : ∀ digit < 10, isDigit (Fin.ofNat 256 (48 + digit)) = true := by decide
  intro byte inside
  unfold digitsOf at inside
  split_ifs at inside
  · rw [mem_singleton.mp inside]
    rfl
  · obtain ⟨digit, isDigit_, rfl⟩ := mem_map.mp inside
    exact digits digit (Nat.digits_lt_base (by decide) (mem_reverse.mp isDigit_))

/-- Only zero starts with a zero. -/
theorem digitsOf_cons : ∃ byte tail, digitsOf value = byte :: tail ∧ (byte = 48 → tail = []) := by
  unfold digitsOf
  split_ifs with zero
  · exact ⟨48, [], rfl, fun _ => rfl⟩
  have nonempty : Nat.digits 10 value ≠ [] := Nat.digits_ne_nil_iff_ne_zero.mpr zero
  have leading := Nat.getLast_digit_ne_zero 10 zero
  have small := Nat.digits_lt_base (b := 10) (by decide) (getLast_mem nonempty)
  have other : ∀ digit < 10, digit ≠ 0 → Fin.ofNat 256 (48 + digit) ≠ 48 := by decide
  rw [← dropLast_append_getLast nonempty]
  rw [reverse_append]
  exact ⟨_, _, rfl, fun same => absurd same (other _ small leading)⟩

theorem decimal_digitsOf : decimal (digitsOf value) = value := by
  have reversed : ∀ digits : List Nat, (∀ digit ∈ digits, digit < 10) →
      decimal (digits.reverse.map fun digit => Fin.ofNat 256 (48 + digit)) = Nat.ofDigits 10 digits := by
    intro digits small
    have each : ∀ digit < 10, (Fin.ofNat 256 (48 + digit)).val - 48 = digit := by decide
    rw [decimal, foldl_map, foldl_reverse, Nat.ofDigits_eq_foldr]
    induction digits with
    | nil => rfl
    | cons digit digits ih =>
      obtain ⟨this, later⟩ := forall_mem_cons.mp small
      rw [foldr_cons, foldr_cons, ih later, each digit this]
      simp only [Nat.cast_id]
      omega
  unfold digitsOf
  split_ifs with zero
  · rw [zero]
    rfl
  · rw [reversed _ fun digit inside => Nat.digits_lt_base (by decide) inside, Nat.ofDigits_digits]

theorem takeWhile_digitsOf (ends : rest = [] ∨ ∃ tail, rest = 46 :: tail) :
    (digitsOf value ++ rest).takeWhile isDigit = digitsOf value ∧
      (digitsOf value ++ rest).dropWhile isDigit = rest := by
  have all := @digitsOf_digit value
  have stop : rest.takeWhile isDigit = [] ∧ rest.dropWhile isDigit = rest := by
    rcases ends with rfl | ⟨tail, rfl⟩
    · exact ⟨rfl, rfl⟩
    · exact ⟨rfl, rfl⟩
  rw [takeWhile_append_of_pos all, dropWhile_append_of_pos all, stop.1, stop.2,
    append_nil]
  exact ⟨rfl, rfl⟩

theorem digits_digitsOf : Digits (digitsOf value) := by
  obtain ⟨byte, tail, digits, _⟩ := @digitsOf_cons value
  exact ⟨by rw [digits]; nofun, digitsOf_digit⟩

theorem integerText_digitsOf : IntegerText (digitsOf value) := by
  have digits := @digits_digitsOf value
  obtain ⟨byte, tail, same, leading⟩ := @digitsOf_cons value
  rw [same] at digits ⊢
  by_cases zero : byte = 48
  · rw [zero, leading zero]
    exact .zero
  · exact .positive digits zero

theorem signOf_text : signOf (text number) =
    (if number < 0 then [45] else [], digitsOf number.num.natAbs ++ pointed number) := by
  unfold text
  split_ifs
  · rfl
  · obtain ⟨byte, tail, digits, first⟩ := (@integerText_digitsOf number.num.natAbs).head
    rw [digits]
    exact signOf_of_ne (by rintro rfl; cases first)

theorem pointed_cases : pointed number = [] ∨ ∃ tail, pointed number = 46 :: tail := by
  unfold pointed
  split_ifs
  · exact .inl rfl
  · exact .inr ⟨_, rfl⟩

theorem scan_text : scanNumber (text number) = .ok (text number, []) := by
  have fraction : FractionText (pointed number) := by
    unfold pointed
    split_ifs
    · exact .none
    · exact .point digits_digitsOf
  have signed : (if number < 0 then [45] else ([] : Bytes)) = [] ∨
      (if number < 0 then [45] else ([] : Bytes)) = [45] := by
    split_ifs <;> simp
  rw [scanNumber_iff]
  simpa [text] using NumberText.number signed (@integerText_digitsOf number.num.natAbs) fraction .none

theorem unsigned_text :
    unsigned (digitsOf number.num.natAbs ++ pointed number) = some |number| := by
  have split := @takeWhile_digitsOf number.num.natAbs _ (pointed_cases number)
  obtain ⟨byte, tail, digits, _⟩ := @digitsOf_cons number.num.natAbs
  have nonempty : ¬(digitsOf number.num.natAbs).isEmpty = true := by
    rw [digits]
    exact Bool.false_ne_true
  have magnitude : |number| = (number.num.natAbs : ℚ) / number.den := by
    rw [Nat.cast_natAbs, Int.cast_abs]
    nth_rewrite 1 [← Rat.num_div_den number]
    rw [abs_div, Nat.abs_cast]
  rw [unsigned, split.1, if_neg nonempty, split.2, magnitude]
  by_cases whole : number.den = 1
  · simp [pointed, whole, decimal_digitsOf]
  · simp [pointed, whole, decimal_digitsOf]

theorem read_text : read (text number) = some number := by
  rw [read, signOf_text]
  by_cases negative : number < 0
  · simp [negative, unsigned_text, abs_of_neg negative]
  · simp [negative, unsigned_text, abs_of_nonneg (not_lt.mp negative)]

theorem text_length (value : Nat) (small : value < 10 ^ 18) : (text (value : ℚ)).length ≤ 24 := by
  have nonnegative : ¬(value : ℚ) < 0 := not_lt.mpr (Nat.cast_nonneg value)
  have digits := (Nat.digits_length_le_iff (b := 10) (by decide) value).mpr small
  have length : (digitsOf value).length ≤ 18 := by
    unfold digitsOf
    split_ifs
    · decide
    · rwa [length_map, length_reverse]
  simp only [text, pointed, if_neg nonnegative, Rat.num_natCast, Rat.den_natCast,
    Int.natAbs_natCast, nil_append, if_true, append_nil]
  omega

def numerals : ExactNumerals := ⟨text, read, scan_text, read_text, text_length⟩

end Quotient

end ShortHand.Evidence
