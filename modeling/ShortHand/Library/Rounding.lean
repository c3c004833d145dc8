import Mathlib.Algebra.Order.Ring.Int
import Mathlib.Data.Int.Order.Basic

/-! Rounding to nearest. Numbers are multiples of one unit; a format keeps some leading bits and
none below its least position. -/

namespace ShortHand.Library

/-- No value that the function takes is nearer than the one it takes here. -/
def RoundsToNearest (round : Int → Int) : Prop :=
  ∀ x y, (x - round x).natAbs ≤ (x - round y).natAbs

theorem RoundsToNearest.mono {round : Int → Int} (nearest : RoundsToNearest round) (le : x ≤ y) :
    round x ≤ round y := by
  rcases Int.lt_or_eq_of_le le with less | rfl
  · have first := nearest x y
    have second := nearest y x
    omega
  · exact Int.le_refl _

/-- The nearest multiple, as a quotient; a tie goes to the even one. -/
def nearestQuotient (number unit : Nat) : Nat :=
  if 2 * (number % unit) < unit ∨ (2 * (number % unit) = unit ∧ number / unit % 2 = 0)
  then number / unit else number / unit + 1

/-- The place of the last bit that is kept. -/
def lastPlace (least bits number : Nat) : Nat := max least (number.log2 + 1 - bits)

def roundMagnitude (least bits number : Nat) : Nat :=
  nearestQuotient number (2 ^ lastPlace least bits number) * 2 ^ lastPlace least bits number

def roundBinary (least bits : Nat) (number : Int) : Int :=
  number.sign * roundMagnitude least bits number.natAbs

variable {least bits : Nat}

theorem nearestQuotient_nearest {number unit : Nat} (positive : 0 < unit) (other : Nat) :
    ((number : Int) - (nearestQuotient number unit * unit : Nat)).natAbs ≤
      ((number : Int) - (other * unit : Nat)).natAbs := by
  have split : unit * (number / unit) + number % unit = number := Nat.div_add_mod number unit
  have rest : number % unit < unit := Nat.mod_lt _ positive
  have away : other * unit ≤ number / unit * unit ∨ number / unit * unit + unit ≤ other * unit := by
    rcases Nat.lt_or_ge (number / unit) other with above | below
    · right
      rw [← Nat.succ_mul]
      exact Nat.mul_le_mul_right unit above
    · exact .inl (Nat.mul_le_mul_right unit below)
  rw [Nat.mul_comm] at split
  unfold nearestQuotient
  split
  · omega
  · rw [Nat.succ_mul]
    omega

/-- A number of a smaller place rounds to at most the leading power of the larger one. -/
theorem roundMagnitude_le_pow (kept : 0 < bits)
    (smaller : lastPlace least bits other < lastPlace least bits number) :
    roundMagnitude least bits other ≤ 2 ^ number.log2 := by
  unfold lastPlace at smaller
  have places : lastPlace least bits other ≤ number.log2 := by
    unfold lastPlace
    omega
  have below : other < 2 ^ number.log2 := by
    have shorter : other.log2 + 1 ≤ number.log2 := by omega
    exact Nat.lt_of_lt_of_le Nat.lt_log2_self (Nat.pow_le_pow_right (by decide) shorter)
  have whole : 2 ^ number.log2 =
      2 ^ (number.log2 - lastPlace least bits other) * 2 ^ lastPlace least bits other := by
    rw [← Nat.pow_add, Nat.sub_add_cancel places]
  rw [whole] at below ⊢
  have quotient := Nat.div_lt_of_lt_mul (Nat.mul_comm _ _ ▸ below)
  refine Nat.mul_le_mul_right _ ?_
  unfold nearestQuotient
  split
  · exact Nat.le_of_lt quotient
  · exact quotient

theorem roundMagnitude_nearest (kept : 0 < bits) (number other : Nat) :
    ((number : Int) - (roundMagnitude least bits number : Nat)).natAbs ≤
      ((number : Int) - (roundMagnitude least bits other : Nat)).natAbs := by
  have multiple := @nearestQuotient_nearest number _ (Nat.two_pow_pos (lastPlace least bits number))
  rcases Nat.lt_or_ge (lastPlace least bits other) (lastPlace least bits number) with
    smaller | larger
  · -- the other value is at most the leading power of two, which is a multiple as well
    have bounded := roundMagnitude_le_pow kept smaller
    have places : lastPlace least bits number ≤ number.log2 ∧ number ≠ 0 := by
      unfold lastPlace at smaller ⊢
      constructor
      · omega
      · rintro rfl
        simp at smaller
        omega
    have leading := multiple (2 ^ (number.log2 - lastPlace least bits number))
    rw [← Nat.pow_add, Nat.sub_add_cancel places.1] at leading
    have least := Nat.log2_self_le places.2
    unfold roundMagnitude at bounded ⊢
    omega
  · obtain ⟨factor, same⟩ : 2 ^ lastPlace least bits number ∣ roundMagnitude least bits other :=
      Dvd.dvd.mul_left (Nat.pow_dvd_pow 2 larger) _
    rw [same, Nat.mul_comm]
    exact multiple factor

theorem natAbs_roundBinary (number : Int) :
    (roundBinary least bits number).natAbs = roundMagnitude least bits number.natAbs := by
  rcases Int.lt_trichotomy number 0 with negative | rfl | positive
  · simp [roundBinary, Int.sign_eq_neg_one_of_neg negative]
  · simp [roundBinary, roundMagnitude, nearestQuotient]
  · simp [roundBinary, Int.sign_eq_one_of_pos positive]

theorem roundBinary_nearest (kept : 0 < bits) : RoundsToNearest (roundBinary least bits) := by
  intro x y
  have magnitudes := @roundMagnitude_nearest least bits kept x.natAbs y.natAbs
  rw [← natAbs_roundBinary y] at magnitudes
  have same : (x - roundBinary least bits x).natAbs =
      ((x.natAbs : Int) - (roundMagnitude least bits x.natAbs : Nat)).natAbs := by
    rcases Int.lt_trichotomy x 0 with negative | rfl | positive
    · rw [roundBinary, Int.sign_eq_neg_one_of_neg negative]
      omega
    · rw [← natAbs_roundBinary]
      omega
    · rw [roundBinary, Int.sign_eq_one_of_pos positive]
      omega
  omega

theorem roundBinary_natCast (number : Nat) :
    roundBinary least bits number = (roundMagnitude least bits number : Int) := by
  rcases Nat.eq_zero_or_pos number with rfl | positive
  · simp [roundBinary, roundMagnitude, nearestQuotient]
  · simp [roundBinary, Int.sign_eq_one_of_pos (Int.natCast_pos.mpr positive)]

/-- Rounding stays below a bound that it keeps. -/
theorem natAbs_roundBinary_le {bound : Nat} (kept : 0 < bits)
    (fixed : roundMagnitude least bits bound = bound) (small : number.natAbs ≤ bound) :
    (roundBinary least bits number).natAbs ≤ bound := by
  have mono := (@roundBinary_nearest least bits kept).mono (Int.ofNat_le.mpr small)
  rw [roundBinary_natCast, roundBinary_natCast, fixed] at mono
  rw [natAbs_roundBinary]
  exact Int.ofNat_le.mp mono

end ShortHand.Library
