import Polystore.Double.Basic
import Mathlib.Algebra.Order.Ring.Int

/-!
# Integers as binary64 numbers

The magnitude nearest to a natural number has 53 bits of it.  From 2 ^ 63 on it therefore tells
only multiples of 2048, and the naturals just below are told from those above up to a distance
of 512.
-/

namespace Polystore.Double

/-! ## Quotients -/

theorem roundQuotient_bounds (numerator denominator : Nat) :
    numerator / denominator ≤ roundQuotient numerator denominator ∧
      roundQuotient numerator denominator ≤ numerator / denominator + 1 := by
  rw [roundQuotient]
  split <;> omega

theorem roundQuotient_mono {smaller larger : Nat} (denominator : Nat) (le : smaller ≤ larger) :
    roundQuotient smaller denominator ≤ roundQuotient larger denominator := by
  have quotients : smaller / denominator ≤ larger / denominator := Nat.div_le_div_right le
  rcases Nat.lt_or_eq_of_le quotients with apart | same
  · have above := (roundQuotient_bounds smaller denominator).2
    have below := (roundQuotient_bounds larger denominator).1
    omega
  · have parts := Nat.div_add_mod smaller denominator
    have largerParts := Nat.div_add_mod larger denominator
    rw [same] at parts
    rw [roundQuotient, roundQuotient, same]
    split <;> split <;> omega

theorem roundQuotient_one (numerator : Nat) : roundQuotient numerator 1 = numerator := by
  rw [roundQuotient, Nat.div_one, Nat.mod_one]
  split <;> omega

/-! ## Natural numbers -/

section

variable {value : Nat}

/-- A natural number of at most 53 bits, moved up to 53 bits. -/
theorem scaled_of_low (low : value.log2 ≤ 52) :
    scaled value 1 ((value.log2 : Int) - 52) = (value * 2 ^ (52 - value.log2), 1) := by
  rw [scaled]
  split
  · next high =>
    have full : value.log2 = 52 := by omega
    rw [full]
    exact Prod.ext (Nat.mul_one value).symm rfl
  · have moved : (-((value.log2 : Int) - 52)).toNat = 52 - value.log2 := by omega
    rw [moved]
    rfl

/-- A natural number of at least 53 bits, cut after 53 bits. -/
theorem scaled_of_high (high : 52 ≤ value.log2) :
    scaled value 1 ((value.log2 : Int) - 52) = (value, 2 ^ (value.log2 - 52)) := by
  have cut : ((value.log2 : Int) - 52).toNat = value.log2 - 52 := by omega
  rw [scaled, if_pos (by omega), cut, Nat.one_mul]
  rfl

theorem shifted_bounds (positive : 0 < value) (low : value.log2 ≤ 52) :
    leadingBit ≤ value * 2 ^ (52 - value.log2) ∧
      value * 2 ^ (52 - value.log2) < 2 * leadingBit := by
  have unit : 0 < 2 ^ (52 - value.log2) := Nat.two_pow_pos _
  have below := Nat.mul_le_mul_right (2 ^ (52 - value.log2))
    (Nat.log2_self_le (Nat.ne_of_gt positive))
  have above := Nat.mul_lt_mul_of_pos_right (Nat.lt_log2_self (n := value)) unit
  rw [← Nat.pow_add, Nat.add_sub_cancel' low] at below
  rw [Nat.pow_succ, Nat.mul_right_comm, ← Nat.pow_add, Nat.add_sub_cancel' low] at above
  exact ⟨below, Nat.mul_comm _ 2 ▸ above⟩

theorem quotient_bounds (positive : 0 < value) (high : 52 ≤ value.log2) :
    leadingBit ≤ value / 2 ^ (value.log2 - 52) ∧
      value / 2 ^ (value.log2 - 52) < 2 * leadingBit := by
  have below := Nat.log2_self_le (Nat.ne_of_gt positive)
  have above : value < 2 ^ (value.log2 + 1) := Nat.lt_log2_self
  obtain ⟨cut, bits⟩ := Nat.exists_eq_add_of_le high
  have unit : 0 < 2 ^ cut := Nat.two_pow_pos _
  rw [bits, Nat.pow_add] at below
  rw [bits, Nat.pow_succ', Nat.pow_add, ← Nat.mul_assoc] at above
  rw [bits, Nat.add_sub_cancel_left]
  exact ⟨(Nat.le_div_iff_mul_le unit).mpr below, (Nat.div_lt_iff_lt_mul unit).mpr above⟩

/-- The 53rd bit of a natural number is the last place of its magnitude. -/
theorem placeExponent_natural (positive : 0 < value) :
    placeExponent value 1 = (value.log2 : Int) - 52 := by
  have full : ¬(scaled value 1 ((value.log2 : Int) - 52)).1 /
      (scaled value 1 ((value.log2 : Int) - 52)).2 < leadingBit := by
    rw [Nat.not_lt]
    rcases Nat.le_total value.log2 52 with low | high
    · rw [scaled_of_low low, Nat.div_one]
      exact (shifted_bounds positive low).1
    · rw [scaled_of_high high]
      exact (quotient_bounds positive high).1
  have guess : ((value.log2 : Int) - (Nat.log2 1 : Nat) - 52) = (value.log2 : Int) - 52 := by
    rw [show Nat.log2 1 = 0 from rfl]
    omega
  rw [placeExponent, guess]
  dsimp only
  rw [if_neg full]
  omega

/-- The significand of the magnitude nearest to a natural number. -/
def significand (value : Nat) : Nat :=
  if value.log2 ≤ 52 then value * 2 ^ (52 - value.log2)
  else roundQuotient value (2 ^ (value.log2 - 52))

theorem significand_bounds (positive : 0 < value) :
    leadingBit ≤ significand value ∧ significand value ≤ 2 * leadingBit := by
  rw [significand]
  split
  · next low =>
    have bounds := shifted_bounds positive low
    omega
  · next notLow =>
    have bounds := quotient_bounds positive (Nat.le_of_not_le notLow)
    have rounded := roundQuotient_bounds value (2 ^ (value.log2 - 52))
    omega

/-- The magnitude nearest to a natural number of at most 64 bits. -/
theorem roundRatio_natural (positive : 0 < value) (small : value < 2 ^ 64) :
    roundRatio value 1 = (value.log2 + 1022) * leadingBit + significand value := by
  have bits : value.log2 < 64 := (Nat.log2_lt (Nat.ne_of_gt positive)).mpr small
  have bounds := significand_bounds positive
  have place : ((value.log2 : Int) - 52 + 1074).toNat = value.log2 + 1022 := by omega
  have rounded : roundQuotient (scaled value 1 ((value.log2 : Int) - 52)).1
      (scaled value 1 ((value.log2 : Int) - 52)).2 = significand value := by
    rw [significand]
    split
    · next low => rw [scaled_of_low low, roundQuotient_one]
    · next notLow => rw [scaled_of_high (Nat.le_of_not_le notLow)]
  have finite : (value.log2 + 1022) * leadingBit + significand value ≤ infiniteMagnitude := by
    rw [infiniteMagnitude, leadingBit] at *
    omega
  rw [roundRatio, if_neg (Nat.ne_of_gt positive), placeExponent_natural positive]
  dsimp only
  rw [place, rounded, Nat.min_eq_right finite]

end

/-! ## At the end of the signed words -/

section

variable {value : Nat}

theorem significand_of_log2_eq {bits : Nat} (many : 52 < bits) (same : value.log2 = bits) :
    significand value = roundQuotient value (2 ^ (bits - 52)) := by
  rw [significand, same, if_neg (Nat.not_le.mpr many)]

/-- From 2 ^ 63 - 512 on, a magnitude tells multiples of 2048. -/
theorem roundRatio_of_high (high : 2 ^ 63 - 512 ≤ value) (small : value < 2 ^ 64) :
    roundRatio value 1 = 1085 * leadingBit + roundQuotient value 2048 := by
  have positive : 0 < value := by omega
  rw [roundRatio_natural positive small]
  by_cases signed : value < 2 ^ 63
  · have bits : value.log2 = 62 :=
      (Nat.log2_eq_iff (Nat.ne_of_gt positive)).mpr ⟨by omega, signed⟩
    have fine : roundQuotient value 1024 = 2 * leadingBit := by
      rw [roundQuotient, leadingBit]
      split <;> omega
    have coarse : roundQuotient value 2048 = leadingBit := by
      rw [roundQuotient, leadingBit]
      split <;> omega
    rw [significand_of_log2_eq (by decide) bits, bits, coarse]
    change _ + roundQuotient value 1024 = _
    omega
  · have bits : value.log2 = 63 :=
      (Nat.log2_eq_iff (Nat.ne_of_gt positive)).mpr ⟨Nat.le_of_not_lt signed, small⟩
    rw [significand_of_log2_eq (by decide) bits, bits]
    rfl

/-- The magnitudes below 2 ^ 63 - 512 are below that of 2 ^ 63. -/
theorem roundRatio_of_low (low : value < 2 ^ 63 - 512) :
    roundRatio value 1 < 1086 * leadingBit := by
  rcases Nat.eq_zero_or_pos value with rfl | positive
  · decide
  rw [roundRatio_natural positive (by omega)]
  by_cases small : value < 2 ^ 62
  · have bits : value.log2 < 62 := (Nat.log2_lt (Nat.ne_of_gt positive)).mpr small
    have bounds := significand_bounds positive
    rw [leadingBit] at *
    omega
  · have bits : value.log2 = 62 :=
      (Nat.log2_eq_iff (Nat.ne_of_gt positive)).mpr ⟨by omega, by omega⟩
    have fine : roundQuotient value 1024 < 2 * leadingBit := by
      rw [roundQuotient, leadingBit]
      split <;> omega
    rw [significand_of_log2_eq (by decide) bits, bits]
    change _ + roundQuotient value 1024 < _
    omega

theorem leadingBit_le_roundQuotient (high : 2 ^ 63 ≤ value) :
    leadingBit ≤ roundQuotient value 2048 := by
  have below := (roundQuotient_bounds value 2048).1
  rw [leadingBit]
  omega

/-- Integers that round to one multiple of 2048 are at most 2048 apart. -/
theorem sub_le_of_roundQuotient_eq {other : Nat}
    (same : roundQuotient value 2048 = roundQuotient other 2048) : value ≤ other + 2048 := by
  rw [roundQuotient, roundQuotient] at same
  split at same <;> split at same <;> omega

end

end Polystore.Double
