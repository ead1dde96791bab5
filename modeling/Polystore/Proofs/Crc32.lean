import Polystore.Crc32

/-!
# Checks from two initial values

A check is linear in its register: two registers that take in the same bytes differ by
something that depends on how they differed before and on the number of bytes alone.
For texts of one length, a second check from another initial value therefore tells no
more than the first.
-/

namespace Polystore.Crc32

theorem and_one_cases (register : UInt32) : register &&& 1 = 0 ∨ register &&& 1 = 1 := by
  have low : (register &&& 1).toNat = register.toNat % 2 := by
    rw [UInt32.toNat_and]
    exact Nat.and_one_is_mod _
  rcases Nat.mod_two_eq_zero_or_one register.toNat with even | odd
  · apply Or.inl
    apply UInt32.toNat_inj.mp
    rw [low, even]
    rfl
  · apply Or.inr
    apply UInt32.toNat_inj.mp
    rw [low, odd]
    rfl

theorem xor_and_one (left right : UInt32) :
    (left ^^^ right) &&& 1 = (left &&& 1) ^^^ (right &&& 1) := by
  apply UInt32.toNat_inj.mp
  simp only [UInt32.toNat_and, UInt32.toNat_xor, Nat.and_xor_distrib_right]

theorem xor_cancel (left right shared : UInt32) :
    (left ^^^ shared) ^^^ (right ^^^ shared) = left ^^^ right := by
  have gathered : (left ^^^ shared) ^^^ (right ^^^ shared) =
      (left ^^^ right) ^^^ (shared ^^^ shared) := by
    ac_rfl
  rw [gathered, UInt32.xor_self, UInt32.xor_zero]

theorem stepBit_xor (left right : UInt32) :
    stepBit (left ^^^ right) = stepBit left ^^^ stepBit right := by
  rw [stepBit, stepBit, stepBit, xor_and_one, UInt32.shiftRight_xor]
  rcases and_one_cases left with leftLow | leftLow
  · rcases and_one_cases right with rightLow | rightLow
    · simp [leftLow, rightLow]
    · simp [leftLow, rightLow, UInt32.xor_assoc]
  · rcases and_one_cases right with rightLow | rightLow
    · simp [leftLow, rightLow]
      ac_rfl
    · simp [leftLow, rightLow, xor_cancel]

/-- What taking in a byte does to a register that holds the byte already. -/
def stepEight (register : UInt32) : UInt32 :=
  (List.range 8).foldl (fun register _ => stepBit register) register

theorem stepEight_xor (left right : UInt32) :
    stepEight (left ^^^ right) = stepEight left ^^^ stepEight right := by
  rw [stepEight, stepEight, stepEight]
  induction List.range 8 generalizing left right with
  | nil => rfl
  | cons _ rest ih => rw [List.foldl_cons, List.foldl_cons, List.foldl_cons, stepBit_xor, ih]

/-- How two registers differ after so many bytes. -/
def drift : (count : Nat) → UInt32 → UInt32
  | 0, difference => difference
  | count + 1, difference => drift count (stepEight difference)

theorem foldl_stepByte_xor (bytes : List UInt8) (left right : UInt32) :
    bytes.foldl stepByte left ^^^ bytes.foldl stepByte right =
      drift bytes.length (left ^^^ right) := by
  induction bytes generalizing left right with
  | nil => rfl
  | cons byte rest ih =>
      have step : stepByte left byte ^^^ stepByte right byte = stepEight (left ^^^ right) := by
        rw [← xor_cancel left right byte.toUInt32, stepEight_xor]
        rfl
      rw [List.foldl_cons, List.foldl_cons, ih, step]
      rfl

/-- Of texts of one length, the check from one initial value tells the check from any
other. -/
theorem continued_eq_of_length_eq {left right : List UInt8} (level : left.length = right.length)
    {initial : UInt32} (same : continued initial left = continued initial right)
    (other : UInt32) : continued other left = continued other right := by
  rw [continued, continued] at same ⊢
  have leftDrift := foldl_stepByte_xor left (~~~other) (~~~initial)
  have rightDrift := foldl_stepByte_xor right (~~~other) (~~~initial)
  rw [level, ← rightDrift, UInt32.not_inj.mp same] at leftDrift
  rw [(UInt32.xor_left_inj _).mp leftDrift]

end Polystore.Crc32
