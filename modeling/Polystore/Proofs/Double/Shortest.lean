import Mathlib.Algebra.Order.Field.Power
import Mathlib.Algebra.Order.Floor.Semifield
import Mathlib.Data.Rat.Floor
import Mathlib.Tactic.FieldSimp
import Mathlib.Tactic.Linarith
import Mathlib.Tactic.NormNum
import Mathlib.Tactic.Positivity
import Mathlib.Tactic.Ring
import Polystore.Double.Shortest

/-!
# The shortest decimal belongs to one magnitude

The midpoints between neighbouring magnitudes cut the positive numbers into
stretches, one for every magnitude, and an even magnitude owns both ends of its
stretch.  The search finds a decimal in the stretch of its magnitude: with
seventeen digits the decimals lie closer together than the ends of any stretch.
-/

namespace Polystore.Double

/-- The number `digits * 10 ^ step`. -/
def decimal (digits : Nat) (step : Int) : ℚ :=
  digits * 10 ^ step

/-! ## The stretch of a magnitude -/

/-- The point halfway from a magnitude to the next one. -/
def midpoint (magnitude : Nat) : ℚ :=
  ((decode magnitude).1 + 1 / 2) * 2 ^ (decode magnitude).2

/-- A point lies between two others, which count only if the interval is closed. -/
def Between (closed : Bool) (low high point : ℚ) : Prop :=
  if closed then low ≤ point ∧ point ≤ high else low < point ∧ point < high

theorem between_of_lt {closed : Bool} {low high point : ℚ} (above : low < point)
    (below : point < high) : Between closed low high point := by
  cases closed with
  | false => exact ⟨above, below⟩
  | true => exact ⟨above.le, below.le⟩

theorem Between.le {closed : Bool} {low high point : ℚ} (between : Between closed low high point) :
    low ≤ point ∧ point ≤ high := by
  cases closed with
  | false => exact ⟨between.1.le, between.2.le⟩
  | true => exact between

/-- A decimal reads back as a magnitude if it lies in the magnitude's stretch. -/
def ReadsAs (magnitude : Nat) (point : ℚ) : Prop :=
  Between (magnitude % 2 = 0) (midpoint (magnitude - 1)) (midpoint magnitude) point

theorem decode_subnormal {magnitude : Nat} (small : magnitude < leadingBit) :
    decode magnitude = (magnitude, -1074) := by
  rw [decode, Nat.div_eq_of_lt small, Nat.mod_eq_of_lt small]
  rfl

theorem decode_normal (field fraction : Nat) (small : fraction < leadingBit) :
    decode ((field + 1) * leadingBit + fraction) =
      (fraction + leadingBit, (field : Int) - 1074) := by
  have quotient : ((field + 1) * leadingBit + fraction) / leadingBit = field + 1 := by
    rw [Nat.mul_comm, Nat.mul_add_div (by decide), Nat.div_eq_of_lt small, Nat.add_zero]
  have rest : ((field + 1) * leadingBit + fraction) % leadingBit = fraction := by
    rw [Nat.mul_comm, Nat.mul_add_mod, Nat.mod_eq_of_lt small]
  simp only [decode, quotient, rest, Nat.add_one_ne_zero, if_false]
  rw [Prod.mk.injEq]
  constructor
  · rfl
  · omega

/-- A magnitude is subnormal, or has a field and a fraction. -/
theorem magnitude_cases (magnitude : Nat) :
    magnitude < leadingBit ∨
      ∃ field fraction, fraction < leadingBit ∧
        magnitude = (field + 1) * leadingBit + fraction := by
  by_cases small : magnitude < leadingBit
  · exact Or.inl small
  · apply Or.inr
    have positive : 0 < magnitude / leadingBit := Nat.div_pos (Nat.not_lt.mp small) (by decide)
    exists magnitude / leadingBit - 1, magnitude % leadingBit
    constructor
    · exact Nat.mod_lt _ (by decide)
    · rw [Nat.sub_add_cancel positive, Nat.mul_comm]
      exact (Nat.div_add_mod magnitude leadingBit).symm

/-- Quarters of the last binary place from a magnitude down to the midpoint below it. -/
def quartersBelow (magnitude : Nat) : Nat :=
  if magnitude % leadingBit = 0 ∧ magnitude / leadingBit > 1 then 1 else 2

theorem quartersBelow_cases (magnitude : Nat) :
    quartersBelow magnitude = 2 ∨
      quartersBelow magnitude = 1 ∧ (decode magnitude).1 = leadingBit := by
  rw [quartersBelow]
  split
  · next edge =>
    apply Or.inr
    constructor
    · rfl
    · have field : magnitude / leadingBit ≠ 0 := by omega
      simp only [decode, field, if_false, edge.1, Nat.zero_add]
  · exact Or.inl rfl

theorem decode_fst_lt (magnitude : Nat) : (decode magnitude).1 < 2 * leadingBit := by
  rcases magnitude_cases magnitude with small | ⟨field, fraction, small, rfl⟩
  · rw [decode_subnormal small]
    dsimp only
    omega
  · rw [decode_normal field fraction small]
    dsimp only
    omega

theorem decode_fst_pos {magnitude : Nat} (positive : 0 < magnitude) :
    0 < (decode magnitude).1 := by
  rcases magnitude_cases magnitude with small | ⟨field, fraction, small, rfl⟩
  · rw [decode_subnormal small]
    exact positive
  · rw [decode_normal field fraction small]
    exact Nat.add_pos_right _ (by decide)

theorem leadingBit_pos : 0 < leadingBit := by
  decide

theorem quartersBelow_subnormal {magnitude : Nat} (small : magnitude < leadingBit) :
    quartersBelow magnitude = 2 := by
  rw [quartersBelow, Nat.div_eq_of_lt small]
  exact if_neg fun edge => absurd edge.2 (by decide)

theorem quartersBelow_normal (field fraction : Nat) (small : fraction < leadingBit) :
    quartersBelow ((field + 1) * leadingBit + fraction) =
      if fraction = 0 ∧ field ≠ 0 then 1 else 2 := by
  have quotient : ((field + 1) * leadingBit + fraction) / leadingBit = field + 1 := by
    rw [Nat.mul_comm, Nat.mul_add_div leadingBit_pos, Nat.div_eq_of_lt small, Nat.add_zero]
  have rest : ((field + 1) * leadingBit + fraction) % leadingBit = fraction := by
    rw [Nat.mul_comm, Nat.mul_add_mod, Nat.mod_eq_of_lt small]
  have beyond : field + 1 > 1 ↔ field ≠ 0 := by omega
  simp only [quartersBelow, quotient, rest, beyond]

/-- The midpoint below a magnitude, by the magnitude's own significand. -/
theorem midpoint_pred {magnitude : Nat} (positive : 0 < magnitude) :
    midpoint (magnitude - 1) =
      ((decode magnitude).1 - (quartersBelow magnitude : ℚ) / 4) * 2 ^ (decode magnitude).2 := by
  have lastFraction : leadingBit - 1 < leadingBit := Nat.sub_lt leadingBit_pos Nat.one_pos
  rcases magnitude_cases magnitude with small | ⟨field, fraction, small, rfl⟩
  · have smaller : magnitude - 1 < leadingBit := Nat.lt_of_le_of_lt (Nat.sub_le _ _) small
    rw [midpoint, decode_subnormal small, decode_subnormal smaller,
      quartersBelow_subnormal small]
    dsimp only
    rw [Nat.cast_pred positive]
    generalize (2 : ℚ) ^ (-1074 : ℤ) = place
    ring
  · rw [quartersBelow_normal field fraction small, decode_normal field fraction small]
    cases fraction with
    | succ fraction =>
        rw [if_neg fun edge => absurd edge.1 (Nat.succ_ne_zero fraction), midpoint,
          ← Nat.add_assoc, Nat.add_sub_cancel,
          decode_normal field fraction (Nat.lt_of_succ_lt small)]
        push_cast
        ring
    | zero =>
        -- the exponent changes below a field of its own, but not at the first field
        cases field with
        | zero =>
            rw [if_neg fun edge => edge.2 rfl, midpoint, Nat.zero_add, Nat.one_mul, Nat.add_zero,
              decode_subnormal lastFraction, Nat.cast_pred leadingBit_pos,
              show ((0 : ℕ) : ℤ) - 1074 = -1074 from rfl]
            generalize (2 : ℚ) ^ (-1074 : ℤ) = place
            push_cast
            ring
        | succ field =>
            have before : (field + 1 + 1) * leadingBit + 0 - 1 =
                (field + 1) * leadingBit + (leadingBit - 1) := by
              rw [Nat.add_zero, Nat.add_one_mul (field + 1), Nat.add_sub_assoc leadingBit_pos]
            rw [if_pos ⟨rfl, Nat.succ_ne_zero field⟩, midpoint, before,
              decode_normal field _ lastFraction]
            have double :
                (2 : ℚ) ^ ((field + 1 : ℕ) - 1074 : ℤ) = 2 ^ ((field : ℤ) - 1074) * 2 := by
              rw [← zpow_add_one₀ two_ne_zero]
              congr 1
              push_cast
              ring
            rw [double, Nat.cast_add, Nat.cast_pred leadingBit_pos]
            push_cast
            ring

theorem midpoint_lt_succ (magnitude : Nat) : midpoint magnitude < midpoint (magnitude + 1) := by
  have below := midpoint_pred (Nat.succ_pos magnitude)
  rw [Nat.succ_sub_one] at below
  rw [below, midpoint]
  have unit : (0 : ℚ) < 2 ^ (decode (magnitude + 1)).2 := by positivity
  have quarters : (0 : ℚ) ≤ quartersBelow (magnitude + 1) := Nat.cast_nonneg _
  apply mul_lt_mul_of_pos_right _ unit
  linarith

theorem midpoint_strictMono : StrictMono midpoint :=
  strictMono_nat_of_lt_succ midpoint_lt_succ

theorem midpoint_pos (magnitude : Nat) : 0 < midpoint magnitude := by
  rw [midpoint]
  positivity

theorem ReadsAs.pos {magnitude : Nat} {point : ℚ} (reads : ReadsAs magnitude point) :
    0 < point :=
  (midpoint_pos _).trans_le reads.le.1

/-- Stretches of different magnitudes meet in a midpoint at most, which only the even
one of two neighbours owns. -/
theorem ReadsAs.not_lt {left right : Nat} {point : ℚ} (readsLeft : ReadsAs left point)
    (readsRight : ReadsAs right point) : ¬left < right := by
  intro before
  have ordered : midpoint left ≤ midpoint (right - 1) :=
    midpoint_strictMono.monotone (Nat.le_sub_one_of_lt before)
  have meets : midpoint left = midpoint (right - 1) :=
    le_antisymm ordered (readsRight.le.1.trans readsLeft.le.2)
  have neighbours : left = right - 1 := midpoint_strictMono.injective meets
  by_cases even : left % 2 = 0
  · have odd : ¬right % 2 = 0 := by omega
    rw [ReadsAs, Between, if_neg (by rwa [decide_eq_true_eq]), ← meets] at readsRight
    exact absurd readsLeft.le.2 (not_le.mpr readsRight.1)
  · rw [ReadsAs, Between, if_neg (by rwa [decide_eq_true_eq]), meets] at readsLeft
    exact absurd readsRight.le.1 (not_le.mpr readsLeft.2)

/-- A number reads back as one magnitude at most. -/
theorem ReadsAs.unique {left right : Nat} {point : ℚ} (readsLeft : ReadsAs left point)
    (readsRight : ReadsAs right point) : left = right :=
  Nat.le_antisymm (Nat.not_lt.mp (readsRight.not_lt readsLeft))
    (Nat.not_lt.mp (readsLeft.not_lt readsRight))

/-! ## Candidates -/

theorem reads_iff {around : Neighbourhood} (positive : 0 < around.denominator) {even : Bool}
    (numerator : Nat) {denominator : Nat} (nonzero : 0 < denominator) :
    around.reads even numerator denominator = true ↔
      Between even (around.lower / around.denominator) (around.upper / around.denominator)
        (numerator / denominator) := by
  have outer : (0 : ℚ) < around.denominator := Nat.cast_pos.mpr positive
  have inner : (0 : ℚ) < denominator := Nat.cast_pos.mpr nonzero
  cases even with
  | false =>
      simp only [Neighbourhood.reads, Between, Bool.false_eq_true, if_false, decide_eq_true_eq,
        div_lt_div_iff₀ outer inner, div_lt_div_iff₀ inner outer]
      exact_mod_cast Iff.rfl
  | true =>
      simp only [Neighbourhood.reads, Between, if_true, decide_eq_true_eq,
        div_le_div_iff₀ outer inner, div_le_div_iff₀ inner outer]
      exact_mod_cast Iff.rfl

/-- The neighbourhood of a magnitude counts quarters of its last binary place. -/
theorem neighbourhood_eq (magnitude : Nat) :
    ∃ unit : Nat, 0 < unit ∧ 0 < (neighbourhood magnitude).denominator ∧
      (unit : ℚ) / (neighbourhood magnitude).denominator = 2 ^ (decode magnitude).2 / 4 ∧
      (neighbourhood magnitude).value = 4 * (decode magnitude).1 * unit ∧
      (neighbourhood magnitude).lower =
        (4 * (decode magnitude).1 - quartersBelow magnitude) * unit ∧
      (neighbourhood magnitude).upper = (4 * (decode magnitude).1 + 2) * unit := by
  simp only [neighbourhood, Nat.pow_eq]
  split
  · next whole =>
    exists 2 ^ (decode magnitude).2.toNat
    refine ⟨Nat.two_pow_pos _, Nat.succ_pos 3, ?_, rfl, rfl, rfl⟩
    have place : (2 : ℚ) ^ (decode magnitude).2 = 2 ^ (decode magnitude).2.toNat := by
      rw [← zpow_natCast, Int.toNat_of_nonneg whole]
    rw [place]
    push_cast
    rfl
  · next fractional =>
    exists 1
    refine ⟨Nat.one_pos, Nat.mul_pos (by decide) (Nat.two_pow_pos _), ?_, (Nat.mul_one _).symm,
      (Nat.mul_one _).symm, (Nat.mul_one _).symm⟩
    have place : (2 : ℚ) ^ (decode magnitude).2 = (2 ^ (-(decode magnitude).2).toNat)⁻¹ := by
      rw [← zpow_natCast, Int.toNat_of_nonneg (by omega), zpow_neg, inv_inv]
    rw [place]
    push_cast
    field_simp

/-- The ends of the neighbourhood are the ends of the stretch, and the value lies a
whole number of last places from zero. -/
theorem neighbourhood_bounds {magnitude : Nat} (positive : 0 < magnitude) :
    ((neighbourhood magnitude).lower / (neighbourhood magnitude).denominator : ℚ) =
        midpoint (magnitude - 1) ∧
      ((neighbourhood magnitude).upper / (neighbourhood magnitude).denominator : ℚ) =
        midpoint magnitude ∧
      ((neighbourhood magnitude).value / (neighbourhood magnitude).denominator : ℚ) =
        (decode magnitude).1 * 2 ^ (decode magnitude).2 := by
  obtain ⟨unit, -, -, place, value, lower, upper⟩ := neighbourhood_eq magnitude
  have quarter (count : Nat) : ((count * unit : ℕ) : ℚ) / (neighbourhood magnitude).denominator =
      count * (2 ^ (decode magnitude).2 / 4) := by
    rw [Nat.cast_mul, mul_div_assoc, place]
  have room : quartersBelow magnitude ≤ 4 * (decode magnitude).1 := by
    have significand := decode_fst_pos positive
    rcases quartersBelow_cases magnitude with two | ⟨one, -⟩ <;> omega
  refine ⟨?_, ?_, ?_⟩
  · rw [lower, quarter, midpoint_pred positive, Nat.cast_sub room]
    push_cast
    ring
  · rw [upper, quarter, midpoint]
    push_cast
    ring
  · rw [value, quarter]
    push_cast
    ring

/-- Seventeen digits tell the ends of a stretch apart. -/
theorem value_lt_stretch {magnitude : Nat} (positive : 0 < magnitude) :
    ((decode magnitude).1 * 2 ^ (decode magnitude).2 : ℚ) <
      10 ^ 16 * (midpoint magnitude - midpoint (magnitude - 1)) := by
  have place : (0 : ℚ) < 2 ^ (decode magnitude).2 := by positivity
  have small : ((decode magnitude).1 : ℚ) < 2 * leadingBit :=
    by exact_mod_cast decode_fst_lt magnitude
  have fits : ((decode magnitude).1 : ℚ) <
      10 ^ 16 * (1 / 2 + (quartersBelow magnitude : ℚ) / 4) := by
    rcases quartersBelow_cases magnitude with two | ⟨one, leading⟩
    · rw [two]
      refine small.trans ?_
      norm_num [leadingBit]
    · rw [one, leading]
      norm_num [leadingBit]
  rw [midpoint_pred positive, midpoint]
  calc ((decode magnitude).1 : ℚ) * 2 ^ (decode magnitude).2
      < 10 ^ 16 * (1 / 2 + (quartersBelow magnitude : ℚ) / 4) * 2 ^ (decode magnitude).2 :=
        mul_lt_mul_of_pos_right fits place
    _ = _ := by ring

/-- Whether the grid point `digits * 10 ^ step` reads back. -/
def Neighbourhood.readsAt (around : Neighbourhood) (even : Bool) (step : Int) (digits : Nat) :
    Bool :=
  if step ≥ 0 then around.reads even (digits * Nat.pow 10 step.toNat) 1
  else around.reads even digits (Nat.pow 10 (-step).toNat)

/-- The last grid point that is not above the value. -/
def Neighbourhood.gridBelow (around : Neighbourhood) (step : Int) : Nat :=
  (if step ≥ 0 then around.value else around.value * Nat.pow 10 (-step).toNat) /
    (if step ≥ 0 then around.denominator * Nat.pow 10 step.toNat else around.denominator)

/-- Grid points that read back are those in the neighbourhood. -/
theorem readsAt_iff {around : Neighbourhood} (positive : 0 < around.denominator) (even : Bool)
    (step : Int) (digits : Nat) :
    around.readsAt even step digits = true ↔
      Between even (around.lower / around.denominator) (around.upper / around.denominator)
        (decimal digits step) := by
  simp only [Neighbourhood.readsAt, Nat.pow_eq]
  split
  · next whole =>
    have point : decimal digits step = ((digits * 10 ^ step.toNat : ℕ) : ℚ) / (1 : ℕ) := by
      rw [decimal, Nat.cast_one, div_one]
      nth_rewrite 1 [← Int.toNat_of_nonneg whole]
      push_cast
      rw [zpow_natCast]
    rw [reads_iff positive _ Nat.one_pos, ← point]
  · next fractional =>
    have point : decimal digits step = (digits : ℚ) / (10 ^ (-step).toNat : ℕ) := by
      have flipped : step = -((-step).toNat : ℤ) := by omega
      rw [decimal]
      nth_rewrite 1 [flipped]
      rw [zpow_neg, zpow_natCast]
      push_cast
      rfl
    rw [reads_iff positive _ (Nat.pow_pos (by decide)), ← point]

/-- The value lies between the two grid points that are tried. -/
theorem decimal_gridBelow (around : Neighbourhood) (step : Int) :
    decimal (around.gridBelow step) step ≤ around.value / around.denominator ∧
      (around.value / around.denominator : ℚ) < decimal (around.gridBelow step + 1) step := by
  have grid : (0 : ℚ) < 10 ^ step := by positivity
  have scaled : ∃ top bottom : ℕ, around.gridBelow step = top / bottom ∧
      (around.value / around.denominator : ℚ) / 10 ^ step = top / bottom := by
    refine ⟨_, _, rfl, ?_⟩
    simp only [Nat.pow_eq]
    split
    · next whole =>
      nth_rewrite 1 [← Int.toNat_of_nonneg whole]
      push_cast
      rw [zpow_natCast, div_div]
    · next fractional =>
      have flipped : step = -((-step).toNat : ℤ) := by omega
      nth_rewrite 1 [flipped]
      push_cast
      rw [zpow_neg, zpow_natCast, div_inv_eq_mul, div_mul_eq_mul_div]
  obtain ⟨top, bottom, below, scaled⟩ := scaled
  have floor : ⌊(top : ℚ) / bottom⌋₊ = top / bottom := Nat.floor_div_eq_div top bottom
  rw [decimal, decimal, ← le_div_iff₀ grid, ← div_lt_iff₀ grid, scaled, below, ← floor]
  constructor
  · exact Nat.floor_le (by positivity)
  · push_cast
    exact Nat.lt_floor_add_one _

/-- Either of the two grid points that are tried is the candidate if it reads back. -/
theorem candidate_cases (around : Neighbourhood) (even : Bool) (step : Int) :
    (∃ digits, candidate around even step = some digits ∧
        around.readsAt even step digits = true) ∨
      candidate around even step = none ∧
        around.readsAt even step (around.gridBelow step) = false ∧
        around.readsAt even step (around.gridBelow step + 1) = false := by
  rw [candidate]
  split
  · next down up =>
    have either (nearer : Bool) : around.readsAt even step
        (if nearer then around.gridBelow step + 1 else around.gridBelow step) = true := by
      cases nearer with
      | false => exact down
      | true => exact up
    exact Or.inl ⟨_, rfl, either _⟩
  · next down up => exact Or.inl ⟨_, rfl, down⟩
  · next down up => exact Or.inl ⟨_, rfl, up⟩
  · next down up => exact Or.inr ⟨rfl, down, up⟩

/-- If the grid is finer than the neighbourhood, one of the two grid points beside the
value lies in it. -/
theorem candidate_ne_none {around : Neighbourhood} (positive : 0 < around.denominator)
    (even : Bool) {step : Int}
    (above : (around.lower / around.denominator : ℚ) < around.value / around.denominator)
    (below : (around.value / around.denominator : ℚ) < around.upper / around.denominator)
    (fine : (10 : ℚ) ^ step <
      around.upper / around.denominator - around.lower / around.denominator) :
    candidate around even step ≠ none := by
  intro missing
  rcases candidate_cases around even step with ⟨digits, found, -⟩ | ⟨-, down, up⟩
  · rw [missing] at found
    cases found
  · obtain ⟨floor, ceiling⟩ := decimal_gridBelow around step
    have next : decimal (around.gridBelow step + 1) step =
        decimal (around.gridBelow step) step + 10 ^ step := by
      rw [decimal, decimal]
      push_cast
      ring
    by_cases inside : around.lower / around.denominator < decimal (around.gridBelow step) step
    · have reads := (readsAt_iff positive even step (around.gridBelow step)).mpr
        (between_of_lt inside (floor.trans_lt below))
      rw [down] at reads
      cases reads
    · have reads := (readsAt_iff positive even step (around.gridBelow step + 1)).mpr
        (between_of_lt (above.trans ceiling) (by linarith))
      rw [up] at reads
      cases reads

/-! ## The search -/

/-- The search ends with the first candidate among its tries, if there is any. -/
theorem search_spec {around : Neighbourhood} {even : Bool} {leading : Int}
    {tries digits count : Nat} (from_digits : digits ≤ count) (before : count < digits + tries)
    (present : candidate around even (leading - count + 1) ≠ none) :
    candidate around even (search around even leading tries digits).2 =
      some (search around even leading tries digits).1 := by
  induction tries generalizing digits with
  | zero => omega
  | succ tries ih =>
      rw [search]
      split
      · next found here => exact here
      · next absent =>
        apply ih
        · have later : digits ≠ count := by
            rintro rfl
            exact present absent
          omega
        · omega

theorem pow_digitCount_le {value : Nat} (positive : 0 < value) :
    10 ^ (digitCount value - 1) ≤ value := by
  induction value using Nat.strongRecOn with
  | ind value ih =>
      rw [digitCount, if_neg (Nat.ne_of_gt positive), Nat.add_sub_cancel]
      by_cases small : value < 10
      · rw [digitCount, if_pos (Nat.div_eq_of_lt small)]
        exact positive
      · have shorter := ih (value / 10) (by omega) (by omega)
        have counted : digitCount (value / 10) = digitCount (value / 10) - 1 + 1 := by
          rw [digitCount, if_neg (by omega), Nat.add_sub_cancel]
        rw [counted, Nat.pow_succ]
        omega

theorem lt_pow_digitCount (value : Nat) : value < 10 ^ digitCount value := by
  induction value using Nat.strongRecOn with
  | ind value ih =>
      rw [digitCount]
      split
      · next zero =>
        rw [zero]
        exact Nat.one_pos
      · next nonzero =>
        have shorter := ih (value / 10) (by omega)
        rw [Nat.pow_succ]
        omega

theorem digitCount_sub_one {value : Nat} (positive : 0 < value) :
    (digitCount value : ℤ) - 1 = (digitCount value - 1 : ℕ) := by
  rw [digitCount, if_neg (Nat.ne_of_gt positive), Nat.add_sub_cancel]
  push_cast
  exact add_sub_cancel_right _ _

/-- A positive fraction is at least the power of ten of its leading digit. -/
theorem pow_leadingExponent_le {numerator denominator : Nat} (positive : 0 < numerator)
    (nonzero : 0 < denominator) :
    (10 : ℚ) ^ leadingExponent numerator denominator ≤ numerator / denominator := by
  have below : (0 : ℚ) < denominator := Nat.cast_pos.mpr nonzero
  rw [leadingExponent, le_div_iff₀ below]
  split
  · next large =>
    have counted := pow_digitCount_le (Nat.div_pos large nonzero)
    rw [digitCount_sub_one (Nat.div_pos large nonzero), zpow_natCast]
    exact_mod_cast (Nat.mul_le_mul_right denominator counted).trans (Nat.div_mul_le_self _ _)
  · next small =>
    have scaled (exponent : Nat) (room : denominator ≤ numerator * 10 ^ exponent) :
        (10 : ℚ) ^ (-(exponent : ℤ)) * denominator ≤ numerator := by
      rw [zpow_neg, zpow_natCast, inv_mul_le_iff₀ (by positivity), mul_comm]
      exact_mod_cast room
    dsimp only
    simp only [Nat.pow_eq]
    split
    · next room =>
      rw [digitCount_sub_one (Nat.div_pos (Nat.le_of_not_le small) positive)]
      exact scaled _ room
    · apply scaled
      have counted := lt_pow_digitCount (denominator / numerator)
      rw [Nat.div_lt_iff_lt_mul positive, Nat.mul_comm] at counted
      exact counted.le

/-- Seventeen digits are enough for a candidate. -/
theorem seventeen_digits {magnitude : Nat} (positive : 0 < magnitude) (even : Bool) :
    candidate (neighbourhood magnitude) even
      (leadingExponent (neighbourhood magnitude).value (neighbourhood magnitude).denominator -
        (17 : ℕ) + 1) ≠ none := by
  obtain ⟨unit, unitPositive, nonzero, -, whole, -, -⟩ := neighbourhood_eq magnitude
  obtain ⟨lower, upper, value⟩ := neighbourhood_bounds positive
  have place : (0 : ℚ) < 2 ^ (decode magnitude).2 := by positivity
  apply candidate_ne_none nonzero
  · rw [lower, value, midpoint_pred positive]
    apply mul_lt_mul_of_pos_right _ place
    rcases quartersBelow_cases magnitude with two | ⟨one, -⟩
    · rw [two]
      norm_num
    · rw [one]
      norm_num
  · rw [upper, value, midpoint]
    apply mul_lt_mul_of_pos_right _ place
    norm_num
  · have valuePositive : 0 < (neighbourhood magnitude).value := by
      rw [whole]
      exact Nat.mul_pos (Nat.mul_pos (by decide) (decode_fst_pos positive)) unitPositive
    have leading := pow_leadingExponent_le valuePositive nonzero
    rw [value] at leading
    have fine := leading.trans_lt (value_lt_stretch positive)
    rw [lower, upper, ← mul_lt_mul_iff_right₀ (show (0 : ℚ) < 10 ^ (16 : ℤ) by positivity),
      ← zpow_add₀ (by norm_num)]
    convert! fine using 2
    omega

/-- The shortest decimal of a positive magnitude reads back as that magnitude. -/
theorem readsAs_shortest {magnitude : Nat} (positive : 0 < magnitude) :
    ReadsAs magnitude (decimal (shortest magnitude).1 (shortest magnitude).2) := by
  obtain ⟨unit, -, nonzero, -, -, -, -⟩ := neighbourhood_eq magnitude
  obtain ⟨lower, upper, -⟩ := neighbourhood_bounds positive
  have found : candidate (neighbourhood magnitude) (magnitude % 2 = 0) (shortest magnitude).2 =
      some (shortest magnitude).1 :=
    search_spec (by decide) (by decide) (seventeen_digits positive _)
  rcases candidate_cases (neighbourhood magnitude) (magnitude % 2 = 0) (shortest magnitude).2 with
    ⟨digits, same, reads⟩ | ⟨missing, -, -⟩
  · rw [found] at same
    rw [← Option.some.inj same, readsAt_iff nonzero, lower, upper] at reads
    exact reads
  · rw [found] at missing
    cases missing

end Polystore.Double
