import Polystore.Filter.Predicate
import Polystore.Proofs.Double.Integers
import Polystore.Proofs.Json.Order

/-!
# Integers in comparisons

Two integers that fit a signed word compare exactly.  Where one does not, both are rounded to
53 bits first, so two integers of the upper half of the unsigned words are level if they round
to one multiple of 2048.
-/

namespace Polystore.Json

/-! ## Two integers -/

/-- Two integers, at least one of them beyond the signed words, that round to one multiple
of 2048. -/
def Blurred (left right : Int) : Prop :=
  Text.signedRange ≤ max left right ∧ Text.signedRange - 512 ≤ min left right ∧
    Double.roundQuotient left.toNat 2048 = Double.roundQuotient right.toNat 2048

instance (left right : Int) : Decidable (Blurred left right) :=
  inferInstanceAs (Decidable (_ ∧ _ ∧ _))

theorem Blurred.symm {left right : Int} (blurred : Blurred left right) : Blurred right left := by
  obtain ⟨high, low, same⟩ := blurred
  rw [max_comm] at high
  rw [min_comm] at low
  exact ⟨high, low, same.symm⟩

theorem Blurred.near {left right : Int} (blurred : Blurred left right) :
    |left - right| ≤ 2048 := by
  obtain ⟨-, low, same⟩ := blurred
  have above := Double.sub_le_of_roundQuotient_eq same
  have below := Double.sub_le_of_roundQuotient_eq same.symm
  rw [Text.signedRange] at low
  rw [abs_le]
  omega

/-- The exact order of integers, except that blurred ones are level. -/
def roundedOrder (left right : Int) : Ordering :=
  if Blurred left right then .eq else compare left right

theorem roundedOrder_swap (left right : Int) :
    (roundedOrder left right).swap = roundedOrder right left := by
  rw [roundedOrder, roundedOrder]
  by_cases blurred : Blurred left right
  · rw [if_pos blurred, if_pos blurred.symm]
    rfl
  · rw [if_neg blurred, if_neg (blurred ∘ Blurred.symm), Int.compare_swap]

theorem key_ofInt_of_nonneg {value : Int} (nonneg : 0 ≤ value) :
    (Double.ofInt value).key = Double.roundRatio value.toNat 1 := by
  have same : value.natAbs = value.toNat := by omega
  rw [Double.ofInt, Double.key, same]
  simp only [decide_eq_true_eq, if_neg (Int.not_lt.mpr nonneg)]

theorem key_ofInt_of_neg {value : Int} (negative : value < 0) :
    (Double.ofInt value).key = -Double.roundRatio value.natAbs 1 := by
  rw [Double.ofInt, Double.key]
  simp only [decide_eq_true_eq, if_pos negative]

/-- The order of the nearest binary64 numbers, where the larger integer is beyond the signed
words. -/
theorem order_ofInt_of_le {left right : Int} (le : left ≤ right)
    (high : Text.signedRange ≤ right) (small : right < Text.wordRange) :
    Double.order (.ofInt left) (.ofInt right) = roundedOrder left right := by
  have reaches := high
  rw [Text.signedRange] at reaches
  rw [Text.wordRange] at small
  have nonneg : 0 ≤ right := by omega
  have rightHigh : Double.leadingBit ≤ Double.roundQuotient right.toNat 2048 :=
    Double.leadingBit_le_roundQuotient (by omega)
  have rightKey := key_ofInt_of_nonneg nonneg
  rw [Double.roundRatio_of_high (by omega) (by omega)] at rightKey
  rw [Double.order, roundedOrder]
  by_cases close : Text.signedRange - 512 ≤ left
  · have leftHigh : 2 ^ 63 - 512 ≤ left.toNat := by
      rw [Text.signedRange] at close
      omega
    have leftNonneg : 0 ≤ left := by omega
    have leftKey := key_ofInt_of_nonneg leftNonneg
    rw [Double.roundRatio_of_high leftHigh (by omega)] at leftKey
    have rounded := Double.roundQuotient_mono 2048 (Int.toNat_le_toNat le)
    rw [leftKey, rightKey]
    by_cases same : Double.roundQuotient left.toNat 2048 = Double.roundQuotient right.toNat 2048
    · have blurred : Blurred left right :=
        ⟨le_trans high (le_max_right _ _), le_min close (le_trans close le), same⟩
      rw [if_pos blurred, same, Std.ReflOrd.compare_self]
    · have differ : left ≠ right := fun equal => same (by rw [equal])
      have apart : ¬Blurred left right := fun blurred => same blurred.2.2
      rw [if_neg apart, Std.compare_eq_lt.mpr (lt_of_le_of_ne le differ), Std.compare_eq_lt]
      omega
  · have before : left < right := by omega
    have below : (Double.ofInt left).key < (Double.ofInt right).key := by
      rw [Text.signedRange] at close
      rcases Int.lt_or_le left 0 with negative | leftNonneg
      · rw [key_ofInt_of_neg negative, rightKey]
        rw [Double.leadingBit] at *
        omega
      · have leftLow : Double.roundRatio left.toNat 1 < 1086 * Double.leadingBit :=
          Double.roundRatio_of_low (by omega)
        rw [key_ofInt_of_nonneg leftNonneg, rightKey]
        omega
    have apart : ¬Blurred left right := fun blurred =>
      close (le_trans blurred.2.1 (min_le_left _ _))
    rw [Std.compare_eq_lt.mpr below, if_neg apart, Std.compare_eq_lt.mpr before]

/-- Two integers compare exactly, unless they are blurred. -/
theorem compareNumbers_eq_roundedOrder {left right : Int}
    (leftFits : Number.isRepresentable left = true)
    (rightFits : Number.isRepresentable right = true) :
    compareNumbers (.integer left) (.integer right) = roundedOrder left right := by
  simp only [Number.isRepresentable, decide_eq_true_eq] at leftFits rightFits
  by_cases signed : left < Text.signedRange ∧ right < Text.signedRange
  · have apart : ¬Blurred left right := fun blurred =>
      absurd blurred.1 (not_le.mpr (max_lt signed.1 signed.2))
    rw [roundedOrder, if_neg apart]
    simp only [compareNumbers, Number.signed?, if_pos signed.1, if_pos signed.2]
  · have doubles : compareNumbers (.integer left) (.integer right) =
        Double.order (.ofInt left) (.ofInt right) := by
      rw [compareNumbers, Number.signed?, Number.signed?]
      rcases not_and_or.mp signed with beyond | beyond
      · rw [if_neg beyond]
        rfl
      · rw [if_neg beyond]
        cases (if left < Text.signedRange then some left else none) <;> rfl
    rw [doubles]
    rcases le_total left right with le | le
    · have high : Text.signedRange ≤ right := by omega
      exact order_ofInt_of_le le high rightFits.2
    · have high : Text.signedRange ≤ left := by omega
      rw [← Double.order_swap, order_ofInt_of_le le high leftFits.2, roundedOrder_swap]

end Polystore.Json

namespace Polystore

/-! ## Nested integers -/

/-- An integer as JSON holds it, or an array of such integers and arrays. -/
inductive IntegerTree where
  | integer (value : {value : Int // Number.isRepresentable value = true})
  | array (items : List IntegerTree)

namespace IntegerTree

mutual

/-- The JSON value of a tree. -/
def toJson : IntegerTree → Json
  | integer value => .ofInt value
  | array items => .array (toJsons items)

def toJsons : List IntegerTree → List Json
  | [] => []
  | item :: rest => item.toJson :: toJsons rest

end

mutual

/-- Trees in the order of their first integers that are not level; an integer and an array are
unordered. -/
def order (level : Int → Int → Ordering) : IntegerTree → IntegerTree → Option Ordering
  | integer left, integer right => some (level left right)
  | array lefts, array rights => orderItems level lefts rights
  | _, _ => none

/-- Item by item, then by length. -/
def orderItems (level : Int → Int → Ordering) :
    List IntegerTree → List IntegerTree → Option Ordering
  | [], [] => some .eq
  | [], _ :: _ => some .lt
  | _ :: _, [] => some .gt
  | left :: lefts, right :: rights =>
      match order level left right with
      | some .eq => orderItems level lefts rights
      | other => other

end

mutual

/-- No two different integers at one place of two trees are blurred. -/
def Clear : IntegerTree → IntegerTree → Prop
  | integer left, integer right => Json.Blurred left right → left = right
  | array lefts, array rights => ClearItems lefts rights
  | _, _ => True

def ClearItems : List IntegerTree → List IntegerTree → Prop
  | left :: lefts, right :: rights => Clear left right ∧ ClearItems lefts rights
  | _, _ => True

end

mutual

/-- Trees are compared in the order of their integers. -/
theorem compareValues_toJson (left right : IntegerTree) :
    Json.compareValues left.toJson right.toJson = left.order Json.roundedOrder right := by
  match left, right with
  | integer left, integer right =>
      exact congrArg some (Json.compareNumbers_eq_roundedOrder left.2 right.2)
  | array lefts, array rights => exact compareItems_toJsons lefts rights
  | integer _, array _ => rfl
  | array _, integer _ => rfl

theorem compareItems_toJsons (lefts rights : List IntegerTree) :
    Json.compareItems (toJsons lefts) (toJsons rights) =
      orderItems Json.roundedOrder lefts rights := by
  match lefts, rights with
  | [], [] => rfl
  | [], _ :: _ => rfl
  | _ :: _, [] => rfl
  | left :: lefts, right :: rights =>
      rw [toJsons, toJsons, Json.compareItems, compareValues_toJson left right,
        compareItems_toJsons lefts rights]
      rfl

end

mutual

/-- Clear trees are compared exactly. -/
theorem order_of_clear {left right : IntegerTree} (clear : left.Clear right) :
    left.order Json.roundedOrder right = left.order compare right := by
  match left, right with
  | integer left, integer right =>
      rw [order, order, Json.roundedOrder]
      split
      · next blurred =>
        rw [clear blurred, Std.ReflOrd.compare_self]
      · rfl
  | array lefts, array rights => exact orderItems_of_clear clear
  | integer _, array _ => rfl
  | array _, integer _ => rfl

theorem orderItems_of_clear {lefts rights : List IntegerTree} (clear : ClearItems lefts rights) :
    orderItems Json.roundedOrder lefts rights = orderItems compare lefts rights := by
  match lefts, rights with
  | [], [] => rfl
  | [], _ :: _ => rfl
  | _ :: _, [] => rfl
  | left :: lefts, right :: rights =>
      rw [orderItems, orderItems, order_of_clear clear.1, orderItems_of_clear clear.2]

end

mutual

/-- In the exact order only equal trees are level. -/
theorem order_compare_eq_iff (left right : IntegerTree) :
    left.order compare right = some .eq ↔ left = right := by
  match left, right with
  | integer left, integer right =>
      rw [order, Option.some.injEq, Std.LawfulEqOrd.compare_eq_iff_eq, integer.injEq, Subtype.ext_iff]
  | array lefts, array rights =>
      rw [order, orderItems_compare_eq_iff lefts rights, array.injEq]
  | integer _, array _ => exact ⟨nofun, nofun⟩
  | array _, integer _ => exact ⟨nofun, nofun⟩

theorem orderItems_compare_eq_iff (lefts rights : List IntegerTree) :
    orderItems compare lefts rights = some .eq ↔ lefts = rights := by
  match lefts, rights with
  | [], [] => exact ⟨fun _ => rfl, fun _ => rfl⟩
  | [], _ :: _ => exact ⟨nofun, nofun⟩
  | _ :: _, [] => exact ⟨nofun, nofun⟩
  | left :: lefts, right :: rights =>
      rw [orderItems, List.cons.injEq, ← order_compare_eq_iff left right,
        ← orderItems_compare_eq_iff lefts rights]
      split
      · next level => exact (and_iff_right level).symm
      · next notLevel => exact ⟨fun level => absurd level notLevel, fun both => absurd both.1 notLevel⟩

end

/-! ## Operators -/

/-- The operators tell two trees apart as an order does. -/
structure ToldBy (level : Int → Int → Ordering) (left right : IntegerTree) : Prop where
  compared : Json.compareValues left.toJson right.toJson = left.order level right
  eq : (Filter.FieldTest.eq right.toJson).holds (some left.toJson) =
    decide (left.order level right = some .eq)
  ne : (Filter.FieldTest.ne right.toJson).holds (some left.toJson) =
    decide (left.order level right ≠ some .eq)
  within : ∀ others : List Json,
    (Filter.FieldTest.within (right.toJson :: others)).holds (some left.toJson) =
      (decide (left.order level right = some .eq) ||
        (Filter.FieldTest.within others).holds (some left.toJson))
  gt : (Filter.FieldTest.gt right.toJson).holds (some left.toJson) =
    decide (left.order level right = some .gt)
  gte : (Filter.FieldTest.gte right.toJson).holds (some left.toJson) =
    decide (left.order level right = some .gt ∨ left.order level right = some .eq)
  lt : (Filter.FieldTest.lt right.toJson).holds (some left.toJson) =
    decide (left.order level right = some .lt)
  lte : (Filter.FieldTest.lte right.toJson).holds (some left.toJson) =
    decide (left.order level right = some .lt ∨ left.order level right = some .eq)

theorem toldBy_of_compared {level : Int → Int → Ordering} {left right : IntegerTree}
    (compared : Json.compareValues left.toJson right.toJson = left.order level right) :
    ToldBy level left right := by
  have equal : left.toJson.equals right.toJson = decide (left.order level right = some .eq) := by
    rw [Json.equals, compared]
    rcases left.order level right with _ | _ | _ | _ <;> rfl
  have ordered (accept : Ordering → Bool) :
      Filter.ordered (some left.toJson) right.toJson accept =
        (left.order level right).any accept := by
    rw [Filter.ordered, compared]
    cases left.order level right <;> rfl
  refine ⟨compared, equal, ?_, ?_, ?_, ?_, ?_, ?_⟩
  · rw [Filter.FieldTest.holds, Option.all_some, equal, decide_not]
  · intro others
    rw [Filter.FieldTest.holds, Filter.FieldTest.holds, Option.any_some, Option.any_some,
      List.any_cons, equal]
  all_goals
    rw [Filter.FieldTest.holds, ordered]
    rcases left.order level right with _ | _ | _ | _ <;> rfl

/-- Integers in any nesting of arrays are compared in their exact order, except that integers
are level that are blurred, and all operators follow that order.  Trees in which no two
different integers are blurred are level only if they are equal. -/
theorem integers_compare_unless_blurred (left right : IntegerTree) :
    ToldBy Json.roundedOrder left right ∧
      (left.Clear right → ToldBy compare left right ∧
        (left.order compare right = some .eq ↔ left = right)) := by
  constructor
  · exact toldBy_of_compared (compareValues_toJson left right)
  · intro clear
    constructor
    · exact toldBy_of_compared ((compareValues_toJson left right).trans (order_of_clear clear))
    · exact order_compare_eq_iff left right

/-- Arrays that begin with the largest integer are told apart by what follows it. -/
theorem nested_integers_told_apart :
    let largest : IntegerTree := .integer ⟨2 ^ 64 - 1, by decide⟩
    let left : IntegerTree := .array [largest, .integer ⟨-5, by decide⟩]
    let right : IntegerTree := .array [largest, .integer ⟨2 ^ 63, by decide⟩]
    left.Clear right ∧ Json.compareValues left.toJson right.toJson = some .lt ∧
      (Filter.FieldTest.ne right.toJson).holds (some left.toJson) = true := by
  intro largest left right
  have clear : left.Clear right :=
    ⟨fun _ => rfl, fun blurred => absurd blurred (by decide), trivial⟩
  obtain ⟨-, exactly⟩ := integers_compare_unless_blurred left right
  have told := (exactly clear).1
  have before : left.order compare right = some .lt := by decide
  refine ⟨clear, told.compared.trans before, ?_⟩
  rw [told.ne, before]
  rfl

/-- Two integers of the upper half of the unsigned words, next to each other, are level. -/
theorem neighbours_level_beyond_signed :
    let left : IntegerTree := .integer ⟨2 ^ 63, by decide⟩
    let right : IntegerTree := .integer ⟨2 ^ 63 + 1, by decide⟩
    Json.compareValues left.toJson right.toJson = some .eq ∧
      left.order compare right = some .lt ∧
      (Filter.FieldTest.eq right.toJson).holds (some left.toJson) = true ∧
      (Filter.FieldTest.lt right.toJson).holds (some left.toJson) = false := by
  decide +kernel

end IntegerTree

end Polystore
