import Polystore.Json.Order
import Polystore.Proofs.Json.Apart

/-!
# The order of integral values

Inside arrays the kinds of values are not ranked: `orderNested` is `compareValues`
where that has an answer, and the order of the texts elsewhere.  On integral values
it is a linear order, since the texts of different kinds begin differently and the
texts of different values of one kind part before either of them ends.

Ranking the kinds first gives `orderValues`, which is linear on integral values for
the same reasons.
-/

namespace Polystore.Json

/-- The order of two values that are items of arrays. -/
def orderNested (left right : Json) : Ordering :=
  (compareValues left right).getD (compare left.render right.render)

theorem orderValues_eq (left right : Json) :
    orderValues left right = (compare left.rank right.rank).then (orderNested left right) :=
  rfl

/-! ## Equal values -/

theorem lead_eq_of_same {left right : Json} (equal : same left right = true) :
    left.lead = right.lead := by
  rcases left with _ | (_ | _) | (_ | _) | _ | _ | _ <;>
    rcases right with _ | (_ | _) | (_ | _) | _ | _ | _ <;>
    first
    | rfl
    | exact absurd equal Bool.false_ne_true

mutual

theorem eq_of_same {left right : Json} (leftIntegral : left.isIntegral = true)
    (rightIntegral : right.isIntegral = true) (equal : same left right = true) :
    left = right := by
  match left, right, alike_of_lead_eq (lead_eq_of_same equal) with
  | _, _, .null => rfl
  | _, _, .bool value => rfl
  | _, _, .number (.integer m) (.integer n) =>
      simp only [same, beq_iff_eq] at equal
      rw [equal]
  | _, _, .string left right =>
      simp only [same, beq_iff_eq] at equal
      rw [equal]
  | _, _, .array lefts rights => rw [eq_of_sameItems leftIntegral rightIntegral equal]
  | _, _, .object lefts rights => rw [eq_of_sameFields leftIntegral rightIntegral equal]

theorem eq_of_sameItems {lefts rights : List Json} (leftIntegral : areIntegral lefts = true)
    (rightIntegral : areIntegral rights = true) (equal : sameItems lefts rights = true) :
    lefts = rights := by
  match lefts, rights with
  | [], [] => rfl
  | left :: lefts, right :: rights =>
      simp only [areIntegral, sameItems, Bool.and_eq_true] at leftIntegral rightIntegral equal
      rw [eq_of_same leftIntegral.1 rightIntegral.1 equal.1,
        eq_of_sameItems leftIntegral.2 rightIntegral.2 equal.2]

theorem eq_of_sameFields {lefts rights : List (String × Json)}
    (leftIntegral : fieldsAreIntegral lefts = true)
    (rightIntegral : fieldsAreIntegral rights = true)
    (equal : sameFields lefts rights = true) : lefts = rights := by
  match lefts, rights with
  | [], [] => rfl
  | (leftName, left) :: lefts, (rightName, right) :: rights =>
      simp only [fieldsAreIntegral, sameFields, Bool.and_eq_true, beq_iff_eq]
        at leftIntegral rightIntegral equal
      rw [equal.1.1, eq_of_same leftIntegral.1 rightIntegral.1 equal.1.2,
        eq_of_sameFields leftIntegral.2 rightIntegral.2 equal.2]

end

mutual

theorem same_self (value : Json) (integral : value.isIntegral = true) :
    same value value = true := by
  match value with
  | .null => rfl
  | .bool value => exact beq_self_eq_true value
  | .number (.integer value) => exact beq_self_eq_true value
  | .string value => exact beq_self_eq_true value
  | .array items => exact sameItems_self items integral
  | .object fields => exact sameFields_self fields integral

theorem sameItems_self (items : List Json) (integral : areIntegral items = true) :
    sameItems items items = true := by
  match items with
  | [] => rfl
  | item :: rest =>
      simp only [areIntegral, Bool.and_eq_true] at integral
      rw [sameItems, same_self item integral.1, sameItems_self rest integral.2]
      rfl

theorem sameFields_self (fields : List (String × Json))
    (integral : fieldsAreIntegral fields = true) : sameFields fields fields = true := by
  match fields with
  | [] => rfl
  | (name, value) :: rest =>
      simp only [fieldsAreIntegral, Bool.and_eq_true] at integral
      rw [sameFields, beq_self_eq_true, same_self value integral.1,
        sameFields_self rest integral.2]
      rfl

end

theorem compareNumbers_integers {m n : Int} (left : Text.fitsSigned m = true)
    (right : Text.fitsSigned n = true) :
    compareNumbers (.integer m) (.integer n) = compare m n := by
  simp only [Text.fitsSigned, decide_eq_true_eq] at left right
  simp only [compareNumbers, Number.signed?, left.2, right.2, if_true]

mutual

theorem compareValues_self (value : Json) (integral : value.isIntegral = true) :
    compareValues value value = some .eq := by
  match value with
  | .null => rfl
  | .bool value => rw [compareValues, Std.ReflOrd.compare_self]
  | .number (.integer value) =>
      rw [compareValues, compareNumbers_integers integral integral, Std.ReflOrd.compare_self]
  | .string value => rw [compareValues, Std.ReflOrd.compare_self]
  | .array items => exact compareItems_self items integral
  | .object fields =>
      rw [compareValues, sameFields_self fields integral]
      rfl

theorem compareItems_self (items : List Json) (integral : areIntegral items = true) :
    compareItems items items = some .eq := by
  match items with
  | [] => rfl
  | item :: rest =>
      simp only [areIntegral, Bool.and_eq_true] at integral
      rw [compareItems, compareValues_self item integral.1, compareItems_self rest integral.2]

end

/-! ## Different kinds -/

theorem orderNested_of_lead_ne {left right : Json} (differ : left.lead ≠ right.lead) :
    orderNested left right = compare left.lead right.lead := by
  have texts := compare_render_of_lead_ne differ
  rcases left with _ | (_ | _) | _ | _ | _ | _ <;>
    rcases right with _ | (_ | _) | _ | _ | _ | _ <;>
    first
    | exact absurd rfl differ
    | exact texts

theorem orderNested_self {value : Json} (integral : value.isIntegral = true) :
    orderNested value value = .eq := by
  rw [orderNested, compareValues_self value integral]
  rfl

/-- Values without an order of their own are no numbers, so their texts part. -/
theorem diverge_of_compareValues_eq_none {left right : Json}
    (leftIntegral : left.isIntegral = true) (rightIntegral : right.isIntegral = true)
    (unordered : compareValues left right = none) : Text.Diverge left.text right.text := by
  have differ : left ≠ right := by
    intro same
    rw [same, compareValues_self right rightIntegral] at unordered
    contradiction
  rcases apart_of_ne left right differ with apart | ⟨m, n, -, rfl, rfl⟩
  · exact apart
  · contradiction

/-! ## Arrays -/

/-- Arrays with the same first item compare as what follows it. -/
theorem orderNested_cons_self {item : Json} (integral : item.isIntegral = true)
    (lefts rights : List Json) :
    orderNested (array (item :: lefts)) (array (item :: rights)) =
      orderNested (array lefts) (array rights) := by
  rw [orderNested, orderNested, compareValues, compareValues, compareItems,
    compareValues_self item integral]
  match lefts, rights with
  | [], [] => rfl
  | [], right :: rights => rfl
  | left :: lefts, [] => rfl
  | left :: lefts, right :: rights =>
      have texts : compare (array (item :: left :: lefts)).render
          (array (item :: right :: rights)).render =
            compare (array (left :: lefts)).render (array (right :: rights)).render :=
        calc
          _ = compare
                (String.ofList (('[' :: item.text ++ [',']) ++ itemsText (left :: lefts)))
                (String.ofList (('[' :: item.text ++ [',']) ++ itemsText (right :: rights))) := by
              simp [render, text, itemsText, moreItemsText]
          _ = compare (String.ofList (itemsText (left :: lefts)))
                (String.ofList (itemsText (right :: rights))) :=
              Text.compare_append_self _ _ _
          _ = _ := (Text.compare_append_self ['['] _ _).symm
      simp only [texts]

/-- Arrays whose first items are not level compare as these do. -/
theorem orderNested_cons_of_ne {left right : Json} (leftIntegral : left.isIntegral = true)
    (rightIntegral : right.isIntegral = true) (notLevel : compareValues left right ≠ some .eq)
    (lefts rights : List Json) :
    orderNested (array (left :: lefts)) (array (right :: rights)) = orderNested left right ∧
      orderNested left right ≠ .eq := by
  rw [orderNested, orderNested, compareValues, compareItems]
  match compared : compareValues left right with
  | some .eq => exact absurd compared notLevel
  | some .lt => exact ⟨rfl, by simp⟩
  | some .gt => exact ⟨rfl, by simp⟩
  | none =>
      have apart := diverge_of_compareValues_eq_none leftIntegral rightIntegral compared
      refine ⟨?_, apart.compare_ne_eq⟩
      calc
        _ = compare (String.ofList (left.text ++ moreItemsText lefts))
              (String.ofList (right.text ++ moreItemsText rights)) :=
            Text.compare_append_self ['['] _ _
        _ = compare left.render right.render := apart.compare_append _ _

/-! ## Level values are equal -/

theorem lead_eq_of_compareValues {left right : Json}
    (level : compareValues left right = some .eq) : left.lead = right.lead := by
  by_cases place : left.lead = right.lead
  · exact place
  · have order := orderNested_of_lead_ne place
    rw [orderNested, level] at order
    exact Std.LawfulEqOrd.eq_of_compare order.symm

mutual

theorem eq_of_compareValues {left right : Json} (leftIntegral : left.isIntegral = true)
    (rightIntegral : right.isIntegral = true) (level : compareValues left right = some .eq) :
    left = right := by
  match left, right, alike_of_lead_eq (lead_eq_of_compareValues level) with
  | _, _, .null => rfl
  | _, _, .bool value => rfl
  | _, _, .number (.integer m) (.integer n) =>
      rw [compareValues, compareNumbers_integers leftIntegral rightIntegral] at level
      rw [Std.LawfulEqOrd.eq_of_compare (Option.some.inj level)]
  | _, _, .string left right =>
      rw [Std.LawfulEqOrd.eq_of_compare (Option.some.inj level)]
  | _, _, .array lefts rights =>
      rw [eq_of_compareItems leftIntegral rightIntegral level]
  | _, _, .object lefts rights =>
      rw [compareValues] at level
      split at level
      · next equal => rw [eq_of_sameFields leftIntegral rightIntegral equal]
      · contradiction

theorem eq_of_compareItems {lefts rights : List Json} (leftIntegral : areIntegral lefts = true)
    (rightIntegral : areIntegral rights = true)
    (level : compareItems lefts rights = some .eq) : lefts = rights := by
  match lefts, rights with
  | [], [] => rfl
  | left :: lefts, right :: rights =>
      simp only [areIntegral, Bool.and_eq_true] at leftIntegral rightIntegral
      rw [compareItems] at level
      split at level
      · next first =>
        rw [eq_of_compareValues leftIntegral.1 rightIntegral.1 first,
          eq_of_compareItems leftIntegral.2 rightIntegral.2 level]
      · next notLevel => exact absurd level notLevel

end

/-- Integral values are level only if they are equal. -/
theorem eq_of_orderNested {left right : Json} (leftIntegral : left.isIntegral = true)
    (rightIntegral : right.isIntegral = true) (level : orderNested left right = .eq) :
    left = right := by
  rw [orderNested] at level
  match compared : compareValues left right with
  | none =>
      rw [compared] at level
      have apart := diverge_of_compareValues_eq_none leftIntegral rightIntegral compared
      exact absurd level apart.compare_ne_eq
  | some order =>
      rw [compared] at level
      subst level
      exact eq_of_compareValues leftIntegral rightIntegral compared

/-- Arrays compare item by item. -/
theorem orderNested_cons {left right : Json} (leftIntegral : left.isIntegral = true)
    (rightIntegral : right.isIntegral = true) (lefts rights : List Json) :
    orderNested (array (left :: lefts)) (array (right :: rights)) =
      (orderNested left right).then (orderNested (array lefts) (array rights)) := by
  by_cases level : compareValues left right = some .eq
  · have equal := eq_of_compareValues leftIntegral rightIntegral level
    subst equal
    rw [orderNested_cons_self leftIntegral, orderNested_self leftIntegral]
    rfl
  · obtain ⟨same, notLevel⟩ := orderNested_cons_of_ne leftIntegral rightIntegral level lefts rights
    rw [same]
    cases order : orderNested left right with
    | eq => exact absurd order notLevel
    | lt => rfl
    | gt => rfl

theorem orderNested_integers {m n : Int} (left : Text.fitsSigned m = true)
    (right : Text.fitsSigned n = true) :
    orderNested (number (.integer m)) (number (.integer n)) = compare m n := by
  rw [orderNested, compareValues, compareNumbers_integers left right]
  rfl

theorem orderNested_object {lefts rights : List (String × Json)}
    (leftIntegral : fieldsAreIntegral lefts = true)
    (rightIntegral : fieldsAreIntegral rights = true) :
    orderNested (object lefts) (object rights) =
      compare (object lefts).render (object rights).render := by
  rw [orderNested, compareValues]
  split
  · next equal =>
    rw [eq_of_sameFields leftIntegral rightIntegral equal, Std.ReflOrd.compare_self]
    rfl
  · rfl

/-! ## Orientation and transitivity -/

mutual

theorem orderNested_swap {left right : Json} (leftIntegral : left.isIntegral = true)
    (rightIntegral : right.isIntegral = true) :
    orderNested left right = (orderNested right left).swap := by
  by_cases place : left.lead = right.lead
  · match left, right, alike_of_lead_eq place with
    | _, _, .null => rfl
    | _, _, .bool value => rw [orderNested_self (by rfl)]; rfl
    | _, _, .number (.integer m) (.integer n) =>
        rw [orderNested_integers leftIntegral rightIntegral,
          orderNested_integers rightIntegral leftIntegral]
        exact Std.OrientedOrd.eq_swap
    | _, _, .string left right => exact Std.OrientedOrd.eq_swap
    | _, _, .array lefts rights => exact orderNested_array_swap leftIntegral rightIntegral
    | _, _, .object lefts rights =>
        rw [orderNested_object leftIntegral rightIntegral,
          orderNested_object rightIntegral leftIntegral]
        exact Std.OrientedOrd.eq_swap
  · rw [orderNested_of_lead_ne place, orderNested_of_lead_ne (Ne.symm place)]
    exact Std.OrientedOrd.eq_swap

theorem orderNested_array_swap {lefts rights : List Json}
    (leftIntegral : areIntegral lefts = true) (rightIntegral : areIntegral rights = true) :
    orderNested (array lefts) (array rights) =
      (orderNested (array rights) (array lefts)).swap := by
  match lefts, rights with
  | [], [] => rfl
  | [], right :: rights => rfl
  | left :: lefts, [] => rfl
  | left :: lefts, right :: rights =>
      simp only [areIntegral, Bool.and_eq_true] at leftIntegral rightIntegral
      rw [orderNested_cons leftIntegral.1 rightIntegral.1,
        orderNested_cons rightIntegral.1 leftIntegral.1, Ordering.swap_then,
        orderNested_swap leftIntegral.1 rightIntegral.1,
        orderNested_array_swap leftIntegral.2 rightIntegral.2]

end

/-- Where one value is before another, its kind is not after the other's. -/
theorem lead_le_of_orderNested {left right : Json} (before : orderNested left right = .lt) :
    left.lead ≤ right.lead := by
  by_cases place : left.lead = right.lead
  · exact Nat.le_of_eq place
  · rw [orderNested_of_lead_ne place] at before
    exact Nat.le_of_lt (Nat.compare_eq_lt.mp before)

mutual

theorem orderNested_trans {first second third : Json} (firstIntegral : first.isIntegral = true)
    (secondIntegral : second.isIntegral = true) (thirdIntegral : third.isIntegral = true)
    (before : orderNested first second = .lt) (later : orderNested second third = .lt) :
    orderNested first third = .lt := by
  have rise := lead_le_of_orderNested before
  have laterRise := lead_le_of_orderNested later
  by_cases place : first.lead = third.lead
  · have middle : first.lead = second.lead := by omega
    match first, second, alike_of_lead_eq middle with
    | _, _, .null => contradiction
    | _, _, .bool value =>
        rw [orderNested_self (by rfl)] at before
        contradiction
    | _, _, .number (.integer m) (.integer n) =>
        cases alike_of_lead_eq place with
        | number _ right =>
            cases right with
            | real right => contradiction
            | integer k =>
                rw [orderNested_integers firstIntegral secondIntegral] at before
                rw [orderNested_integers secondIntegral thirdIntegral] at later
                rw [orderNested_integers firstIntegral thirdIntegral]
                exact Std.TransCmp.lt_trans before later
    | _, _, .string left right =>
        cases alike_of_lead_eq place with
        | string _ right => exact @Std.TransCmp.lt_trans _ compare _ _ _ _ before later
    | _, _, .array lefts rights =>
        cases alike_of_lead_eq place with
        | array _ thirds =>
            exact orderNested_array_trans firstIntegral secondIntegral thirdIntegral before later
    | _, _, .object lefts rights =>
        cases alike_of_lead_eq place with
        | object _ thirds =>
            rw [orderNested_object firstIntegral secondIntegral] at before
            rw [orderNested_object secondIntegral thirdIntegral] at later
            rw [orderNested_object firstIntegral thirdIntegral]
            exact Std.TransCmp.lt_trans before later
  · rw [orderNested_of_lead_ne place]
    exact Nat.compare_eq_lt.mpr (by omega)

theorem orderNested_array_trans {firsts seconds thirds : List Json}
    (firstIntegral : areIntegral firsts = true) (secondIntegral : areIntegral seconds = true)
    (thirdIntegral : areIntegral thirds = true)
    (before : orderNested (array firsts) (array seconds) = .lt)
    (later : orderNested (array seconds) (array thirds) = .lt) :
    orderNested (array firsts) (array thirds) = .lt := by
  match firsts, seconds, thirds with
  | [], [], thirds => contradiction
  | [], second :: seconds, [] => contradiction
  | [], second :: seconds, third :: thirds => rfl
  | first :: firsts, [], thirds => contradiction
  | first :: firsts, second :: seconds, [] => contradiction
  | first :: firsts, second :: seconds, third :: thirds =>
      simp only [areIntegral, Bool.and_eq_true] at firstIntegral secondIntegral thirdIntegral
      rw [orderNested_cons firstIntegral.1 secondIntegral.1, Ordering.then_eq_lt] at before
      rw [orderNested_cons secondIntegral.1 thirdIntegral.1, Ordering.then_eq_lt] at later
      rw [orderNested_cons firstIntegral.1 thirdIntegral.1, Ordering.then_eq_lt]
      rcases before with before | ⟨level, before⟩
      · rcases later with later | ⟨level, -⟩
        · exact Or.inl (orderNested_trans firstIntegral.1 secondIntegral.1 thirdIntegral.1
            before later)
        · rw [← eq_of_orderNested secondIntegral.1 thirdIntegral.1 level]
          exact Or.inl before
      · rw [eq_of_orderNested firstIntegral.1 secondIntegral.1 level]
        rcases later with later | ⟨level, later⟩
        · exact Or.inl later
        · exact Or.inr ⟨level, orderNested_array_trans firstIntegral.2 secondIntegral.2
            thirdIntegral.2 before later⟩

end

/-! ## Linear orders -/

/-- The values whose numbers are all integers that fit a signed word. -/
abbrev Integral : Type :=
  {value : Json // value.isIntegral = true}

instance : Std.TransCmp fun left right : Integral => orderNested left.1 right.1 where
  eq_swap {left right} := orderNested_swap left.2 right.2
  isLE_trans {first second third} before later := by
    rw [Ordering.isLE_iff_eq_lt_or_eq_eq] at before later ⊢
    rcases before with before | level
    · rcases later with later | level
      · exact Or.inl (orderNested_trans first.2 second.2 third.2 before later)
      · rw [← eq_of_orderNested second.2 third.2 level]
        exact Or.inl before
    · rw [eq_of_orderNested first.2 second.2 level]
      exact later

/-- The order of values is linear on integral values. -/
instance : Std.TransCmp fun left right : Integral => orderValues left.1 right.1 :=
  inferInstanceAs (Std.TransCmp (compareLex (compareOn fun value : Integral => value.1.rank)
    fun left right : Integral => orderNested left.1 right.1))

instance : Std.LawfulEqCmp fun left right : Integral => orderValues left.1 right.1 where
  eq_of_compare {left right} level := by
    rw [orderValues_eq, Ordering.then_eq_eq] at level
    exact Subtype.ext (eq_of_orderNested left.2 right.2 level.2)

end Polystore.Json
