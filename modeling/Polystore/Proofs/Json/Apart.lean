import Polystore.Proofs.Double.Text

/-!
# Values whose texts part

The text of a value other than a number ends by itself, and the text of a number
ends where something follows that no number contains.  Inside arrays and
objects every value is followed by a comma or a closing bracket, so two different
values have texts that diverge.

The first character of a text tells the kind of the value, and the two truth values
apart.
-/

namespace Polystore.Json

/-- The place of a value's first character among the first characters of the
kinds of values. -/
def lead : Json → Nat
  | string _ => 0
  | number _ => 1
  | array _ => 2
  | bool value => if value then 6 else 4
  | null => 5
  | object _ => 7

/-- The place of a character among the first characters of the kinds of values.
The closing bracket has a place of its own, the third. -/
def leadOf (c : Char) : Nat :=
  ['-', '[', ']', 'f', 'n', 't', '\x7b'].countP (· ≤ c)

theorem leadOf_mono {c d : Char} (ordered : c ≤ d) : leadOf c ≤ leadOf d := by
  refine List.countP_mono_left fun first _ reached => ?_
  rw [decide_eq_true_eq] at reached ⊢
  exact Std.le_trans reached ordered

theorem leadOf_of_isNumeral {c : Char} (numeral : Text.isNumeral c = true) : leadOf c = 1 := by
  have range : '-' ≤ c ∧ c ≤ '9' := by
    simp only [Text.isNumeral, Bool.or_eq_true, beq_iff_eq, Char.isDigit, Bool.and_eq_true,
      decide_eq_true_eq] at numeral
    rcases numeral with sign | ⟨low, high⟩
    · subst sign
      decide
    · exact ⟨Std.le_trans (by decide) (show '0' ≤ c from low), high⟩
  exact Nat.le_antisymm (leadOf_mono range.2) (leadOf_mono range.1)

/-- The first character of a value tells its place. -/
theorem exists_text_eq_cons (value : Json) :
    ∃ c rest, value.text = c :: rest ∧ leadOf c = value.lead := by
  cases value with
  | null => exact ⟨_, _, rfl, rfl⟩
  | bool value => cases value <;> exact ⟨_, _, rfl, rfl⟩
  | string value => exact ⟨_, _, rfl, rfl⟩
  | array items => exact ⟨_, _, rfl, rfl⟩
  | object fields => exact ⟨_, _, rfl, rfl⟩
  | number value =>
      obtain ⟨c, rest, written, numeral⟩ := value.text_eq_cons
      exact ⟨c, rest, written, leadOf_of_isNumeral numeral⟩

theorem compare_eq_compare_leadOf {c d : Char} (differ : leadOf c ≠ leadOf d) :
    compare c d = compare (leadOf c) (leadOf d) := by
  change compareOfLessAndEq c d = compareOfLessAndEq (leadOf c) (leadOf d)
  rcases Std.lt_trichotomy c d with before | same | beyond
  · have less := Nat.lt_of_le_of_ne (leadOf_mono (Std.le_of_lt before)) differ
    simp [compareOfLessAndEq, before, less]
  · exact absurd (congrArg leadOf same) differ
  · have greater := Nat.lt_of_le_of_ne (leadOf_mono (Std.le_of_lt beyond)) differ.symm
    have notBefore : ¬c < d := fun before => Std.lt_irrefl (Std.lt_trans before beyond)
    have notSame : c ≠ d := fun same => differ (congrArg leadOf same)
    have notLess : ¬leadOf c < leadOf d := Nat.lt_asymm greater
    simp [compareOfLessAndEq, notBefore, notSame, notLess, differ]

/-- Values that begin differently compare as their beginnings do. -/
theorem compare_render_of_lead_ne {left right : Json} (differ : left.lead ≠ right.lead) :
    compare left.render right.render = compare left.lead right.lead := by
  obtain ⟨c, leftRest, leftText, leftLead⟩ := exists_text_eq_cons left
  obtain ⟨d, rightRest, rightText, rightLead⟩ := exists_text_eq_cons right
  rw [← leftLead, ← rightLead] at differ ⊢
  rw [render, render, leftText, rightText, Text.compare_cons, compare_eq_compare_leadOf differ]
  cases order : compare (leadOf c) (leadOf d) with
  | eq => exact absurd (Std.LawfulEqOrd.eq_of_compare order) differ
  | lt => rfl
  | gt => rfl

theorem diverge_of_lead_ne {left right : Json} (differ : left.lead ≠ right.lead) :
    Text.Diverge left.text right.text := by
  obtain ⟨c, leftRest, leftText, leftLead⟩ := exists_text_eq_cons left
  obtain ⟨d, rightRest, rightText, rightLead⟩ := exists_text_eq_cons right
  rw [leftText, rightText]
  refine Text.diverge_of_head_ne (fun same => differ ?_) _ _
  rw [← leftLead, ← rightLead, same]

/-- Values whose texts diverge by themselves, or once the numbers that they are
come to an end. -/
def Apart (left right : Json) : Prop :=
  Text.Diverge left.text right.text ∨
    ∃ m n, m ≠ n ∧ left = number m ∧ right = number n

/-- What follows a value inside an array or an object. -/
def isFollower (c : Char) : Bool :=
  c == ',' || c == ']' || c == '}'

theorem isNumberMark_of_isFollower {c : Char} (follower : isFollower c = true) :
    Text.isNumberMark c = false := by
  simp only [isFollower, Bool.or_eq_true, beq_iff_eq] at follower
  rcases follower with (rfl | rfl) | rfl
  · rfl
  · rfl
  · rfl

/-- A text begins with what can follow a value. -/
def FollowsValue (text : List Char) : Prop :=
  ∃ c rest, text = c :: rest ∧ isFollower c = true

theorem followsValue_moreItemsText (items : List Json) : FollowsValue (moreItemsText items) := by
  cases items with
  | nil => exact ⟨_, _, rfl, rfl⟩
  | cons item items => exact ⟨_, _, rfl, rfl⟩

theorem followsValue_moreFieldsText (fields : List (String × Json)) :
    FollowsValue (moreFieldsText fields) := by
  cases fields with
  | nil => exact ⟨_, _, rfl, rfl⟩
  | cons field fields => exact ⟨_, _, rfl, rfl⟩

theorem Apart.followed {left right : Json} (apart : Apart left right)
    {leftMore rightMore : List Char} (leftFollows : FollowsValue leftMore)
    (rightFollows : FollowsValue rightMore) :
    Text.Diverge (left.text ++ leftMore) (right.text ++ rightMore) := by
  rcases apart with apart | ⟨m, n, differ, rfl, rfl⟩
  · exact apart.append _ _
  · obtain ⟨d, leftRest, rfl, leftFollower⟩ := leftFollows
    obtain ⟨e, rightRest, rfl, rightFollower⟩ := rightFollows
    exact Text.diverge_of_words Text.isNumberMark
      (fun same => differ (Number.text_injective same)) m.marks_text n.marks_text
      (isNumberMark_of_isFollower leftFollower) (isNumberMark_of_isFollower rightFollower) _ _

/-- Values in a row diverge where they differ, or else in what comes after. -/
theorem diverge_value_append {left right : Json} (apart : left ≠ right → Apart left right)
    {leftMore rightMore : List Char} (leftFollows : FollowsValue leftMore)
    (rightFollows : FollowsValue rightMore)
    (more : left = right → Text.Diverge leftMore rightMore) :
    Text.Diverge (left.text ++ leftMore) (right.text ++ rightMore) := by
  by_cases same : left = right
  · rw [same, Text.diverge_append_self]
    exact more same
  · exact (apart same).followed leftFollows rightFollows

theorem diverge_field_append {leftName rightName : String} {left right : Json}
    {leftMore rightMore : List Char}
    (values : leftName = rightName →
      Text.Diverge (left.text ++ leftMore) (right.text ++ rightMore)) :
    Text.Diverge (quote leftName.toList ++ ':' :: left.text ++ leftMore)
      (quote rightName.toList ++ ':' :: right.text ++ rightMore) := by
  by_cases same : leftName = rightName
  · subst same
    rw [List.append_assoc, List.append_assoc, Text.diverge_append_self, List.cons_append,
      List.cons_append, Text.diverge_cons_self]
    exact values rfl
  · rw [List.append_assoc, List.append_assoc]
    exact (diverge_quote fun equal => same (String.ext equal)).append _ _

/-- No value begins like the end of an array. -/
theorem diverge_closing_text (value : Json) (afterLeft afterRight : List Char) :
    Text.Diverge (']' :: afterLeft) (value.text ++ afterRight) ∧
      Text.Diverge (value.text ++ afterLeft) (']' :: afterRight) := by
  obtain ⟨c, rest, written, place⟩ := exists_text_eq_cons value
  have differ : ']' ≠ c := by
    intro same
    have third : value.lead = 3 := by rw [← place, ← same]; rfl
    cases value <;> grind [lead]
  rw [written]
  exact ⟨Text.diverge_of_head_ne differ _ _, Text.diverge_of_head_ne differ.symm _ _⟩

/-- Two values of one kind; the two truth values are of different kinds here. -/
inductive Alike : Json → Json → Prop where
  | null : Alike null null
  | bool (value : Bool) : Alike (bool value) (bool value)
  | number (left right : Number) : Alike (number left) (number right)
  | string (left right : String) : Alike (string left) (string right)
  | array (lefts rights : List Json) : Alike (array lefts) (array rights)
  | object (lefts rights : List (String × Json)) : Alike (object lefts) (object rights)

theorem alike_of_lead_eq {left right : Json} (place : left.lead = right.lead) :
    Alike left right := by
  rcases left with _ | (_ | _) | _ | _ | _ | _ <;>
    rcases right with _ | (_ | _) | _ | _ | _ | _ <;>
    first
    | constructor
    | exact absurd place (Nat.ne_of_beq_eq_false rfl)

mutual

/-- Different values are apart. -/
theorem apart_of_ne (left right : Json) (differ : left ≠ right) : Apart left right := by
  by_cases place : left.lead = right.lead
  · match left, right, alike_of_lead_eq place with
    | _, _, .null => contradiction
    | _, _, .bool value => contradiction
    | _, _, .number m n => exact Or.inr ⟨m, n, fun same => differ (same ▸ rfl), rfl, rfl⟩
    | _, _, .string left right =>
        exact Or.inl (diverge_quote fun same => differ (congrArg _ (String.ext same)))
    | _, _, .array lefts rights =>
        apply Or.inl
        apply (Text.diverge_cons_self '[' _ _).mpr
        exact diverge_itemsText lefts rights fun same => differ (congrArg _ same)
    | _, _, .object lefts rights =>
        apply Or.inl
        apply (Text.diverge_cons_self '{' _ _).mpr
        exact diverge_fieldsText lefts rights fun same => differ (congrArg _ same)
  · exact Or.inl (diverge_of_lead_ne place)

theorem diverge_itemsText : (lefts rights : List Json) → lefts ≠ rights →
    Text.Diverge (itemsText lefts) (itemsText rights)
  | [], [], differ => absurd rfl differ
  | [], right :: rights, _ => (diverge_closing_text right [] _).1
  | left :: lefts, [], _ => (diverge_closing_text left _ []).2
  | left :: lefts, right :: rights, differ => by
      apply diverge_value_append (apart_of_ne left right)
        (followsValue_moreItemsText lefts) (followsValue_moreItemsText rights)
      intro same
      exact diverge_moreItemsText lefts rights fun equal => differ (by rw [same, equal])

theorem diverge_moreItemsText : (lefts rights : List Json) → lefts ≠ rights →
    Text.Diverge (moreItemsText lefts) (moreItemsText rights)
  | [], [], differ => absurd rfl differ
  | [], right :: rights, _ => Text.diverge_of_head_ne (by decide) _ _
  | left :: lefts, [], _ => Text.diverge_of_head_ne (by decide) _ _
  | left :: lefts, right :: rights, differ => by
      apply (Text.diverge_cons_self ',' _ _).mpr
      apply diverge_value_append (apart_of_ne left right)
        (followsValue_moreItemsText lefts) (followsValue_moreItemsText rights)
      intro same
      exact diverge_moreItemsText lefts rights fun equal => differ (by rw [same, equal])

theorem diverge_fieldsText : (lefts rights : List (String × Json)) → lefts ≠ rights →
    Text.Diverge (fieldsText lefts) (fieldsText rights)
  | [], [], differ => absurd rfl differ
  | [], (_, _) :: rights, _ => Text.diverge_of_head_ne (by decide) _ _
  | (_, _) :: lefts, [], _ => Text.diverge_of_head_ne (by decide) _ _
  | (leftName, left) :: lefts, (rightName, right) :: rights, differ => by
      apply diverge_field_append
      intro sameName
      apply diverge_value_append (apart_of_ne left right)
        (followsValue_moreFieldsText lefts) (followsValue_moreFieldsText rights)
      intro same
      exact diverge_moreFieldsText lefts rights fun equal => differ (by rw [sameName, same, equal])

theorem diverge_moreFieldsText : (lefts rights : List (String × Json)) → lefts ≠ rights →
    Text.Diverge (moreFieldsText lefts) (moreFieldsText rights)
  | [], [], differ => absurd rfl differ
  | [], (_, _) :: rights, _ => Text.diverge_of_head_ne (by decide) _ _
  | (_, _) :: lefts, [], _ => Text.diverge_of_head_ne (by decide) _ _
  | (leftName, left) :: lefts, (rightName, right) :: rights, differ => by
      apply (Text.diverge_cons_self ',' _ _).mpr
      apply diverge_field_append
      intro sameName
      apply diverge_value_append (apart_of_ne left right)
        (followsValue_moreFieldsText lefts) (followsValue_moreFieldsText rights)
      intro same
      exact diverge_moreFieldsText lefts rights fun equal => differ (by rw [sameName, same, equal])

end

/-- A value is told by its text, and so is what comes after it. -/
theorem text_append_inj {left right : Json} {leftMore rightMore : List Char}
    (leftFollows : FollowsValue leftMore) (rightFollows : FollowsValue rightMore)
    (same : left.text ++ leftMore = right.text ++ rightMore) :
    left = right ∧ leftMore = rightMore := by
  by_cases equal : left = right
  · subst equal
    exact ⟨rfl, List.append_cancel_left same⟩
  · have apart := (apart_of_ne left right equal).followed leftFollows rightFollows
    rw [same] at apart
    exact absurd apart (Text.not_diverge_self _)

theorem text_injective {left right : Json} (same : left.text = right.text) : left = right :=
  (text_append_inj ⟨',', [], rfl, rfl⟩ ⟨',', [], rfl, rfl⟩ (congrArg (· ++ [',']) same)).1

end Polystore.Json
