import Polystore.Json.Text

/-!
# Comparing values

`compareValues` orders values of one kind and leaves values of different kinds
unordered.  Two integers that fit a signed word compare exactly, other pairs of
numbers by their nearest binary64 numbers.  Objects are only told apart.

`totalOrder` ranks the kinds first and falls back to the compact text where
`compareValues` has no answer, so that every pair of values is ordered.
-/

namespace Polystore.Json

/-- The order of two numbers. -/
def compareNumbers (left right : Number) : Ordering :=
  match left.signed?, right.signed? with
  | some left, some right => compare left right
  | _, _ => Double.order left.toDouble right.toDouble

mutual

/-- The order of two values of one kind; different kinds and different objects
are unordered. -/
def compareValues : Json → Json → Option Ordering
  | null, null => some .eq
  | bool left, bool right => some (compare left right)
  | number left, number right => some (compareNumbers left right)
  | string left, string right => some (compare left right)
  | array left, array right => compareItems left right
  | object left, object right => if sameFields left right then some .eq else none
  | _, _ => none

/-- Item by item, then by length. -/
def compareItems : List Json → List Json → Option Ordering
  | [], [] => some .eq
  | [], _ :: _ => some .lt
  | _ :: _, [] => some .gt
  | left :: lefts, right :: rights =>
      match compareValues left right with
      | some .eq => compareItems lefts rights
      | other => other

end

/-- Whether two values compare as equal. -/
def equals (left right : Json) : Bool :=
  compareValues left right == some .eq

/-- The rank of a value's kind. -/
def rank : Json → Nat
  | null => 0
  | number _ => 1
  | string _ => 2
  | object _ => 3
  | array _ => 4
  | bool _ => 5

/-- The order of two values of any kind. -/
def orderValues (left right : Json) : Ordering :=
  (compare left.rank right.rank).then
    ((compareValues left right).getD (compare left.render right.render))

/-- The order of two fields that may be missing; a missing field counts as
null. -/
def totalOrder (left right : Option Json) : Ordering :=
  orderValues (left.getD null) (right.getD null)

end Polystore.Json
