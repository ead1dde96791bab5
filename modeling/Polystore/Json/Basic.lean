import Polystore.Double.Basic
import Polystore.Keyed
import Polystore.Text.Integer

/-!
# JSON values

A number keeps its representation: a literal integer is exact, every other
number is binary64.  `1` and `1.0` are different values that compare as equal
numbers.  The fields of an object are kept in ascending order of their names.
-/

namespace Polystore

/-- A JSON number: an exact integer, or a binary64 number. -/
inductive Number where
  | integer (value : Int)
  | real (value : Double)
deriving DecidableEq, Repr

/-- A JSON value. -/
inductive Json where
  | null
  | bool (value : Bool)
  | number (value : Number)
  | string (value : String)
  | array (items : List Json)
  | object (fields : List (String × Json))
deriving Repr, Inhabited

namespace Number

/-- The integers that have an exact representation: those of a signed or an
unsigned 64-bit word. -/
def isRepresentable (value : Int) : Bool :=
  decide (-Text.signedRange ≤ value ∧ value < Text.wordRange)

/-- The integer of a number that fits a signed 64-bit word. -/
def signed? : Number → Option Int
  | integer value => if value < Text.signedRange then some value else none
  | real _ => none

/-- The nearest binary64 number. -/
def toDouble : Number → Double
  | integer value => Double.ofInt value
  | real value => value

end Number

namespace Json

/-- The integer `value` as a JSON number. -/
def ofInt (value : Int) : Json :=
  number (.integer value)

/-- The natural number `value` as a JSON number. -/
def ofNat (value : Nat) : Json :=
  ofInt value

/-- The value of a field, if the value is an object that has it. -/
def field? (name : String) : Json → Option Json
  | object fields => Keyed.get? fields name
  | _ => none

/-- The text of a string. -/
def string? : Json → Option String
  | string value => some value
  | _ => none

mutual

/-- Whether two values are equal, number representations included.  Numbers in
binary64 are told apart by value, so the two zeros are the same. -/
def same : Json → Json → Bool
  | null, null => true
  | bool left, bool right => left == right
  | number (.integer left), number (.integer right) => left == right
  | number (.real left), number (.real right) => left.key == right.key
  | string left, string right => left == right
  | array left, array right => sameItems left right
  | object left, object right => sameFields left right
  | _, _ => false

/-- Whether two lists hold equal values. -/
def sameItems : List Json → List Json → Bool
  | [], [] => true
  | left :: lefts, right :: rights => same left right && sameItems lefts rights
  | _, _ => false

/-- Whether two objects hold equal values under equal names. -/
def sameFields : List (String × Json) → List (String × Json) → Bool
  | [], [] => true
  | (leftName, left) :: lefts, (rightName, right) :: rights =>
      leftName == rightName && same left right && sameFields lefts rights
  | _, _ => false

end

mutual

/-- Whether a value holds only exact integers that fit a signed 64-bit word. -/
def isIntegral : Json → Bool
  | number (.integer value) => Text.fitsSigned value
  | number (.real _) => false
  | array items => areIntegral items
  | object fields => fieldsAreIntegral fields
  | _ => true

/-- Whether every item holds only such integers. -/
def areIntegral : List Json → Bool
  | [] => true
  | item :: rest => isIntegral item && areIntegral rest

/-- Whether every field holds only such integers. -/
def fieldsAreIntegral : List (String × Json) → Bool
  | [] => true
  | (_, value) :: rest => isIntegral value && fieldsAreIntegral rest

end

end Json

end Polystore
