import Polystore.Condition
import Polystore.Pattern.Compile

/-!
# What conditions mean

The truth of a condition on a document, read off the condition tree itself:
groups are conjunctions and disjunctions, and each leaf says what it asks of
the field it names.  The filters of the backends are other forms of the same
conditions.
-/

namespace Polystore

/-- Whether a field that is there stands in an order to an operand. -/
def comparesAs (accept : Ordering → Bool) (operand : Json) (field : Option Json) : Bool :=
  match field.bind fun value => Json.compareValues value operand with
  | some order => accept order
  | none => false

/-- Whether a field that may be missing satisfies a hard operator. -/
def Operator.holds (operator : Operator) (operand : Json) (field : Option Json) : Bool :=
  match operator.hard with
  | .eq => field.any fun value => value.equals operand
  | .ne => !(field.any fun value => value.equals operand)
  | .gt => comparesAs (· == .gt) operand field
  | .gte => comparesAs (· != .lt) operand field
  | .lt => comparesAs (· == .lt) operand field
  | .lte => comparesAs (· != .gt) operand field
  | .within =>
      match operand with
      | .array items => field.any fun value => items.any fun item => value.equals item
      | _ => false
  | .regex =>
      match operand, field with
      | .string written, some (.string text) =>
          match Pattern.compile written with
          | .ok pattern => pattern.isIn text
          | .error _ => false
      | _, _ => false
  | .softEq | .softLt | .softGt => false

/-- Whether a document satisfies a leaf. -/
def Leaf.holds (leaf : Leaf) (document : Json) : Bool :=
  let field := document.lookup? leaf.field
  (leaf.operator.isSoft && field.isNone) || leaf.operator.holds leaf.operand field

mutual

/-- Whether a document satisfies a rule. -/
def Rule.holds (document : Json) : Rule → Bool
  | .leaf leaf => leaf.holds document
  | .group _ [] => true
  | .group .all (rule :: rest) => rule.holds document && allHold document rest
  | .group .any (rule :: rest) => rule.holds document || anyHolds document rest

/-- Whether a document satisfies every rule. -/
def allHold (document : Json) : List Rule → Bool
  | [] => true
  | rule :: rest => rule.holds document && allHold document rest

/-- Whether a document satisfies some rule. -/
def anyHolds (document : Json) : List Rule → Bool
  | [] => false
  | rule :: rest => rule.holds document || anyHolds document rest

end

/-- Whether a document satisfies a condition. -/
def Condition.holds (condition : Condition) (document : Json) : Bool :=
  condition.toRule.holds document

end Polystore
