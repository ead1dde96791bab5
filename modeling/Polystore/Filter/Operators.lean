import Polystore.Filter.Dialect
import Polystore.Pattern.Compile

/-!
# Operator documents

The clustered store takes its filters as documents: a field name with an object
of operators, or `$and` and `$or` with a list of filters.  This module writes
conditions in that language.
-/

namespace Polystore.Filter

/-- An object with one field. -/
def single (name : String) (value : Json) : Json :=
  .object [(name, value)]

/-- The operator document of a comparison with a field that is there. -/
def comparison (field : String) (operator : Operator) (operand : Json) :
    Except Error Json :=
  let test (name : String) := Except.ok (single field (single name operand))
  match operator.hard with
  | .eq => test "$eq"
  | .ne => test "$ne"
  | .gt => test "$gt"
  | .gte => test "$gte"
  | .lt => test "$lt"
  | .lte => test "$lte"
  | .within =>
      match operand with
      | .array _ => test "$in"
      | _ => .error (.membershipNeedsArray field operand)
  | _ =>
      match operand with
      | .string written =>
          match Pattern.compile written with
          | .ok _ => test "$regex"
          | .error cause => .error cause
      | _ => .error (.patternNeedsString field)

/-- The operator document of a leaf.  A soft operator also accepts documents
without the field. -/
def leafDocument (leaf : Leaf) : Except Error Json :=
  match comparison leaf.field leaf.operator leaf.operand with
  | .error cause => .error cause
  | .ok compared =>
      if leaf.operator.isSoft then
        .ok (single "$or"
          (.array [single leaf.field (single "$exists" (.bool false)), compared]))
      else .ok compared

/-- The language of operator documents. -/
def operators : Dialect Json where
  acceptAll := .object []
  allOf filters := single "$and" (.array filters)
  anyOf filters := single "$or" (.array filters)
  leaf := leafDocument

end Polystore.Filter
