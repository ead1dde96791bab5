import Polystore.Filter.Dialect
import Polystore.Filter.Operators
import Polystore.Filter.Predicate

/-!
# Cursor filters

A store that only moves a cursor forward evaluates comparisons of fields that
are there.  It has no patterns and no test for a missing field, so conditions
with soft operators or patterns are refused.
-/

namespace Polystore.Filter

/-- The comparisons that a cursor evaluates. -/
inductive CursorOperator where
  | eq
  | ne
  | gt
  | gte
  | lt
  | lte
  | within
deriving DecidableEq, Repr

/-- A filter that a cursor evaluates. -/
inductive CursorFilter where
  | all
  | field (field : String) (operator : CursorOperator) (operand : Json)
  | allOf (filters : List CursorFilter)
  | anyOf (filters : List CursorFilter)
deriving Repr

/-- Whether a field that may be missing compares with an operand as asked.  A
missing field satisfies no comparison. -/
def CursorOperator.holds (operator : CursorOperator) (operand : Json)
    (field : Option Json) : Bool :=
  match operator with
  | eq => field.any fun value => value.equals operand
  | ne => field.any fun value => !value.equals operand
  | gt => ordered field operand (· == .gt)
  | gte => ordered field operand (· != .lt)
  | lt => ordered field operand (· == .lt)
  | lte => ordered field operand (· != .gt)
  | within =>
      match operand with
      | .array items => field.any fun value => items.any fun item => value.equals item
      | _ => false

namespace CursorFilter

mutual

/-- Whether a document passes a filter. -/
def holds (document : Json) : CursorFilter → Bool
  | all => true
  | field path operator operand => operator.holds operand (document.lookup? path)
  | allOf filters => everyHolds document filters
  | anyOf filters => someHolds document filters

/-- Whether a document passes every filter. -/
def everyHolds (document : Json) : List CursorFilter → Bool
  | [] => true
  | filter :: rest => filter.holds document && everyHolds document rest

/-- Whether a document passes some filter. -/
def someHolds (document : Json) : List CursorFilter → Bool
  | [] => false
  | filter :: rest => filter.holds document || someHolds document rest

end

end CursorFilter

/-- The cursor operator of an operator, if there is one. -/
def cursorOperator? : Operator → Option CursorOperator
  | .eq => some .eq
  | .ne => some .ne
  | .gt => some .gt
  | .gte => some .gte
  | .lt => some .lt
  | .lte => some .lte
  | .within => some .within
  | _ => none

/-- The cursor filter of a leaf. -/
def cursorLeaf (leaf : Leaf) : Except Error CursorFilter :=
  match cursorOperator? leaf.operator, leaf.operand with
  | none, _ => .error (.notSatisfiable leaf.operator.text leaf.field)
  | some .within, .array items => .ok (.field leaf.field .within (.array items))
  | some .within, _ => .error (.cursorMembershipNeedsArray leaf.field)
  | some operator, operand => .ok (.field leaf.field operator operand)

/-- The language of cursors. -/
def cursor : Dialect CursorFilter where
  acceptAll := .all
  allOf := .allOf
  anyOf := .anyOf
  leaf := cursorLeaf

namespace CursorOperator

/-- The name of a cursor operator in the JSON form of filters. -/
def name : CursorOperator → String
  | eq => "Eq"
  | ne => "Ne"
  | gt => "Gt"
  | gte => "Gte"
  | lt => "Lt"
  | lte => "Lte"
  | within => "In"

/-- The cursor operator of a name. -/
def ofName? (name : String) : Option CursorOperator :=
  [eq, ne, gt, gte, lt, lte, within].find? fun operator => operator.name = name

/-- An operator is read back from its name. -/
theorem ofName?_name (operator : CursorOperator) :
    ofName? operator.name = some operator := by
  cases operator <;> decide

end CursorOperator

namespace CursorFilter

mutual

/-- The JSON form of a filter. -/
def toJson : CursorFilter → Json
  | all => .string "All"
  | field path operator operand =>
      single "Field" (.object
        [("field", .string path), ("op", .string operator.name), ("value", operand)])
  | allOf filters => single "And" (.array (toJsonList filters))
  | anyOf filters => single "Or" (.array (toJsonList filters))

/-- The JSON forms of some filters. -/
def toJsonList : List CursorFilter → List Json
  | [] => []
  | filter :: rest => filter.toJson :: toJsonList rest

end

mutual

/-- The filter of a JSON form.  Only the forms that `toJson` writes are read. -/
def ofJson? : Json → Option CursorFilter
  | .string "All" => some all
  | .object [("Field",
      .object [("field", .string path), ("op", .string name), ("value", operand)])] =>
      (CursorOperator.ofName? name).map fun operator => field path operator operand
  | .object [("And", .array items)] => (ofJsonList? items).map allOf
  | .object [("Or", .array items)] => (ofJsonList? items).map anyOf
  | _ => none

/-- The filters of some JSON forms. -/
def ofJsonList? : List Json → Option (List CursorFilter)
  | [] => some []
  | item :: rest =>
      match ofJson? item with
      | none => none
      | some filter => (ofJsonList? rest).map (filter :: ·)

end

mutual

/-- A filter is read back from its JSON form. -/
theorem ofJson?_toJson : (filter : CursorFilter) → ofJson? filter.toJson = some filter
  | all => rfl
  | field path operator operand => by
      simp only [toJson, single, ofJson?, CursorOperator.ofName?_name, Option.map_some]
  | allOf filters => by
      simp only [toJson, single, ofJson?, ofJsonList?_toJsonList filters, Option.map_some]
  | anyOf filters => by
      simp only [toJson, single, ofJson?, ofJsonList?_toJsonList filters, Option.map_some]

/-- Filters are read back from their JSON forms. -/
theorem ofJsonList?_toJsonList :
    (filters : List CursorFilter) → ofJsonList? (toJsonList filters) = some filters
  | [] => rfl
  | filter :: rest => by
      simp only [toJsonList, ofJsonList?, ofJson?_toJson filter, ofJsonList?_toJsonList rest,
        Option.map_some]

end

end CursorFilter

end Polystore.Filter
