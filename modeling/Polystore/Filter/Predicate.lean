import Polystore.Error
import Polystore.Json.Order
import Polystore.Json.Path
import Polystore.Pattern.Compile

/-!
# Predicates

An operator document is read once into a predicate, in which patterns are
compiled, and the predicate is evaluated on every candidate document.

A field whose value is no object of operators is a test for equality with that
value.  Several clauses of one document must all hold.
-/

namespace Polystore.Filter

/-- A test of a field that may be missing. -/
inductive FieldTest where
  | eq (operand : Json)
  | ne (operand : Json)
  | gt (operand : Json)
  | gte (operand : Json)
  | lt (operand : Json)
  | lte (operand : Json)
  | within (items : List Json)
  | isThere (expected : Bool)
  | regex (pattern : Pattern)

/-- A compiled operator document. -/
inductive Predicate where
  | always
  | allOf (clauses : List Predicate)
  | anyOf (clauses : List Predicate)
  | field (path : String) (tests : List FieldTest)

/-- Whether a field that is there is ordered as asked relative to an operand. -/
def ordered (field : Option Json) (operand : Json) (accept : Ordering → Bool) : Bool :=
  match field with
  | none => false
  | some value =>
      match Json.compareValues value operand with
      | some order => accept order
      | none => false

/-- Whether a field that may be missing passes a test. -/
def FieldTest.holds (test : FieldTest) (field : Option Json) : Bool :=
  match test with
  | eq operand => field.any fun value => value.equals operand
  | ne operand => field.all fun value => !value.equals operand
  | gt operand => ordered field operand (· == .gt)
  | gte operand => ordered field operand (· != .lt)
  | lt operand => ordered field operand (· == .lt)
  | lte operand => ordered field operand (· != .gt)
  | within items => field.any fun value => items.any fun item => value.equals item
  | isThere expected => field.isSome == expected
  | regex pattern =>
      match field with
      | some (.string text) => pattern.isIn text
      | _ => false

namespace Predicate

mutual

/-- Whether a document satisfies a predicate. -/
def holds (document : Json) : Predicate → Bool
  | always => true
  | allOf clauses => everyHolds document clauses
  | anyOf clauses => someHolds document clauses
  | field path tests =>
      tests.all fun test => test.holds (document.lookup? path)

/-- Whether a document satisfies every clause. -/
def everyHolds (document : Json) : List Predicate → Bool
  | [] => true
  | clause :: rest => clause.holds document && everyHolds document rest

/-- Whether a document satisfies some clause. -/
def someHolds (document : Json) : List Predicate → Bool
  | [] => false
  | clause :: rest => clause.holds document || someHolds document rest

end

end Predicate

/-- Whether a name is one of the operator language. -/
def isOperatorName (name : String) : Bool :=
  name.toList.head? == some '$'

/-- The test that an operator and its operand denote. -/
def readTest (name : String) (operand : Json) : Except Error FieldTest :=
  match name with
  | "$eq" => .ok (.eq operand)
  | "$ne" => .ok (.ne operand)
  | "$gt" => .ok (.gt operand)
  | "$gte" => .ok (.gte operand)
  | "$lt" => .ok (.lt operand)
  | "$lte" => .ok (.lte operand)
  | "$in" =>
      match operand with
      | .array items => .ok (.within items)
      | _ => .error .inNeedsArray
  | "$exists" =>
      match operand with
      | .bool expected => .ok (.isThere expected)
      | _ => .ok (.isThere true)
  | "$regex" =>
      match operand with
      | .string written =>
          match Pattern.compile written with
          | .ok pattern => .ok (.regex pattern)
          | .error cause => .error cause
      | _ => .error .regexNeedsString
  | other => .error (.unknownTest other)

/-- The tests that the operators of an object denote, or the first error among
them. -/
def readTests : List (String × Json) → Except Error (List FieldTest)
  | [] => .ok []
  | (name, operand) :: rest =>
      match readTest name operand with
      | .error cause => .error cause
      | .ok test =>
          match readTests rest with
          | .error cause => .error cause
          | .ok tests => .ok (test :: tests)

/-- The tests that the value of a field denotes. -/
def fieldTests (value : Json) : Except Error (List FieldTest) :=
  match value with
  | .object (first :: rest) =>
      if (first :: rest).all fun field => isOperatorName field.1 then
        readTests (first :: rest)
      else .ok [.eq value]
  | _ => .ok [.eq value]

/-- The clauses of one document joined into one predicate. -/
def joinClauses : List Predicate → Predicate
  | [] => .always
  | [only] => only
  | several => .allOf several

mutual

/-- The predicate that an operator document denotes. -/
def readFilter : Json → Except Error Predicate
  | .object fields =>
      match readClauses fields with
      | .ok clauses => .ok (joinClauses clauses)
      | .error cause => .error cause
  | other => .error (.filterNotObject other)

/-- The clauses of an operator document, or the first error among them. -/
def readClauses : List (String × Json) → Except Error (List Predicate)
  | [] => .ok []
  | (name, value) :: rest =>
      match readClause name value with
      | .error cause => .error cause
      | .ok clause =>
          match readClauses rest with
          | .ok clauses => .ok (clause :: clauses)
          | .error cause => .error cause

/-- The clause that a field of an operator document denotes. -/
def readClause (name : String) (value : Json) : Except Error Predicate :=
  if name = "$and" then
    match value with
    | .array items =>
        match readFilters items with
        | .ok filters => .ok (.allOf filters)
        | .error cause => .error cause
    | _ => .error (.connectiveNeedsArray name)
  else if name = "$or" then
    match value with
    | .array items =>
        match readFilters items with
        | .ok filters => .ok (.anyOf filters)
        | .error cause => .error cause
    | _ => .error (.connectiveNeedsArray name)
  else if isOperatorName name then .error (.unknownConnective name)
  else
    match fieldTests value with
    | .ok tests => .ok (.field name tests)
    | .error cause => .error cause

/-- The predicates of some operator documents, or the first error among
them. -/
def readFilters : List Json → Except Error (List Predicate)
  | [] => .ok []
  | item :: rest =>
      match readFilter item with
      | .error cause => .error cause
      | .ok filter =>
          match readFilters rest with
          | .ok filters => .ok (filter :: filters)
          | .error cause => .error cause

end

end Polystore.Filter
