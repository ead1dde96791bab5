import Polystore.Error
import Polystore.Json.Order
import Polystore.Json.Path

/-!
# Conditions

A condition is a tree of groups whose leaves compare a field of a document with
an operand.  A soft operator also accepts a document that lacks the field, and
otherwise compares as its hard operator does.
-/

namespace Polystore

/-- How a leaf compares a field with its operand. -/
inductive Operator where
  | eq
  | ne
  | gt
  | gte
  | lt
  | lte
  /-- The field equals an item of the operand. -/
  | within
  | softEq
  | softLt
  | softGt
  | regex
deriving DecidableEq, Repr

namespace Operator

/-- The written form. -/
def text : Operator → String
  | eq => "="
  | ne => "!="
  | gt => ">"
  | gte => ">="
  | lt => "<"
  | lte => "<="
  | within => "in"
  | softEq => "+="
  | softLt => "+<"
  | softGt => "+>"
  | regex => "regex"

/-- The operators, in no particular order. -/
def all : List Operator :=
  [eq, ne, gt, gte, lt, lte, within, softEq, softLt, softGt, regex]

/-- The operator that a text denotes; `==` is another form of `=`. -/
def read (written : String) : Except Error Operator :=
  match all.find? fun operator => operator.text = written with
  | some operator => .ok operator
  | none => if written = "==" then .ok eq else .error (.unknownOperator written)

/-- Whether the operator also accepts a document that lacks the field. -/
def isSoft : Operator → Bool
  | softEq | softLt | softGt => true
  | _ => false

/-- How the operator compares a field that is there. -/
def hard : Operator → Operator
  | softEq => eq
  | softLt => lt
  | softGt => gt
  | other => other

theorem isSoft_hard (operator : Operator) : operator.hard.isSoft = false := by
  cases operator <;> rfl

/-- Every operator is read back from its written form. -/
theorem read_text (operator : Operator) : read operator.text = .ok operator := by
  cases operator <;> rfl

end Operator

/-- A leaf of a condition. -/
structure Leaf where
  field : String
  operator : Operator
  operand : Json
deriving Repr

/-- How the rules of a group are joined. -/
inductive Connective where
  | all
  | any
deriving DecidableEq, Repr

/-- A leaf, or a group of rules. -/
inductive Rule where
  | leaf (leaf : Leaf)
  | group (connective : Connective) (rules : List Rule)
deriving Repr

/-- A condition: a group of rules.  The empty group accepts every document. -/
structure Condition where
  connective : Connective
  rules : List Rule
deriving Repr

namespace Condition

/-- The condition that accepts every document, to which rules can be added. -/
def always : Condition := ⟨.all, []⟩

/-- A condition as a rule of a larger one. -/
def toRule (condition : Condition) : Rule :=
  .group condition.connective condition.rules

/-- Add a rule at the end. -/
def add (condition : Condition) (rule : Rule) : Condition :=
  { condition with rules := condition.rules ++ [rule] }

end Condition

mutual

/-- The leaves of a rule, depth first. -/
def Rule.leaves : Rule → List Leaf
  | .leaf leaf => [leaf]
  | .group _ rules => leavesOf rules

/-- The leaves of some rules, depth first. -/
def leavesOf : List Rule → List Leaf
  | [] => []
  | rule :: rest => rule.leaves ++ leavesOf rest

end

/-- The leaves of a condition, depth first. -/
def Condition.leaves (condition : Condition) : List Leaf :=
  leavesOf condition.rules

end Polystore
