import Polystore.Condition

/-!
# Dialects

A backend has a filter language of its own.  A dialect says how that language
expresses a leaf and how it joins filters; `compile` walks the condition.

An empty group becomes the filter that accepts everything, a group of one rule
becomes the filter of that rule, and the order of rules is kept.
-/

namespace Polystore.Filter

universe u

/-- The filter vocabulary of a backend. -/
structure Dialect (φ : Type u) where
  acceptAll : φ
  allOf : List φ → φ
  anyOf : List φ → φ
  leaf : Leaf → Except Error φ

namespace Dialect

variable {φ : Type u}

/-- Join the filters of a group. -/
def join (dialect : Dialect φ) (connective : Connective) (filters : List φ) : φ :=
  match filters with
  | [] => dialect.acceptAll
  | [only] => only
  | several =>
      match connective with
      | .all => dialect.allOf several
      | .any => dialect.anyOf several

mutual

/-- The filter of a rule. -/
def compileRule (dialect : Dialect φ) : Rule → Except Error φ
  | .leaf leaf => dialect.leaf leaf
  | .group connective rules =>
      match compileRules dialect rules with
      | .ok filters => .ok (dialect.join connective filters)
      | .error cause => .error cause

/-- The filters of some rules, or the first error among them. -/
def compileRules (dialect : Dialect φ) : List Rule → Except Error (List φ)
  | [] => .ok []
  | rule :: rest =>
      match compileRule dialect rule with
      | .error cause => .error cause
      | .ok filter =>
          match compileRules dialect rest with
          | .ok filters => .ok (filter :: filters)
          | .error cause => .error cause

end

/-- The filter of a condition. -/
def compile (dialect : Dialect φ) (condition : Condition) : Except Error φ :=
  dialect.compileRule condition.toRule

end Dialect

end Polystore.Filter
