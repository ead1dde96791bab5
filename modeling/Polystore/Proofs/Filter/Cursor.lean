import Polystore.Filter.Cursor
import Polystore.Proofs.Filter.Operators

/-!
# Cursor filters mean their conditions too

Every condition that a cursor can evaluate can also be written as an operator document,
unless a field of it is taken for an operator.  Both filters accept the same documents as
long as every field that `!=` asks for is there: of a missing field, a cursor says that
nothing holds, and an operator document that it differs from any operand.
-/

namespace Polystore.Filter

/-! ## Leaves -/

/-- A cursor evaluates a leaf if it has its operator, and items to look through. -/
theorem cursorLeaf_eq_ok_iff (leaf : Leaf) (filter : CursorFilter) :
    cursorLeaf leaf = .ok filter ↔
      ∃ operator, cursorOperator? leaf.operator = some operator ∧
        (operator = .within → ∃ items, leaf.operand = .array items) ∧
        filter = .field leaf.field operator leaf.operand := by
  rcases leaf with ⟨field, operator, operand⟩
  simp only [cursorLeaf]
  cases cursorOperator? operator with
  | none => simp
  | some known =>
      cases known with
      | within => cases operand <;> simp [eq_comm]
      | _ => simp [eq_comm]

/-- What a cursor can evaluate can be written as an operator document. -/
theorem expressible_of_cursorLeaf {leaf : Leaf} {filter : CursorFilter}
    (compiled : cursorLeaf leaf = .ok filter) (plain : leaf.field.toList.head? ≠ some '$') :
    leaf.Expressible := by
  rcases (cursorLeaf_eq_ok_iff leaf filter).mp compiled with ⟨operator, known, items, -⟩
  constructor
  · intro within
    rw [within] at known
    apply items
    exact (Option.some.inj known).symm
  · intro regex
    rw [regex] at known
    contradiction
  · exact plain

/-- A comparison on a cursor is the comparison of the leaf, but for `!=` on a field that is
missing. -/
theorem holds_of_cursorOperator? {operator : Operator} {known : CursorOperator}
    (same : cursorOperator? operator = some known) (operand : Json) {found : Option Json}
    (there : operator = .ne → found.isSome) :
    known.holds operand found = operator.holds operand found := by
  cases operator with
  | ne =>
      cases same
      rcases Option.isSome_iff_exists.mp (there rfl) with ⟨value, rfl⟩
      rfl
  | eq =>
      cases same
      rfl
  | within =>
      cases same
      rfl
  | gt =>
      cases same
      exact ordered_eq_comparesAs found operand _
  | gte =>
      cases same
      exact ordered_eq_comparesAs found operand _
  | lt =>
      cases same
      exact ordered_eq_comparesAs found operand _
  | lte =>
      cases same
      exact ordered_eq_comparesAs found operand _
  | _ => contradiction

/-- The fields that `!=` asks for, among some leaves, are all there. -/
def DiffersOnFound (leaves : List Leaf) (document : Json) : Prop :=
  ∀ leaf ∈ leaves, leaf.operator = .ne → (document.lookup? leaf.field).isSome

theorem holds_of_cursorLeaf {leaf : Leaf} {filter : CursorFilter}
    (compiled : cursorLeaf leaf = .ok filter) {document : Json}
    (there : leaf.operator = .ne → (document.lookup? leaf.field).isSome) :
    filter.holds document = leaf.holds document := by
  rcases (cursorLeaf_eq_ok_iff leaf filter).mp compiled with ⟨operator, known, -, rfl⟩
  have hard : leaf.operator.isSoft = false := by
    cases soft : leaf.operator with
    | softEq | softLt | softGt =>
        rw [soft] at known
        contradiction
    | _ => rfl
  rw [CursorFilter.holds, Leaf.holds, hard, holds_of_cursorOperator? known leaf.operand there]
  rfl

/-! ## Conditions -/

/-- A group of cursor filters holds if its connective does, and always if it is empty. -/
theorem holds_join {rules : List Rule} {filters : List CursorFilter} (connective : Connective)
    (document : Json) (lengths : filters.length = rules.length)
    (every : CursorFilter.everyHolds document filters = allHold document rules)
    (any : CursorFilter.someHolds document filters = anyHolds document rules) :
    (cursor.join connective filters).holds document =
      (Rule.group connective rules).holds document := by
  match filters, rules, lengths with
  | [], [], _ => cases connective <;> rfl
  | [only], [rule], _ =>
      simp only [CursorFilter.everyHolds, allHold, Bool.and_true] at every
      cases connective <;> simp [Dialect.join, Rule.holds, allHold, anyHolds, every]
  | first :: second :: filters, rule :: next :: rules, _ =>
      cases connective with
      | all => exact every
      | any => exact any

mutual

/-- Where a rule is compiled for a cursor, so is each of its leaves. -/
theorem exists_cursorLeaf {rule : Rule} {filter : CursorFilter}
    (compiled : cursor.compileRule rule = .ok filter) :
    ∀ leaf ∈ rule.leaves, ∃ part, cursorLeaf leaf = .ok part := by
  match rule with
  | .leaf leaf =>
      rw [Dialect.compileRule] at compiled
      rw [Rule.leaves, List.forall_mem_singleton]
      exact ⟨filter, compiled⟩
  | .group connective rules =>
      rw [Dialect.compileRule] at compiled
      rw [Rule.leaves]
      cases each : cursor.compileRules rules with
      | error cause =>
          rw [each] at compiled
          contradiction
      | ok filters => exact exists_cursorLeaves each

theorem exists_cursorLeaves {rules : List Rule} {filters : List CursorFilter}
    (compiled : cursor.compileRules rules = .ok filters) :
    ∀ leaf ∈ leavesOf rules, ∃ part, cursorLeaf leaf = .ok part := by
  match rules with
  | [] =>
      intro leaf member
      contradiction
  | rule :: rest =>
      rcases (compileRules_cons_ok_iff rule rest filters).mp compiled with
        ⟨first, others, firstCompiled, restCompiled, -⟩
      rw [leavesOf, List.forall_mem_append]
      exact ⟨exists_cursorLeaf firstCompiled, exists_cursorLeaves restCompiled⟩

end

mutual

/-- A rule that is compiled for a cursor holds where its filter does. -/
theorem holds_of_compileRule {rule : Rule} {filter : CursorFilter}
    (compiled : cursor.compileRule rule = .ok filter) {document : Json}
    (there : DiffersOnFound rule.leaves document) :
    filter.holds document = rule.holds document := by
  match rule with
  | .leaf leaf =>
      rw [Dialect.compileRule] at compiled
      rw [Rule.leaves, DiffersOnFound, List.forall_mem_singleton] at there
      rw [Rule.holds]
      exact holds_of_cursorLeaf compiled there
  | .group connective rules =>
      rw [Dialect.compileRule] at compiled
      rw [Rule.leaves] at there
      cases each : cursor.compileRules rules with
      | error cause =>
          rw [each] at compiled
          contradiction
      | ok filters =>
          rw [each] at compiled
          cases compiled
          rcases holds_of_compileRules each there with ⟨lengths, every, any⟩
          exact holds_join connective document lengths every any

theorem holds_of_compileRules {rules : List Rule} {filters : List CursorFilter}
    (compiled : cursor.compileRules rules = .ok filters) {document : Json}
    (there : DiffersOnFound (leavesOf rules) document) :
    filters.length = rules.length ∧
      CursorFilter.everyHolds document filters = allHold document rules ∧
      CursorFilter.someHolds document filters = anyHolds document rules := by
  match rules with
  | [] =>
      cases compiled
      exact ⟨rfl, rfl, rfl⟩
  | rule :: rest =>
      rcases (compileRules_cons_ok_iff rule rest filters).mp compiled with
        ⟨first, others, firstCompiled, restCompiled, rfl⟩
      rw [leavesOf, DiffersOnFound, List.forall_mem_append] at there
      have here := holds_of_compileRule firstCompiled there.1
      rcases holds_of_compileRules restCompiled there.2 with ⟨lengths, every, any⟩
      simp only [List.length_cons, CursorFilter.everyHolds, allHold, CursorFilter.someHolds,
        anyHolds, here, lengths, every, any, and_self]

end

/-- A condition that is compiled for a cursor, and none of whose fields is taken for an
operator, also compiles to a predicate.  The two accept the same documents, if these have the
fields that `!=` asks for. -/
theorem cursor_holds_eq_predicate_holds {condition : Condition} {filter : CursorFilter}
    (compiled : cursor.compile condition = .ok filter)
    (plain : ∀ leaf ∈ condition.leaves, leaf.field.toList.head? ≠ some '$') :
    ∃ written predicate, operators.compile condition = .ok written ∧
      readFilter written = .ok predicate ∧
      ∀ document, (∀ leaf ∈ condition.leaves, leaf.operator = .ne →
          (document.lookup? leaf.field).isSome) →
        filter.holds document = predicate.holds document := by
  have expressible : ∀ leaf ∈ condition.toRule.leaves, leaf.Expressible := by
    intro leaf member
    rcases exists_cursorLeaf compiled leaf member with ⟨part, partCompiled⟩
    apply expressible_of_cursorLeaf partCompiled
    rw [Condition.toRule, Rule.leaves] at member
    exact plain leaf member
  rcases exists_compileRule condition.toRule expressible with
    ⟨written, predicate, wrote, read, means⟩
  refine ⟨written, predicate, wrote, read, ?_⟩
  intro document there
  rw [means]
  apply holds_of_compileRule compiled
  rwa [Condition.toRule, Rule.leaves]

/-- A condition of nested groups with a comparison of each kind, and an empty group. -/
def shelfCondition : Condition :=
  ⟨.all, [.leaf ⟨"kind", .ne, .string "map"⟩,
    .group .any [.leaf ⟨"tags.0", .within, .array [.string "new"]⟩,
      .leaf ⟨"year", .gte, Json.ofInt 1900⟩],
    .group .any []]⟩

/-- A filter of each kind accepts a book of some kind, and only the one of documents accepts a
book of none. -/
theorem shelfCondition_holds_alike :
    ∃ filter written predicate, cursor.compile shelfCondition = .ok filter ∧
      operators.compile shelfCondition = .ok written ∧ readFilter written = .ok predicate ∧
      filter.holds (.object [("kind", .string "atlas"), ("year", Json.ofInt 1912)]) =
        predicate.holds (.object [("kind", .string "atlas"), ("year", Json.ofInt 1912)]) ∧
      filter.holds (.object [("year", Json.ofInt 1912)]) = false := by
  have plain : ∀ leaf ∈ shelfCondition.leaves, leaf.field.toList.head? ≠ some '$' := by decide
  have compiled : cursor.compile shelfCondition = .ok (.allOf [.field "kind" .ne (.string "map"),
      .anyOf [.field "tags.0" .within (.array [.string "new"]),
        .field "year" .gte (Json.ofInt 1900)], .all]) := rfl
  rcases cursor_holds_eq_predicate_holds compiled plain with
    ⟨written, predicate, wrote, read, alike⟩
  refine ⟨_, written, predicate, compiled, wrote, read, alike _ ?_, ?_⟩
  · decide
  · decide

end Polystore.Filter
