import Polystore.Condition.Meaning
import Polystore.Store.Cluster

/-!
# Operator documents mean their conditions

A condition goes through two languages before a clustered store evaluates it: the
operator document that is written for it, and the predicate that this document is
read into.  Both passes together keep the meaning that is read off the condition
tree, and they succeed exactly if every leaf can be expressed.
-/

namespace Polystore

/-- A leaf that operator documents can express: its operand suits its operator, and
its field is not taken for an operator. -/
structure Leaf.Expressible (leaf : Leaf) : Prop where
  membership : leaf.operator = .within → ∃ items, leaf.operand = .array items
  pattern : leaf.operator = .regex → ∃ written pattern,
    leaf.operand = .string written ∧ Pattern.compile written = .ok pattern
  fieldName : leaf.field.toList.head? ≠ some '$'

namespace Filter

theorem isOperatorName_eq_false_iff (name : String) :
    isOperatorName name = false ↔ name.toList.head? ≠ some '$' := by
  rw [isOperatorName, beq_eq_false_iff_ne]

/-! ## Documents of one field -/

/-- A document of one field is read into the clause of this field. -/
theorem readFilter_single (name : String) (value : Json) :
    readFilter (single name value) = readClause name value := by
  rw [single, readFilter, readClauses, readClauses]
  cases readClause name value with
  | ok clause => rfl
  | error cause => rfl

theorem readClause_of_plain {field : String} (plain : isOperatorName field = false)
    (value : Json) :
    readClause field value = (fieldTests value).map (Predicate.field field) := by
  have notAll : field ≠ "$and" := by
    rintro rfl
    contradiction
  have notAny : field ≠ "$or" := by
    rintro rfl
    contradiction
  rw [readClause.eq_def, if_neg notAll, if_neg notAny, plain]
  cases fieldTests value with
  | ok tests => rfl
  | error cause => rfl

theorem readClause_all (items : List Json) :
    readClause "$and" (.array items) = (readFilters items).map Predicate.allOf := by
  rw [readClause, if_pos rfl]
  cases readFilters items with
  | ok filters => rfl
  | error cause => rfl

theorem readClause_any (items : List Json) :
    readClause "$or" (.array items) = (readFilters items).map Predicate.anyOf := by
  rw [readClause, if_neg (by decide), if_pos rfl]
  cases readFilters items with
  | ok filters => rfl
  | error cause => rfl

/-- Where a field is taken for an operator, no object is read. -/
theorem readClause_of_isOperatorName {field : String} (reserved : isOperatorName field = true)
    (fields : Keyed Json) (predicate : Predicate) :
    readClause field (.object fields) ≠ .ok predicate := by
  rw [readClause.eq_def]
  by_cases all : field = "$and"
  · simp [all]
  · by_cases any : field = "$or"
    · simp [any]
    · simp [all, any, reserved]

/-- An object of one operator is one test. -/
theorem fieldTests_single {name : String} (reserved : isOperatorName name = true)
    (operand : Json) :
    fieldTests (single name operand) = (readTest name operand).map ([·]) := by
  rw [single, fieldTests]
  simp only [List.all_cons, reserved, List.all_nil, Bool.and_self, if_true, readTests]
  cases readTest name operand with
  | ok test => rfl
  | error cause => rfl

/-! ## Comparisons -/

/-- A test that asks of a field what a comparison asks of it. -/
def FieldTest.Means (test : FieldTest) (operator : Operator) (operand : Json) : Prop :=
  ∀ found, test.holds found = operator.holds operand found

theorem ordered_eq_comparesAs (found : Option Json) (operand : Json) (accept : Ordering → Bool) :
    ordered found operand accept = comparesAs accept operand found := by
  cases found with
  | none => rfl
  | some value => rfl

theorem all_not_eq_not_any (found : Option Json) (operand : Json) :
    (found.all fun value => !value.equals operand) =
      !(found.any fun value => value.equals operand) := by
  cases found with
  | none => rfl
  | some value => rfl

/-- A comparison is written as one operator, whose test means the comparison. -/
theorem exists_test_of_comparison {field : String} {operator : Operator} {operand document : Json}
    (written : comparison field operator operand = .ok document) :
    ∃ name test, document = single field (single name operand) ∧ isOperatorName name = true ∧
      readTest name operand = .ok test ∧ test.Means operator operand := by
  have notSoft := operator.isSoft_hard
  simp only [comparison, FieldTest.Means, Operator.holds] at written ⊢
  generalize operator.hard = hard at *
  cases hard with
  | eq =>
      cases written
      exact ⟨"$eq", .eq operand, rfl, rfl, rfl, fun _ => rfl⟩
  | ne =>
      cases written
      exact ⟨"$ne", .ne operand, rfl, rfl, rfl, fun found => all_not_eq_not_any found operand⟩
  | gt =>
      cases written
      exact ⟨"$gt", .gt operand, rfl, rfl, rfl, fun found => ordered_eq_comparesAs found operand _⟩
  | gte =>
      cases written
      exact ⟨"$gte", .gte operand, rfl, rfl, rfl,
        fun found => ordered_eq_comparesAs found operand _⟩
  | lt =>
      cases written
      exact ⟨"$lt", .lt operand, rfl, rfl, rfl, fun found => ordered_eq_comparesAs found operand _⟩
  | lte =>
      cases written
      exact ⟨"$lte", .lte operand, rfl, rfl, rfl,
        fun found => ordered_eq_comparesAs found operand _⟩
  | within =>
      cases operand with
      | array items =>
          cases written
          exact ⟨"$in", .within items, rfl, rfl, rfl, fun _ => rfl⟩
      | _ => contradiction
  | regex =>
      cases operand with
      | string text =>
          dsimp only at written ⊢
          cases compiled : Pattern.compile text with
          | error cause =>
              rw [compiled] at written
              contradiction
          | ok pattern =>
              rw [compiled] at written
              cases written
              refine ⟨"$regex", .regex pattern, rfl, rfl, ?_, ?_⟩
              · rw [readTest, compiled]
              · intro found
                cases found with
                | none => rfl
                | some value => cases value <;> simp [FieldTest.holds, compiled]
      | _ => contradiction
  | softEq => contradiction
  | softLt => contradiction
  | softGt => contradiction

/-- A comparison is written exactly if its operand suits its operator. -/
theorem exists_comparison {leaf : Leaf} (expressible : leaf.Expressible) :
    ∃ document, comparison leaf.field leaf.operator leaf.operand = .ok document := by
  rcases leaf with ⟨field, operator, operand⟩
  cases operator with
  | within =>
      obtain ⟨items, rfl⟩ := expressible.membership rfl
      exact ⟨_, rfl⟩
  | regex =>
      obtain ⟨written, pattern, rfl, compiled⟩ := expressible.pattern rfl
      refine ⟨single field (single "$regex" (.string written)), ?_⟩
      simp only [comparison, Operator.hard, compiled]
  | _ => exact ⟨_, rfl⟩

theorem suits_of_comparison {leaf : Leaf} {document : Json}
    (written : comparison leaf.field leaf.operator leaf.operand = .ok document) :
    (leaf.operator = .within → ∃ items, leaf.operand = .array items) ∧
      (leaf.operator = .regex → ∃ text pattern,
        leaf.operand = .string text ∧ Pattern.compile text = .ok pattern) := by
  rcases leaf with ⟨field, operator, operand⟩
  constructor
  · rintro rfl
    cases operand with
    | array items => exact ⟨items, rfl⟩
    | _ => contradiction
  · rintro rfl
    cases operand with
    | string text =>
        simp only [comparison, Operator.hard] at written
        cases compiled : Pattern.compile text with
        | ok pattern => exact ⟨text, pattern, rfl, compiled⟩
        | error cause =>
            rw [compiled] at written
            contradiction
    | _ => contradiction

/-! ## Leaves -/

/-- Where a field is not taken for an operator, the document of one of its operators is
read into a test of the field. -/
theorem readFilter_test {field name : String} {operand : Json} {test : FieldTest}
    (plain : isOperatorName field = false) (reserved : isOperatorName name = true)
    (read : readTest name operand = .ok test) :
    readFilter (single field (single name operand)) = .ok (.field field [test]) := by
  rw [readFilter_single, readClause_of_plain plain, fieldTests_single reserved, read]
  rfl

theorem holds_field (document : Json) (field : String) (test : FieldTest) :
    (Predicate.field field [test]).holds document = test.holds (document.lookup? field) := by
  rw [Predicate.holds, List.all_cons, List.all_nil, Bool.and_true]

/-- An expressible leaf is written and read into a predicate that means the leaf. -/
theorem exists_leafDocument {leaf : Leaf} (expressible : leaf.Expressible) :
    ∃ written predicate, leafDocument leaf = .ok written ∧ readFilter written = .ok predicate ∧
      ∀ document, predicate.holds document = leaf.holds document := by
  have plain := (isOperatorName_eq_false_iff leaf.field).mpr expressible.fieldName
  obtain ⟨compared, written⟩ := exists_comparison expressible
  obtain ⟨name, test, rfl, reserved, read, means⟩ := exists_test_of_comparison written
  have hard := readFilter_test plain reserved read
  by_cases soft : leaf.operator.isSoft = true
  · have missing : readFilter (single leaf.field (single "$exists" (.bool false))) =
        .ok (.field leaf.field [.isThere false]) := readFilter_test plain rfl rfl
    let absent := single leaf.field (single "$exists" (.bool false))
    let compared := single leaf.field (single name leaf.operand)
    refine ⟨single "$or" (.array [absent, compared]),
      .anyOf [.field leaf.field [.isThere false], .field leaf.field [test]], ?_, ?_, ?_⟩
    · rw [leafDocument, written]
      exact if_pos soft
    · rw [readFilter_single, readClause_any, readFilters, readFilters, readFilters, missing, hard]
      rfl
    · intro document
      rw [Predicate.holds, Predicate.someHolds, Predicate.someHolds, Predicate.someHolds,
        holds_field, holds_field, means, Leaf.holds, soft]
      cases document.lookup? leaf.field with
      | none => rfl
      | some value => simp [FieldTest.holds]
  · refine ⟨_, .field leaf.field [test], ?_, hard, ?_⟩
    · rw [leafDocument, written]
      exact if_neg soft
    · intro document
      rw [Bool.not_eq_true] at soft
      rw [holds_field, means, Leaf.holds, soft]
      rfl

/-- No field that is taken for an operator is read. -/
theorem plain_of_readFilter {field name : String} {operand : Json} {predicate : Predicate}
    (read : readFilter (single field (single name operand)) = .ok predicate) :
    isOperatorName field = false := by
  rw [readFilter_single] at read
  rw [← Bool.not_eq_true]
  intro reserved
  exact readClause_of_isOperatorName reserved _ predicate read

/-- Only expressible leaves are written and read. -/
theorem expressible_of_leafDocument {leaf : Leaf} {written : Json} {predicate : Predicate}
    (document : leafDocument leaf = .ok written) (read : readFilter written = .ok predicate) :
    leaf.Expressible := by
  rw [leafDocument] at document
  cases comparedWith : comparison leaf.field leaf.operator leaf.operand with
  | error cause =>
      rw [comparedWith] at document
      contradiction
  | ok compared =>
      obtain ⟨membership, pattern⟩ := suits_of_comparison comparedWith
      obtain ⟨name, test, rfl, -, -, -⟩ := exists_test_of_comparison comparedWith
      refine ⟨membership, pattern, (isOperatorName_eq_false_iff leaf.field).mp ?_⟩
      rw [comparedWith] at document
      by_cases soft : leaf.operator.isSoft = true
      · simp only [soft, if_true] at document
        cases document
        rw [readFilter_single, readClause_any, readFilters] at read
        cases absent : readFilter (single leaf.field (single "$exists" (.bool false))) with
        | ok missing => exact plain_of_readFilter absent
        | error cause =>
            rw [absent] at read
            contradiction
      · simp only [soft] at document
        cases document
        exact plain_of_readFilter read

/-! ## Groups -/

/-- The predicates of a group joined into one. -/
def joinPredicates (connective : Connective) (predicates : List Predicate) : Predicate :=
  match predicates with
  | [] => .always
  | [only] => only
  | several =>
      match connective with
      | .all => .allOf several
      | .any => .anyOf several

theorem readFilters_cons_ok_iff (document : Json) (rest : List Json)
    (predicates : List Predicate) :
    readFilters (document :: rest) = .ok predicates ↔
      ∃ first others, readFilter document = .ok first ∧ readFilters rest = .ok others ∧
        predicates = first :: others := by
  rw [readFilters]
  cases readFilter document with
  | error cause => simp
  | ok first =>
      cases readFilters rest with
      | error cause => simp
      | ok others => simp [eq_comm]

theorem compileRules_cons_ok_iff {φ : Type} {dialect : Dialect φ} (rule : Rule)
    (rest : List Rule) (filters : List φ) :
    dialect.compileRules (rule :: rest) = .ok filters ↔
      ∃ first others, dialect.compileRule rule = .ok first ∧
        dialect.compileRules rest = .ok others ∧ filters = first :: others := by
  rw [Dialect.compileRules]
  cases dialect.compileRule rule with
  | error cause => simp
  | ok first =>
      cases dialect.compileRules rest with
      | error cause => simp
      | ok others => simp [eq_comm]

/-- Joining documents and reading the result is reading them and joining the
predicates. -/
theorem readFilter_join (connective : Connective) (documents : List Json) :
    readFilter (operators.join connective documents) =
      (readFilters documents).map (joinPredicates connective) := by
  match documents with
  | [] => rfl
  | [only] =>
      rw [Dialect.join, readFilters, readFilters]
      cases readFilter only with
      | ok predicate => rfl
      | error cause => rfl
  | first :: second :: rest =>
      have several (predicates : List Predicate)
          (read : readFilters (first :: second :: rest) = .ok predicates) :
          joinPredicates .all predicates = .allOf predicates ∧
            joinPredicates .any predicates = .anyOf predicates := by
        obtain ⟨one, others, -, more, rfl⟩ :=
          (readFilters_cons_ok_iff first (second :: rest) predicates).mp read
        obtain ⟨two, others, -, -, rfl⟩ :=
          (readFilters_cons_ok_iff second rest others).mp more
        exact ⟨rfl, rfl⟩
      cases connective with
      | all =>
          apply ((readFilter_single _ _).trans (readClause_all _)).trans
          cases read : readFilters (first :: second :: rest) with
          | error cause => rfl
          | ok predicates => exact congrArg Except.ok (several predicates read).1.symm
      | any =>
          apply ((readFilter_single _ _).trans (readClause_any _)).trans
          cases read : readFilters (first :: second :: rest) with
          | error cause => rfl
          | ok predicates => exact congrArg Except.ok (several predicates read).2.symm

/-- A group of predicates holds if its connective does, and always if it is empty. -/
theorem holds_joinPredicates {rules : List Rule} {predicates : List Predicate}
    (connective : Connective) (document : Json) (lengths : predicates.length = rules.length)
    (every : Predicate.everyHolds document predicates = allHold document rules)
    (any : Predicate.someHolds document predicates = anyHolds document rules) :
    (joinPredicates connective predicates).holds document =
      (Rule.group connective rules).holds document := by
  match predicates, rules, lengths with
  | [], [], _ => cases connective <;> rfl
  | [only], [rule], _ =>
      simp only [Predicate.everyHolds, allHold, Bool.and_true] at every
      cases connective <;> simp [joinPredicates, Rule.holds, allHold, anyHolds, every]
  | first :: second :: predicates, rule :: next :: rules, _ =>
      cases connective with
      | all => exact every
      | any => exact any

/-! ## Conditions -/

mutual

/-- A rule of expressible leaves is written and read into a predicate that means the
rule. -/
theorem exists_compileRule (rule : Rule) (expressible : ∀ leaf ∈ rule.leaves, leaf.Expressible) :
    ∃ written predicate, operators.compileRule rule = .ok written ∧
      readFilter written = .ok predicate ∧
      ∀ document, predicate.holds document = rule.holds document := by
  match rule with
  | .leaf leaf =>
      have suits : leaf.Expressible := expressible leaf (by rw [Rule.leaves]; exact .head _)
      obtain ⟨written, predicate, compiled, read, means⟩ := exists_leafDocument suits
      refine ⟨written, predicate, ?_, read, ?_⟩
      · rw [Dialect.compileRule]
        exact compiled
      · intro document
        rw [means, Rule.holds]
  | .group connective rules =>
      obtain ⟨written, predicates, compiled, read, lengths, means⟩ :=
        exists_compileRules rules (by rwa [Rule.leaves] at expressible)
      refine ⟨operators.join connective written, joinPredicates connective predicates, ?_, ?_, ?_⟩
      · rw [Dialect.compileRule, compiled]
      · rw [readFilter_join, read]
        rfl
      · intro document
        exact holds_joinPredicates connective document lengths (means document).1
          (means document).2

theorem exists_compileRules (rules : List Rule)
    (expressible : ∀ leaf ∈ leavesOf rules, leaf.Expressible) :
    ∃ written predicates, operators.compileRules rules = .ok written ∧
      readFilters written = .ok predicates ∧ predicates.length = rules.length ∧
      ∀ document, Predicate.everyHolds document predicates = allHold document rules ∧
        Predicate.someHolds document predicates = anyHolds document rules := by
  match rules with
  | [] => exact ⟨[], [], rfl, rfl, rfl, fun document => ⟨rfl, rfl⟩⟩
  | rule :: rest =>
      rw [leavesOf] at expressible
      obtain ⟨first, predicate, firstCompiled, firstRead, firstMeans⟩ :=
        exists_compileRule rule fun leaf member =>
          expressible leaf (List.mem_append_left _ member)
      obtain ⟨others, predicates, compiled, read, lengths, means⟩ :=
        exists_compileRules rest fun leaf member =>
          expressible leaf (List.mem_append_right _ member)
      refine ⟨first :: others, predicate :: predicates, ?_, ?_, ?_, ?_⟩
      · exact (compileRules_cons_ok_iff _ _ _).mpr ⟨first, others, firstCompiled, compiled, rfl⟩
      · exact (readFilters_cons_ok_iff _ _ _).mpr
          ⟨predicate, predicates, firstRead, read, rfl⟩
      · rw [List.length_cons, List.length_cons, lengths]
      · intro document
        constructor
        · rw [Predicate.everyHolds, allHold, firstMeans, (means document).1]
        · rw [Predicate.someHolds, anyHolds, firstMeans, (means document).2]

end

mutual

/-- What is written for a rule and read again has expressible leaves only. -/
theorem expressible_of_compileRule {rule : Rule} {written : Json} {predicate : Predicate}
    (compiled : operators.compileRule rule = .ok written)
    (read : readFilter written = .ok predicate) : ∀ leaf ∈ rule.leaves, leaf.Expressible := by
  match rule with
  | .leaf leaf =>
      rw [Dialect.compileRule] at compiled
      rw [Rule.leaves, List.forall_mem_singleton]
      exact expressible_of_leafDocument compiled read
  | .group connective rules =>
      rw [Dialect.compileRule] at compiled
      rw [Rule.leaves]
      cases each : operators.compileRules rules with
      | error cause =>
          rw [each] at compiled
          contradiction
      | ok documents =>
          rw [each] at compiled
          cases compiled
          rw [readFilter_join] at read
          cases readEach : readFilters documents with
          | error cause =>
              rw [readEach] at read
              contradiction
          | ok predicates => exact expressible_of_compileRules each readEach

theorem expressible_of_compileRules {rules : List Rule} {written : List Json}
    {predicates : List Predicate} (compiled : operators.compileRules rules = .ok written)
    (read : readFilters written = .ok predicates) :
    ∀ leaf ∈ leavesOf rules, leaf.Expressible := by
  match rules with
  | [] =>
      intro leaf member
      contradiction
  | rule :: rest =>
      obtain ⟨first, others, firstCompiled, restCompiled, rfl⟩ :=
        (compileRules_cons_ok_iff rule rest written).mp compiled
      obtain ⟨predicate, remaining, firstRead, restRead, -⟩ :=
        (readFilters_cons_ok_iff first others predicates).mp read
      intro leaf member
      rw [leavesOf, List.mem_append] at member
      rcases member with member | member
      · exact expressible_of_compileRule firstCompiled firstRead leaf member
      · exact expressible_of_compileRules restCompiled restRead leaf member

end

end Filter

namespace ClusterStore

open Polystore.Filter

theorem compile_ok_iff (condition : Condition) (predicate : Predicate) :
    compile condition = .ok predicate ↔
      ∃ written, operators.compileRule condition.toRule = .ok written ∧
        readFilter written = .ok predicate := by
  rw [compile, Dialect.compile]
  cases operators.compileRule condition.toRule with
  | error cause => simp [Except.bind]
  | ok written => simp [Except.bind]

/-- A clustered store compiles a condition exactly if all its leaves can be expressed,
and the predicate then means the condition. -/
theorem compile_preserves_meaning (condition : Condition) :
    ((∃ predicate, compile condition = .ok predicate) ↔
      ∀ leaf ∈ condition.leaves, leaf.Expressible) ∧
    ∀ predicate, compile condition = .ok predicate →
      ∀ document, predicate.holds document = condition.holds document := by
  have complete (expressible : ∀ leaf ∈ condition.leaves, leaf.Expressible) :
      ∃ predicate, compile condition = .ok predicate ∧
        ∀ document, predicate.holds document = condition.holds document := by
    obtain ⟨written, predicate, compiled, read, means⟩ :=
      exists_compileRule condition.toRule expressible
    exact ⟨predicate, (compile_ok_iff condition predicate).mpr ⟨written, compiled, read⟩, means⟩
  have sound (predicate : Predicate) (compiled : compile condition = .ok predicate) :
      ∀ leaf ∈ condition.leaves, leaf.Expressible := by
    obtain ⟨written, compiled, read⟩ := (compile_ok_iff condition predicate).mp compiled
    exact expressible_of_compileRule compiled read
  constructor
  · constructor
    · rintro ⟨predicate, compiled⟩
      exact sound predicate compiled
    · intro expressible
      obtain ⟨predicate, compiled, -⟩ := complete expressible
      exact ⟨predicate, compiled⟩
  · intro predicate compiled document
    obtain ⟨same, sameCompiled, means⟩ := complete (sound predicate compiled)
    rw [compiled] at sameCompiled
    cases sameCompiled
    exact means document

/-- A condition of nested groups, with a soft operator and an empty disjunction. -/
def nestedCondition : Condition :=
  ⟨.all, [.leaf ⟨"age", .softLt, Json.ofInt 30⟩,
    .group .any [.leaf ⟨"tags.0", .within, .array [.string "new"]⟩,
      .leaf ⟨"name", .regex, .string "^A"⟩],
    .group .any []]⟩

theorem compile_nestedCondition :
    (∃ predicate, compile nestedCondition = .ok predicate ∧
      ∀ document, predicate.holds document = nestedCondition.holds document) ∧
    nestedCondition.holds (.object [("name", .string "Ada")]) = true ∧
    nestedCondition.holds (.object [("name", .string "Bob")]) = false := by
  obtain ⟨-, means⟩ := compile_preserves_meaning nestedCondition
  have compiles : ∃ predicate, compile nestedCondition = .ok predicate := ⟨_, rfl⟩
  obtain ⟨predicate, compiled⟩ := compiles
  exact ⟨⟨predicate, compiled, means predicate compiled⟩, by decide, by decide⟩

end ClusterStore

end Polystore
