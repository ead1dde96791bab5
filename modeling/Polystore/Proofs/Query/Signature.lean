import Polystore.Filter.Cursor
import Polystore.Proofs.Crc32
import Polystore.Proofs.Json.Apart
import Polystore.Query.Signature

/-!
# What a signature tells

Collection and field names stand in a token text as they are.  As long as they keep
clear of the marks that close them, the text is cut into its tokens in one way only: a
collection ends at the first bracket or parenthesis, a field at the first slash, and an
operand ends by itself.  The condition can then be recovered up to the conjunction at
its root, which does not change the filter that it compiles to.
-/

namespace Polystore

/-! ## Cutting a text at a mark -/

namespace Text

/-- A text is empty or begins with a mark. -/
def BeginsWithMark (isMark : Char → Bool) (text : List Char) : Prop :=
  ∀ c rest, text = c :: rest → isMark c = true

/-- What stands before the first mark of a text is told by the text. -/
theorem cut_inj (isMark : Char → Bool) {left right leftMore rightMore : List Char}
    (leftClear : ∀ c ∈ left, isMark c = false) (rightClear : ∀ c ∈ right, isMark c = false)
    (leftMark : BeginsWithMark isMark leftMore) (rightMark : BeginsWithMark isMark rightMore)
    (same : left ++ leftMore = right ++ rightMore) : left = right ∧ leftMore = rightMore := by
  induction left generalizing right with
  | nil =>
      cases right with
      | nil => exact ⟨rfl, same⟩
      | cons d right =>
          have clear := rightClear d List.mem_cons_self
          rw [leftMark d _ same] at clear
          cases clear
  | cons c left ih =>
      rw [List.forall_mem_cons] at leftClear
      cases right with
      | nil =>
          have clear := leftClear.1
          rw [rightMark c _ same.symm] at clear
          cases clear
      | cons d right =>
          rw [List.forall_mem_cons] at rightClear
          obtain ⟨rfl, later⟩ := List.cons.inj same
          obtain ⟨rfl, more⟩ := ih leftClear.2 rightClear.2 later
          exact ⟨rfl, more⟩

/-- What stands before the first place of a character is told by the text. -/
theorem cut_char_inj {c : Char} {left right leftMore rightMore : List Char}
    (leftAbsent : c ∉ left) (rightAbsent : c ∉ right)
    (same : left ++ c :: leftMore = right ++ c :: rightMore) :
    left = right ∧ leftMore = rightMore := by
  have clear {text : List Char} (absent : c ∉ text) : ∀ d ∈ text, (d == c) = false := by
    intro d mem
    rw [beq_eq_false_iff_ne]
    rintro rfl
    exact absent mem
  have mark (more : List Char) : BeginsWithMark (· == c) (c :: more) := by
    intro d rest begins
    rw [(List.cons.inj begins).1]
    exact beq_self_eq_true d
  obtain ⟨before, after⟩ := cut_inj (· == c) (clear leftAbsent) (clear rightAbsent)
    (mark leftMore) (mark rightMore) same
  exact ⟨before, (List.cons.inj after).2⟩

end Text

/-! ## Names that keep clear of marks -/

/-- No leaf of a rule has a slash in the name of its field. -/
def Rule.IsPlain (rule : Rule) : Prop :=
  ∀ leaf ∈ rule.leaves, '/' ∉ leaf.field.toList

/-- No leaf of some rules has a slash in the name of its field. -/
def ArePlain (rules : List Rule) : Prop :=
  ∀ leaf ∈ leavesOf rules, '/' ∉ leaf.field.toList

theorem arePlain_cons_iff {rule : Rule} {rest : List Rule} :
    ArePlain (rule :: rest) ↔ rule.IsPlain ∧ ArePlain rest := by
  rw [ArePlain, leavesOf, List.forall_mem_append]
  rfl

theorem plain_group_iff {connective : Connective} {rules : List Rule} :
    (Rule.group connective rules).IsPlain ↔ ArePlain rules :=
  Iff.rfl

/-- What opens a token: the bracket of a leaf or a sort field, or the parenthesis of a
group. -/
def opensToken (c : Char) : Bool :=
  c == '[' || c == '('

namespace Query

/-- The collection of a query holds no mark that opens a token, and no field of the
query holds a slash. -/
structure IsPlain (query : Query) : Prop where
  collection : ∀ c ∈ query.collection.toList, opensToken c = false
  leaves : ∀ leaf ∈ query.condition.leaves, '/' ∉ leaf.field.toList
  sorts : ∀ sort ∈ query.sorts, '/' ∉ sort.field.toList

instance (query : Query) : Decidable query.IsPlain :=
  decidable_of_iff (query.collection.toList.any opensToken = false ∧
      (∀ leaf ∈ query.condition.leaves, '/' ∉ leaf.field.toList) ∧
      ∀ sort ∈ query.sorts, '/' ∉ sort.field.toList)
    ⟨fun ⟨collection, leaves, sorts⟩ =>
        ⟨fun c member => Bool.eq_false_iff.mpr (List.any_eq_false.mp collection c member),
          leaves, sorts⟩,
      fun ⟨collection, leaves, sorts⟩ =>
        ⟨List.any_eq_false.mpr fun c member => Bool.eq_false_iff.mp (collection c member),
          leaves, sorts⟩⟩

/-! ## Tokens of rules -/

theorem leafToken_append (leaf : Leaf) (more : List Char) :
    leafToken leaf ++ more =
      '[' :: (leaf.field.toList ++ '/' ::
        (leaf.operator.text.toList ++ '/' :: (leaf.operand.text ++ ']' :: more))) := by
  simp [leafToken]

theorem slash_notMem_text (operator : Operator) : '/' ∉ operator.text.toList := by
  cases operator <;> decide

theorem operator_text_injective : Function.Injective Operator.text := by
  intro left right same
  have read := Operator.read_text left
  rw [same, Operator.read_text] at read
  exact (Except.ok.inj read).symm

/-- A leaf is told by its token, and so is what comes after it. -/
theorem leafToken_append_inj {left right : Leaf} (leftPlain : '/' ∉ left.field.toList)
    (rightPlain : '/' ∉ right.field.toList) {leftMore rightMore : List Char}
    (same : leafToken left ++ leftMore = leafToken right ++ rightMore) :
    left = right ∧ leftMore = rightMore := by
  rw [leafToken_append, leafToken_append] at same
  obtain ⟨field, more⟩ := Text.cut_char_inj leftPlain rightPlain (List.cons.inj same).2
  obtain ⟨operator, more⟩ :=
    Text.cut_char_inj (slash_notMem_text left.operator) (slash_notMem_text right.operator) more
  obtain ⟨operand, more⟩ := Json.text_append_inj ⟨_, _, rfl, rfl⟩ ⟨_, _, rfl, rfl⟩ more
  constructor
  · cases left
    cases right
    rw [Leaf.mk.injEq]
    exact ⟨String.ext field, operator_text_injective (String.ext operator), operand⟩
  · exact (List.cons.inj more).2

/-- A token of a rule begins with a mark that opens tokens. -/
theorem ruleTokens_eq_cons (rule : Rule) :
    ∃ c rest, ruleTokens rule = c :: rest ∧ opensToken c = true := by
  cases rule with
  | leaf leaf => exact ⟨_, _, rfl, rfl⟩
  | group connective rules =>
      cases connective with
      | all => exact ⟨_, _, rfl, rfl⟩
      | any => exact ⟨_, _, rfl, rfl⟩

/-- No rule begins where a text begins. -/
def EndsRules (more : List Char) : Prop :=
  ∀ rule : Rule, rule.IsPlain → ∀ rest, more ≠ ruleTokens rule ++ rest

theorem endsRules_closing (more : List Char) : EndsRules (')' :: more) := by
  intro rule _ rest same
  obtain ⟨c, tokens, begins, opens⟩ := ruleTokens_eq_cons rule
  rw [begins] at same
  rw [← (List.cons.inj same).1] at opens
  cases opens

theorem groupMark_append_inj {left right : Connective} {leftMore rightMore : List Char}
    (same : groupMark left ++ leftMore = groupMark right ++ rightMore) :
    left = right ∧ leftMore = rightMore := by
  cases left <;> cases right <;> simp_all [groupMark]

mutual

/-- A rule is told by its tokens, and so is what comes after it. -/
theorem ruleTokens_append_inj {left right : Rule} (leftPlain : left.IsPlain)
    (rightPlain : right.IsPlain) {leftMore rightMore : List Char}
    (same : ruleTokens left ++ leftMore = ruleTokens right ++ rightMore) :
    left = right ∧ leftMore = rightMore := by
  match left, right with
  | .leaf left, .leaf right =>
      obtain ⟨leaves, more⟩ := leafToken_append_inj (leftPlain left (List.mem_singleton_self left))
        (rightPlain right (List.mem_singleton_self right)) same
      exact ⟨congrArg Rule.leaf leaves, more⟩
  | .leaf left, .group connective rights => cases connective <;> cases same
  | .group connective lefts, .leaf right => cases connective <;> cases same
  | .group leftConnective lefts, .group rightConnective rights =>
      rw [ruleTokens, ruleTokens, List.append_assoc, List.append_assoc, List.append_assoc,
        List.append_assoc] at same
      obtain ⟨rfl, inner⟩ := groupMark_append_inj same
      obtain ⟨rfl, more⟩ := rulesTokens_append_inj (plain_group_iff.mp leftPlain)
        (plain_group_iff.mp rightPlain) (endsRules_closing _) (endsRules_closing _) inner
      exact ⟨rfl, (List.cons.inj more).2⟩

/-- Rules are told by their tokens up to where no rule begins any more. -/
theorem rulesTokens_append_inj {lefts rights : List Rule} (leftPlain : ArePlain lefts)
    (rightPlain : ArePlain rights) {leftMore rightMore : List Char}
    (leftEnds : EndsRules leftMore) (rightEnds : EndsRules rightMore)
    (same : rulesTokens lefts ++ leftMore = rulesTokens rights ++ rightMore) :
    lefts = rights ∧ leftMore = rightMore := by
  match lefts, rights with
  | [], [] => exact ⟨rfl, same⟩
  | [], right :: rights =>
      rw [rulesTokens, rulesTokens, List.append_assoc] at same
      exact absurd same (leftEnds right (arePlain_cons_iff.mp rightPlain).1 _)
  | left :: lefts, [] =>
      rw [rulesTokens, rulesTokens, List.append_assoc] at same
      exact absurd same.symm (rightEnds left (arePlain_cons_iff.mp leftPlain).1 _)
  | left :: lefts, right :: rights =>
      rw [arePlain_cons_iff] at leftPlain rightPlain
      rw [rulesTokens, rulesTokens, List.append_assoc, List.append_assoc] at same
      obtain ⟨rfl, later⟩ := ruleTokens_append_inj leftPlain.1 rightPlain.1 same
      obtain ⟨rfl, more⟩ := rulesTokens_append_inj leftPlain.2 rightPlain.2 leftEnds rightEnds
        later
      exact ⟨rfl, more⟩

end

/-! ## Tokens of a query -/

theorem sortToken_append (sort : SortField) (more : List Char) :
    ∃ c rest, sortToken sort ++ more = '[' :: (sort.field.toList ++ '/' :: c :: rest) ∧
      (c = 'a' ∨ c = 'd') := by
  rw [sortToken]
  split
  · exact ⟨'a', ['s', 'c', ']'] ++ more, by simp, Or.inl rfl⟩
  · exact ⟨'d', ['e', 's', 'c', ']'] ++ more, by simp, Or.inr rfl⟩

/-- A sort field is told by its token, and so is what comes after it. -/
theorem sortToken_append_inj {left right : SortField} (leftPlain : '/' ∉ left.field.toList)
    (rightPlain : '/' ∉ right.field.toList) {leftMore rightMore : List Char}
    (same : sortToken left ++ leftMore = sortToken right ++ rightMore) :
    left = right ∧ leftMore = rightMore := by
  have cut (sort : SortField) (more : List Char) : sortToken sort ++ more =
      '[' :: (sort.field.toList ++ '/' ::
        ((if sort.ascending then ['a', 's', 'c', ']'] else ['d', 'e', 's', 'c', ']']) ++ more)) := by
    cases ascending : sort.ascending <;> simp [sortToken, ascending]
  rw [cut, cut] at same
  obtain ⟨fields, after⟩ := Text.cut_char_inj leftPlain rightPlain (List.cons.inj same).2
  rcases left with ⟨field, _ | _⟩
  · rcases right with ⟨other, _ | _⟩
    · simp_all [String.ext_iff]
    · simp at after
  · rcases right with ⟨other, _ | _⟩
    · simp at after
    · simp_all [String.ext_iff]

/-- Sort fields are told by their tokens. -/
theorem sorts_of_flatMap {lefts rights : List SortField}
    (leftPlain : ∀ sort ∈ lefts, '/' ∉ sort.field.toList)
    (rightPlain : ∀ sort ∈ rights, '/' ∉ sort.field.toList)
    (same : lefts.flatMap sortToken = rights.flatMap sortToken) : lefts = rights := by
  induction lefts generalizing rights with
  | nil =>
      cases rights with
      | nil => rfl
      | cons right rights => simp [sortToken] at same
  | cons left lefts ih =>
      cases rights with
      | nil => simp [sortToken] at same
      | cons right rights =>
          rw [List.forall_mem_cons] at leftPlain rightPlain
          rw [List.flatMap_cons, List.flatMap_cons] at same
          obtain ⟨rfl, more⟩ := sortToken_append_inj leftPlain.1 rightPlain.1 same
          rw [ih leftPlain.2 rightPlain.2 more]

/-- No operator begins like the direction of a sort field. -/
theorem operator_text_eq_cons (operator : Operator) :
    ∃ c rest, operator.text.toList = c :: rest ∧ c ≠ 'a' ∧ c ≠ 'd' := by
  cases operator <;> exact ⟨_, _, rfl, by decide, by decide⟩

/-- A token of a sort field is no token of a rule. -/
theorem endsRules_sorts {sorts : List SortField}
    (plain : ∀ sort ∈ sorts, '/' ∉ sort.field.toList) : EndsRules (sorts.flatMap sortToken) := by
  intro rule rulePlain rest same
  cases sorts with
  | nil =>
      obtain ⟨c, tokens, begins, -⟩ := ruleTokens_eq_cons rule
      rw [begins] at same
      cases same
  | cons sort sorts =>
      obtain ⟨direction, more, written, either⟩ :=
        sortToken_append sort (sorts.flatMap sortToken)
      rw [List.flatMap_cons, written] at same
      cases rule with
      | group connective rules => cases connective <;> cases same
      | leaf leaf =>
          change _ = leafToken leaf ++ rest at same
          rw [leafToken_append] at same
          obtain ⟨-, after⟩ := Text.cut_char_inj (plain sort List.mem_cons_self)
            (rulePlain leaf (List.mem_singleton_self leaf)) (List.cons.inj same).2
          obtain ⟨c, text, operator, notAscending, notDescending⟩ :=
            operator_text_eq_cons leaf.operator
          rw [operator] at after
          rw [(List.cons.inj after).1] at either
          rcases either with rfl | rfl
          · exact notAscending rfl
          · exact notDescending rfl

end Query

namespace Condition

/-- The rules of a condition under a conjunction at the root. -/
def spread (condition : Condition) : List Rule :=
  match condition.connective with
  | .all => condition.rules
  | .any => [condition.toRule]

theorem leavesOf_spread (condition : Condition) :
    leavesOf condition.spread = condition.leaves := by
  rcases condition with ⟨_ | _, rules⟩
  · rfl
  · exact List.append_nil _

/-- The conjunction at the root that a token text leaves out does not change the filter. -/
theorem compile_spread {φ : Type} (dialect : Filter.Dialect φ) (condition : Condition) :
    dialect.compile ⟨.all, condition.spread⟩ = dialect.compile condition := by
  rcases condition with ⟨_ | _, rules⟩
  · rfl
  · rw [Filter.Dialect.compile, toRule, Filter.Dialect.compileRule, spread,
      Filter.Dialect.compileRules, Filter.Dialect.compileRules, Filter.Dialect.compile]
    dsimp only
    cases dialect.compileRule (toRule ⟨.any, rules⟩) with
    | error cause => rfl
    | ok filter => rfl

theorem compile_eq_of_spread_eq {left right : Condition} (same : left.spread = right.spread)
    {φ : Type} (dialect : Filter.Dialect φ) : dialect.compile left = dialect.compile right := by
  rw [← compile_spread, same, compile_spread]

end Condition

namespace Query

theorem conditionTokens_eq (condition : Condition) :
    conditionTokens condition = rulesTokens condition.spread := by
  rcases condition with ⟨_ | _, rules⟩
  · rfl
  · exact (List.append_nil _).symm

theorem beginsWithMark_tokens (query : Query) :
    Text.BeginsWithMark opensToken
      (conditionTokens query.condition ++ query.sorts.flatMap sortToken) := by
  intro c rest begins
  rw [conditionTokens_eq] at begins
  cases rules : query.condition.spread with
  | cons rule more =>
      obtain ⟨d, tokens, written, opens⟩ := ruleTokens_eq_cons rule
      rw [rules, rulesTokens, written] at begins
      rwa [(List.cons.inj begins).1] at opens
  | nil =>
      rw [rules] at begins
      cases sorts : query.sorts with
      | nil =>
          rw [sorts] at begins
          cases begins
      | cons sort more =>
          obtain ⟨direction, tokens, written, -⟩ := sortToken_append sort (more.flatMap sortToken)
          rw [sorts, List.flatMap_cons, rulesTokens, written] at begins
          rw [← (List.cons.inj begins).1]
          rfl

/-- Of plain queries, the token text tells the collection, the rules and the sort fields. -/
theorem eq_of_tokenText {left right : Query} (leftPlain : left.IsPlain)
    (rightPlain : right.IsPlain) (same : left.tokenText = right.tokenText) :
    left.collection = right.collection ∧ left.condition.spread = right.condition.spread ∧
      left.sorts = right.sorts := by
  rw [tokenText, tokenText, List.append_assoc, List.append_assoc] at same
  obtain ⟨collection, tokens⟩ := Text.cut_inj opensToken leftPlain.collection
    rightPlain.collection (beginsWithMark_tokens left) (beginsWithMark_tokens right) same
  rw [conditionTokens_eq, conditionTokens_eq] at tokens
  have leftRules : ArePlain left.condition.spread := by
    rw [ArePlain, Condition.leavesOf_spread]
    exact leftPlain.leaves
  have rightRules : ArePlain right.condition.spread := by
    rw [ArePlain, Condition.leavesOf_spread]
    exact rightPlain.leaves
  obtain ⟨rules, sorts⟩ := rulesTokens_append_inj leftRules rightRules
    (endsRules_sorts leftPlain.sorts) (endsRules_sorts rightPlain.sorts) tokens
  exact ⟨String.ext collection, rules, sorts_of_flatMap leftPlain.sorts rightPlain.sorts sorts⟩

/-! ## Signatures -/

/-- The token text of a query is too long to be its signature. -/
def IsDigested (query : Query) : Prop :=
  signatureLimit < (String.ofList query.tokenText).toUTF8.toList.length

instance (query : Query) : Decidable query.IsDigested :=
  inferInstanceAs (Decidable (_ < _))

theorem signature_of_not_digested {query : Query} (short : ¬query.IsDigested) :
    query.signature = String.ofList query.tokenText :=
  if_neg short

/-- Queries whose signatures are no digests are told by them: the collection, the sort fields and
the leaves of the condition in their order, and the filters in the languages of both stores.  The
condition itself is not, as a disjunction at the root is written like a group.  Queries that differ
in pages and in the count of documents wanted have one signature. -/
theorem signature_unambiguous {left right : Query} (leftPlain : left.IsPlain)
    (rightPlain : right.IsPlain) (leftShort : ¬left.IsDigested) (rightShort : ¬right.IsDigested) :
    (left.signature = right.signature →
      left.collection = right.collection ∧ left.sorts = right.sorts ∧
      left.condition.leaves = right.condition.leaves ∧
      Filter.operators.compile left.condition = Filter.operators.compile right.condition ∧
      Filter.cursor.compile left.condition = Filter.cursor.compile right.condition) ∧
    (left.collection = right.collection → left.condition = right.condition →
      left.sorts = right.sorts → left.signature = right.signature) := by
  constructor
  · intro same
    rw [signature_of_not_digested leftShort, signature_of_not_digested rightShort] at same
    obtain ⟨collection, rules, sorts⟩ :=
      eq_of_tokenText leftPlain rightPlain (String.ofList_injective same)
    have leaves : left.condition.leaves = right.condition.leaves := by
      rw [← Condition.leavesOf_spread, rules, Condition.leavesOf_spread]
    exact ⟨collection, sorts, leaves, Condition.compile_eq_of_spread_eq rules _,
      Condition.compile_eq_of_spread_eq rules _⟩
  · intro collection condition sorts
    have texts : left.tokenText = right.tokenText := by
      rw [tokenText, tokenText, collection, condition, sorts]
    rw [signature, signature, texts]

/-- A disjunction at the root and the same disjunction in a group have one signature and one
filter, whatever marks the operands hold. -/
theorem disjunction_compiles_as_group :
    let leaves : List Rule := [
      .leaf ⟨"a", .eq, .string "1][b/asc"⟩, .leaf ⟨"b", .within, .array [.string "(or:", .null]⟩]
    let left : Query := { collection := "c", condition := ⟨.any, leaves⟩, sorts := [⟨"a", true⟩] }
    let right : Query := {
      collection := "c", condition := ⟨.all, [.group .any leaves]⟩, sorts := [⟨"a", true⟩]
      paging := some ⟨2, 10⟩ }
    left.signature = right.signature ∧
      left.condition.connective ≠ right.condition.connective ∧
      Filter.operators.compile left.condition = Filter.operators.compile right.condition ∧
      Filter.cursor.compile left.condition = Filter.cursor.compile right.condition := by
  intro leaves left right
  have same : left.signature = right.signature := by decide +kernel
  have leftPlain : left.IsPlain := by decide +kernel
  have rightPlain : right.IsPlain := by decide +kernel
  have told := (signature_unambiguous leftPlain rightPlain (by decide +kernel)
    (by decide +kernel)).1 same
  exact ⟨same, nofun, told.2.2.2⟩

/-- The second check of a digest tells nothing that the length and the first check do not. -/
theorem digest_eq_of_checksum_eq {left right : List UInt8} (level : left.length = right.length)
    (same : Crc32.checksum left = Crc32.checksum right) : digest left = digest right := by
  rw [digest, digest, same, level, Crc32.continued_eq_of_length_eq level same]

/-- A collection whose name ends like the tokens of rules has the signature of the collection
that those rules are asked of. -/
theorem signature_of_bracketed_name (collection : String) (rules : List Rule)
    (sorts : List SortField) :
    signature
        { collection := collection ++ String.ofList (rulesTokens rules), sorts := sorts } =
      signature { collection := collection, condition := ⟨.all, rules⟩, sorts := sorts } := by
  have texts :
      tokenText { collection := collection ++ String.ofList (rulesTokens rules), sorts := sorts } =
        tokenText { collection := collection, condition := ⟨.all, rules⟩, sorts := sorts } := by
    simp [tokenText, conditionTokens, Condition.always, rulesTokens]
  rw [signature, signature, texts]

/-- The signatures of some queries tell their token texts apart, and their names keep clear
of marks. -/
structure Unambiguous (queries : List Query) : Prop where
  plain : ∀ query ∈ queries, query.IsPlain
  /-- A digest is the signature of one token text only. -/
  digest : ∀ query ∈ queries, ∀ other ∈ queries, query.IsDigested →
    query.signature = other.signature → query.tokenText = other.tokenText

instance (queries : List Query) : Decidable (Unambiguous queries) :=
  decidable_of_iff ((∀ query ∈ queries, query.IsPlain) ∧
      ∀ query ∈ queries, ∀ other ∈ queries, query.IsDigested →
        query.signature = other.signature → query.tokenText = other.tokenText)
    ⟨fun ⟨plain, digest⟩ => ⟨plain, digest⟩, fun ⟨plain, digest⟩ => ⟨plain, digest⟩⟩

/-- Queries of one signature have one filter, in every dialect. -/
theorem Unambiguous.compile_eq {queries : List Query} (unambiguous : Unambiguous queries)
    {left right : Query} (leftMember : left ∈ queries) (rightMember : right ∈ queries)
    (same : left.signature = right.signature) {φ : Type} (dialect : Filter.Dialect φ) :
    dialect.compile left.condition = dialect.compile right.condition := by
  have texts : left.tokenText = right.tokenText := by
    by_cases leftDigested : left.IsDigested
    · exact unambiguous.digest left leftMember right rightMember leftDigested same
    · by_cases rightDigested : right.IsDigested
      · exact (unambiguous.digest right rightMember left leftMember rightDigested same.symm).symm
      · rw [signature_of_not_digested leftDigested,
          signature_of_not_digested rightDigested] at same
        exact String.ofList_injective same
  obtain ⟨-, rules, -⟩ := eq_of_tokenText (unambiguous.plain left leftMember)
    (unambiguous.plain right rightMember) texts
  exact Condition.compile_eq_of_spread_eq rules dialect

end Query

end Polystore
