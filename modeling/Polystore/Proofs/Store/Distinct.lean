import Polystore.Proofs.Cluster.Connection
import Polystore.Proofs.Cluster.Scan
import Polystore.Proofs.Filter.Operators
import Polystore.Proofs.Json.Apart
import Polystore.Proofs.Sorting
import Polystore.Proofs.Store.Uncached

/-!
# What distinct counts tell apart

A store counts the documents that it finds under a text for the value of a field.  The counts
account for every document that has the field, and two values share a text exactly if one is a
string that is written like the other.
-/

namespace Polystore

namespace Keyed

/-- A value stored under a name takes the place of the value stored there before. -/
theorem sum_insert {counts : Keyed Nat} (sorted : Sorted counts) (name : String)
    (count : Nat) :
    (insert name count counts).values.sum + (counts.get? name).getD 0 =
      counts.values.sum + count := by
  induction counts with
  | nil => exact Nat.add_comm count 0
  | cons entry rest ih =>
      obtain ⟨least, restSorted⟩ := (sorted_cons_iff entry rest).mp sorted
      have told := ih restSorted
      rw [insert, get?_cons]
      split
      · next before =>
        have absent : get? rest name = none := by
          cases found : get? rest name with
          | none => rfl
          | some other =>
              have member := (mem_iff_get?_eq_some restSorted name other).mpr found
              exact absurd (Std.lt_trans before (least _ member)) Std.lt_irrefl
        rw [if_neg (fun same => Std.lt_irrefl (same ▸ before)), absent]
        simp only [values, List.map_cons, List.sum_cons, Option.getD_none]
        omega
      · split
        · simp only [values, List.map_cons, List.sum_cons, Option.getD_some]
          omega
        · simp only [values, List.map_cons, List.sum_cons] at told ⊢
          omega

end Keyed

namespace ClusterStore

/-! ## Texts of values -/

/-- A value is a string. -/
def IsString (value : Json) : Prop :=
  ∃ text, value = .string text

theorem distinctKey_of_not_isString {value : Json} (other : ¬IsString value) :
    distinctKey value = value.render := by
  cases value with
  | string text => exact absurd ⟨text, rfl⟩ other
  | _ => rfl

/-- A string is written like a value of another kind. -/
def Spells (written value : Json) : Prop :=
  written = .string value.render ∧ ¬IsString value

/-- Two values share a text exactly if they are equal, or one is a string that is written like
the other. -/
theorem distinctKey_eq_iff (left right : Json) :
    distinctKey left = distinctKey right ↔
      left = right ∨ Spells left right ∨ Spells right left := by
  constructor
  · intro same
    by_cases leftText : IsString left
    · obtain ⟨text, rfl⟩ := leftText
      by_cases rightText : IsString right
      · obtain ⟨other, rfl⟩ := rightText
        exact Or.inl (congrArg Json.string same)
      · rw [distinctKey_of_not_isString rightText] at same
        exact Or.inr (Or.inl ⟨congrArg Json.string same, rightText⟩)
    · rw [distinctKey_of_not_isString leftText] at same
      by_cases rightText : IsString right
      · obtain ⟨other, rfl⟩ := rightText
        exact Or.inr (Or.inr ⟨congrArg Json.string same.symm, leftText⟩)
      · rw [distinctKey_of_not_isString rightText] at same
        exact Or.inl (Json.text_injective (String.ofList_injective same))
  · rintro (rfl | ⟨rfl, rightOther⟩ | ⟨rfl, leftOther⟩)
    · rfl
    · exact (distinctKey_of_not_isString rightOther).symm
    · exact distinctKey_of_not_isString leftOther

/-- The text that a document is counted under, if it has the field. -/
def keyOf? (field : String) (document : Json) : Option String :=
  (document.lookup? field).map distinctKey

/-! ## Counting -/

/-- Counts account for some keys. -/
structure Accounts (keys : List String) (counts : Keyed Nat) : Prop where
  sorted : counts.Sorted
  count : ∀ key, counts.get? key = if key ∈ keys then some (keys.count key) else none
  total : counts.values.sum = keys.length

theorem accounts_nil : Accounts [] [] where
  sorted := Keyed.sorted_nil
  count _ := rfl
  total := rfl

/-- One more key is accounted for. -/
theorem Accounts.countUnder {keys : List String} {counts : Keyed Nat}
    (accounts : Accounts keys counts) (key : String) :
    Accounts (keys ++ [key]) (countUnder counts key) where
  sorted := Keyed.sorted_insert accounts.sorted _ _
  count other := by
    have before : (counts.get? key).getD 0 = keys.count key := by
      rw [accounts.count]
      split
      · rfl
      · next absent => exact (List.count_eq_zero_of_not_mem absent).symm
    rw [ClusterStore.countUnder, Keyed.get?_insert, before, accounts.count, List.count_append]
    by_cases same : other = key
    · subst same
      rw [if_pos rfl, if_pos (List.mem_append_right _ List.mem_cons_self), List.count_singleton_self]
    · simp [same, Ne.symm same]
  total := by
    have told := Keyed.sum_insert accounts.sorted key ((counts.get? key).getD 0 + 1)
    rw [List.length_append, List.length_singleton, ← accounts.total, ClusterStore.countUnder]
    omega

theorem Accounts.foldl_countUnder {keys : List String} {counts : Keyed Nat}
    (accounts : Accounts keys counts) (more : List String) :
    Accounts (keys ++ more) (more.foldl ClusterStore.countUnder counts) := by
  induction more generalizing keys counts with
  | nil => rwa [List.append_nil]
  | cons key rest ih =>
      have told := ih (accounts.countUnder key)
      rwa [List.append_assoc] at told

/-- Counts that account for the same keys, in any order, are the same. -/
theorem Accounts.eq_of_perm {keys others : List String} {counts otherCounts : Keyed Nat}
    (accounts : Accounts keys counts) (otherAccounts : Accounts others otherCounts)
    (same : keys.Perm others) : counts = otherCounts := by
  apply Keyed.eq_of_get?_eq accounts.sorted otherAccounts.sorted
  intro key
  rw [accounts.count, otherAccounts.count, same.count_eq]
  simp only [same.mem_iff]

/-! ## The documents that are found -/

/-- What the counts of a field tell about some documents. -/
structure Tells (field : String) (documents : List Json) (counts : Keyed Nat) : Prop where
  /-- No text is told twice. -/
  sorted : counts.Sorted
  /-- A document that has the field is counted under the text of its value, together with the
  documents that share the text. -/
  counted : ∀ document ∈ documents, ∀ value, document.lookup? field = some value →
    counts.get? (distinctKey value) =
      some (documents.countP fun other => keyOf? field other = some (distinctKey value))
  /-- Nothing else is counted. -/
  told : ∀ key, counts.contains key = true →
    ∃ document ∈ documents, keyOf? field document = some key
  /-- Documents share a text only if they have one value, or one has a string that is written
  like the value of the other. -/
  apart : ∀ left ∈ documents, ∀ right ∈ documents, ∀ value other,
    left.lookup? field = some value → right.lookup? field = some other →
      (distinctKey value = distinctKey other ↔
        value = other ∨ Spells value other ∨ Spells other value)
  total : counts.values.sum = documents.countP fun document => (document.lookup? field).isSome

/-- Counts that account for the texts of documents tell about the documents. -/
theorem Accounts.tells {field : String} {documents : List Json} {counts : Keyed Nat}
    (accounts : Accounts (documents.filterMap (keyOf? field)) counts) :
    Tells field documents counts where
  sorted := accounts.sorted
  counted document member value found := by
    have listed : distinctKey value ∈ documents.filterMap (keyOf? field) :=
      List.mem_filterMap.mpr ⟨document, member, by rw [keyOf?, found]; rfl⟩
    rw [accounts.count, if_pos listed, List.count_eq_countP, List.countP_filterMap]
    congr 2
    funext other
    cases keyOf? field other with
    | none => rfl
    | some key =>
        simp only [Option.map_some, Option.getD_some, Option.some.injEq, beq_eq_decide]
  told key held := by
    rw [Keyed.contains, accounts.count] at held
    split at held
    · next listed => exact List.mem_filterMap.mp listed
    · contradiction
  apart _ _ _ _ value other _ _ := distinctKey_eq_iff value other
  total := by
    rw [accounts.total, List.length_filterMap_eq_countP]
    congr 1
    funext document
    exact Option.isSome_map

/-- The filter that a store has for a query. -/
def filterOf (query : Query) (store : ClusterStore) : Except Error Filter.Predicate :=
  (store.cache.getOrCompile query.signature fun _ => compile query.condition).1

/-- A filter that is compiled for a condition means the condition. -/
theorem holds_of_compile {condition : Condition} {predicate : Filter.Predicate}
    (compiled : compile condition = .ok predicate) (document : Json) :
    predicate.holds document = condition.holds document := by
  obtain ⟨written, wrote, read⟩ := (compile_ok_iff condition predicate).mp compiled
  obtain ⟨same, found, sameWrote, sameRead, means⟩ :=
    Filter.exists_compileRule condition.toRule (Filter.expressible_of_compileRule wrote read)
  rw [wrote] at sameWrote
  cases sameWrote
  rw [read] at sameRead
  cases sameRead
  exact means document

/-- A store counts what it finds. -/
theorem countDistinct_eq (query : Query) (field : String) (store : ClusterStore) :
    (DocumentStore.countDistinct query field store).1 =
      (found query (store.filterOf query) store.cluster).map fun documents =>
        (documents.filterMap (keyOf? field)).foldl countUnder [] := by
  have same : (DocumentStore.countDistinct query field store).1 =
      (store.matching query).1.map fun documents =>
        (documents.filterMap (keyOf? field)).foldl countUnder [] := rfl
  rw [same, matching_eq]
  rfl

theorem accounts_of_found (field : String) (documents : List Json) :
    Accounts (documents.filterMap (keyOf? field))
      ((documents.filterMap (keyOf? field)).foldl countUnder []) :=
  accounts_nil.foldl_countUnder _

/-- The counts do not depend on the order in which documents are found. -/
theorem foldl_countUnder_sortDocuments (sorts : List SortField) (field : String)
    (documents : List Json) :
    ((sortDocuments sorts documents).filterMap (keyOf? field)).foldl countUnder [] =
      (documents.filterMap (keyOf? field)).foldl countUnder [] :=
  (accounts_of_found field _).eq_of_perm (accounts_of_found field _)
    ((sortDocuments_perm sorts documents).filterMap (keyOf? field))

/-- With a filter, a store counts what every segment has that passes it. -/
theorem found_map_countUnder (query : Query) (field : String) (predicate : Filter.Predicate)
    (cluster : Cluster) :
    ((found query (.ok predicate) cluster).map fun documents =>
      (documents.filterMap (keyOf? field)).foldl countUnder []) =
      (cluster.scan query.collection predicate.holds).map fun documents =>
        (documents.filterMap (keyOf? field)).foldl countUnder [] := by
  rw [found]
  cases cluster.scan query.collection predicate.holds with
  | error cause => rfl
  | ok documents => exact congrArg Except.ok (foldl_countUnder_sortDocuments _ field documents)

/-- The order of a query does not contradict itself on the documents that the query finds.  These
are sorted before they are counted, and under other orders the sort may panic. -/
def Sorts (query : Query) (store : ClusterStore) : Prop :=
  store.cluster.AllOnline → ∀ predicate, store.filterOf query = .ok predicate →
    Sortable query.order (store.cluster.passing query.collection predicate.holds)

/-- The distinct counts of a query account for every document that every segment has and that
passes the filter of the query: each is counted once if it has the field, apart from the
documents of other values, unless a string is written like the other value.  They depend on the
collection and the filter alone, as long as the orders of the queries do not contradict
themselves. -/
theorem distinct_counts_account_for_found (query : Query) (field : String)
    (store : ClusterStore) (_ : store.Sorts query) :
    let counted := (DocumentStore.countDistinct query field store).1
    (match store.filterOf query with
      | .error cause => counted = .error cause
      | .ok predicate =>
          (store.cluster.AllOnline → ∃ counts, counted = .ok counts ∧
            Tells field (store.cluster.passing query.collection predicate.holds) counts) ∧
          (¬store.cluster.AllOnline → ∃ address, counted = .error (.unreachable address)) ∧
          (store.cache.Faithful query.signature (compile query.condition) →
            ∀ document, predicate.holds document = query.condition.holds document)) ∧
    ∀ other : Query, other.collection = query.collection →
      store.filterOf other = store.filterOf query → store.Sorts other →
        (DocumentStore.countDistinct other field store).1 = counted := by
  intro counted
  have here : counted = _ := countDistinct_eq query field store
  constructor
  · cases filter : store.filterOf query with
    | error cause =>
        rw [filter] at here
        exact here
    | ok predicate =>
        rw [filter, found_map_countUnder] at here
        refine ⟨?_, ?_, ?_⟩
        · intro online
          rw [Cluster.scan_of_allOnline online] at here
          exact ⟨_, here, (accounts_of_found field _).tells⟩
        · intro offline
          obtain ⟨address, failed⟩ :=
            Cluster.scan_of_not_allOnline offline query.collection predicate.holds
          rw [failed] at here
          exact ⟨address, here⟩
        · intro faithful
          rw [filterOf, Filter.Cache.getOrCompile_of_faithful faithful] at filter
          exact holds_of_compile filter
  · intro other collection filter _
    rw [here, countDistinct_eq, filter]
    cases store.filterOf query with
    | error cause => rfl
    | ok predicate => rw [found_map_countUnder, found_map_countUnder, collection]

/-- Two documents of a store of two nodes, counted by a field that one of them has. -/
theorem counted_over_two_nodes :
    ∃ cluster, Cluster.connect "left,right/1" (fun _ => false) = .ok cluster ∧
      let steps : List ClientStep := [
        .put "books" "a" (.object [("n", .number (.integer 1))]),
        .put "books" "b" (.object [])]
      let query : Query := { collection := "books" }
      let store := (Client.runAll steps ⟨ofCluster cluster 256, fun _ => .start⟩).2.store
      ∃ counts, (DocumentStore.countDistinct query "n" store).1 = .ok counts ∧
        Tells "n" (store.cluster.passing "books" Filter.Predicate.always.holds) counts := by
  refine ⟨_, rfl, ?_⟩
  intro steps query store
  have online : store.cluster.AllOnline := by
    rw [Cluster.AllOnline]
    decide +kernel
  have filter : store.filterOf query = .ok .always := rfl
  have sorts : store.Sorts query := by
    intro _ predicate same
    cases filter.symm.trans same
    exact sortable_of_integral _ (by decide +kernel)
  obtain ⟨accounted, -⟩ := distinct_counts_account_for_found query "n" store sorts
  rw [filter] at accounted
  exact accounted.1 online

/-- The number 1 and the string that is written like it are counted as one value. -/
theorem number_counted_with_string :
    ∃ cluster, Cluster.connect "db" (fun _ => false) = .ok cluster ∧
      let steps : List ClientStep := [
        .put "c" "x" (.object [("a", .number (.integer 1))]),
        .put "c" "y" (.object [("a", .string "1")])]
      let store := (Client.runAll steps ⟨ofCluster cluster 256, fun _ => .start⟩).2.store
      let shown (id : String) :=
        ((DocumentStore.get "c" id store).toOption.bind (·.lookup? "a")).map Json.render
      (DocumentStore.countDistinct { collection := "c" } "a" store).1.toOption = some [("1", 2)] ∧
        shown "x" = some "1" ∧ shown "y" = some "\"1\"" := by
  refine ⟨_, rfl, ?_⟩
  decide +kernel

end ClusterStore

end Polystore
