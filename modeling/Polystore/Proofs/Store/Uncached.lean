import Polystore.Proofs.Filter.Cache
import Polystore.Proofs.Query.Signature
import Polystore.Proofs.Store.Client
import Polystore.Store.Cluster
import Polystore.Store.Cursor

/-!
# Stores that keep no filters

A store without a cache compiles the condition of every query that it runs.  A store
with a cache answers a client like the store without it, as long as the signatures of
the client's queries are unambiguous: what the cache holds under the signature of a
query is then what compiling its condition gives.

Names that hold the marks of token texts make signatures ambiguous.  The filter of one
query is then used for another.
-/

namespace Polystore

/-! ## Stores that answer alike -/

/-- Two calls have one result and leave related states. -/
def Agree {α σ τ : Type} (Related : σ → τ → Prop) (left : α × σ) (right : α × τ) : Prop :=
  left.1 = right.1 ∧ Related left.2 right.2

/-- Related stores answer the calls of a client alike, some queries included, and stay
related. -/
structure AnswerAlike {σ τ : Type} [DocumentStore σ] [DocumentStore τ] (queries : List Query)
    (Related : σ → τ → Prop) : Prop where
  put : ∀ {left right}, Related left right → ∀ (collection id : String) (value : Json),
    Agree Related (DocumentStore.put collection id value left)
      (DocumentStore.put collection id value right)
  get : ∀ {left right}, Related left right → ∀ collection id : String,
    DocumentStore.get collection id left = DocumentStore.get collection id right
  delete : ∀ {left right}, Related left right → ∀ collection id : String,
    Agree Related (DocumentStore.delete collection id left)
      (DocumentStore.delete collection id right)
  createCollection : ∀ {left right}, Related left right → ∀ collection : String,
    Agree Related (DocumentStore.createCollection collection left)
      (DocumentStore.createCollection collection right)
  dropCollection : ∀ {left right}, Related left right → ∀ collection : String,
    Agree Related (DocumentStore.dropCollection collection left)
      (DocumentStore.dropCollection collection right)
  commit : ∀ {left right}, Related left right → ∀ operations : List Operation,
    Agree Related (DocumentStore.commit operations left) (DocumentStore.commit operations right)
  query : ∀ {left right}, Related left right → ∀ query ∈ queries,
    Agree Related (DocumentStore.query query left) (DocumentStore.query query right)
  countDistinct : ∀ {left right}, Related left right → ∀ query ∈ queries, ∀ field : String,
    Agree Related (DocumentStore.countDistinct query field left)
      (DocumentStore.countDistinct query field right)

namespace Client

variable {σ τ : Type} {Related : σ → τ → Prop}

/-- Two clients of related stores that staged the same. -/
structure Paired (Related : σ → τ → Prop) (left : Client σ) (right : Client τ) : Prop where
  stores : Related left.store right.store
  transactions : left.transactions = right.transactions

variable {left : Client σ} {right : Client τ}

theorem Paired.onStore (paired : Paired Related left right) {α : Type} (reply : α → Reply)
    {leftOutcome : α × σ} {rightOutcome : α × τ} (agree : Agree Related leftOutcome rightOutcome) :
    Agree (Paired Related) (left.onStore reply leftOutcome) (right.onStore reply rightOutcome) :=
  ⟨congrArg reply agree.1, agree.2, paired.transactions⟩

theorem Paired.keep (paired : Paired Related left right) (number : Nat)
    (transaction : Transaction) :
    Paired Related (left.keep number transaction) (right.keep number transaction) where
  stores := paired.stores
  transactions := by rw [Client.keep, Client.keep, paired.transactions]

theorem Paired.onTransaction (paired : Paired Related left right) (number : Nat)
    (action : Transaction → Outcome Transaction Unit) :
    Agree (Paired Related) (left.onTransaction number action)
      (right.onTransaction number action) := by
  rw [Client.onTransaction, Client.onTransaction, paired.transactions]
  exact ⟨rfl, paired.keep number _⟩

variable [DocumentStore σ] [DocumentStore τ]

/-- A transaction that two stores carry out alike fares alike. -/
theorem Paired.commit (paired : Paired Related left right) (number : Nat)
    (agree : ∀ operations : List Operation, Agree Related
      (DocumentStore.commit operations left.store) (DocumentStore.commit operations right.store)) :
    Agree (Paired Related) (left.run (.commit number)) (right.run (.commit number)) := by
  have same := paired.transactions
  obtain ⟨told, kept, after⟩ := (left.transactions number).commit_of_sinks DocumentStore.commit
    DocumentStore.commit paired.stores (agree (left.transactions number).operations)
  rw [Client.run, Client.run, ← same]
  dsimp only
  constructor
  · exact congrArg Reply.done told
  · rw [← kept]
    have between : Paired Related
        ⟨((left.transactions number).commit DocumentStore.commit left.store).2.2,
          left.transactions⟩
        ⟨((left.transactions number).commit DocumentStore.commit right.store).2.2,
          left.transactions⟩ := ⟨after, rfl⟩
    exact between.keep number _

/-- Clients of stores that answer alike are told the same by a step. -/
theorem Paired.run (paired : Paired Related left right) {queries : List Query}
    (alike : AnswerAlike queries Related) {step : ClientStep}
    (asked : ∀ query ∈ step.query?, query ∈ queries) :
    Agree (Paired Related) (left.run step) (right.run step) := by
  have stores := paired.stores
  cases step with
  | put collection id value => exact paired.onStore .done (alike.put stores collection id value)
  | get collection id => exact ⟨congrArg Reply.document (alike.get stores collection id), paired⟩
  | delete collection id => exact paired.onStore .done (alike.delete stores collection id)
  | createCollection collection =>
      exact paired.onStore .done (alike.createCollection stores collection)
  | dropCollection collection =>
      exact paired.onStore .done (alike.dropCollection stores collection)
  | query query => exact paired.onStore .answer (alike.query stores query (asked query rfl))
  | countDistinct query field =>
      exact paired.onStore .counts (alike.countDistinct stores query (asked query rfl) field)
  | start number => exact ⟨rfl, paired.keep number .start⟩
  | stagePut number collection id value => exact paired.onTransaction number _
  | stageDelete number collection id => exact paired.onTransaction number _
  | stageDrop number collection => exact paired.onTransaction number _
  | commit number => exact paired.commit number fun operations => alike.commit stores operations
  | rollback number =>
      rw [Client.run, Client.run, paired.transactions]
      exact ⟨rfl, paired.keep number _⟩

/-- Clients of stores that answer alike are told the same throughout a run. -/
theorem Paired.runAll (paired : Paired Related left right) {queries : List Query}
    (alike : AnswerAlike queries Related) {steps : List ClientStep}
    (asked : ∀ step ∈ steps, ∀ query ∈ step.query?, query ∈ queries) :
    (Client.runAll steps left).1 = (Client.runAll steps right).1 := by
  induction steps generalizing left right with
  | nil => rfl
  | cons step rest ih =>
      rw [List.forall_mem_cons] at asked
      obtain ⟨reply, after⟩ := paired.run alike asked.1
      rw [Client.runAll_cons, Client.runAll_cons, reply, ih after asked.2]

end Client

/-! ## Caches that are faithful to a run -/

/-- What a cache holds under the signature of a query, if anything, is what compiling its
condition gives, for all queries of a run. -/
def Filter.Cache.Serves {φ : Type} (cache : Filter.Cache φ) (queries : List Query)
    (compile : Condition → Except Error φ) : Prop :=
  ∀ query ∈ queries, cache.Faithful query.signature (compile query.condition)

/-- A cache that serves a run goes on serving it, and gives what compiling gives. -/
theorem Filter.Cache.Serves.getOrCompile {φ : Type} {cache : Filter.Cache φ}
    {queries : List Query} {compile : Condition → Except Error φ}
    (serves : cache.Serves queries compile)
    (tells : ∀ query ∈ queries, ∀ other ∈ queries, query.signature = other.signature →
      compile query.condition = compile other.condition)
    {query : Query} (member : query ∈ queries) :
    (cache.getOrCompile query.signature fun _ => compile query.condition).1 =
        compile query.condition ∧
      (cache.getOrCompile query.signature fun _ => compile query.condition).2.Serves queries
        compile := by
  constructor
  · exact getOrCompile_of_faithful (serves query member)
  · intro other otherMember
    exact (serves other otherMember).getOrCompile (tells query member other otherMember)

/-! ## Clustered stores -/

namespace ClusterStore

/-- A clustered store that keeps no filters. -/
structure Uncached where
  cluster : Cluster

/-- What a query finds in a cluster once its condition is compiled. -/
def found (query : Query) (compiled : Except Error Filter.Predicate) (cluster : Cluster) :
    Except Error (List Json) :=
  match compiled with
  | .error cause => .error cause
  | .ok predicate =>
      match cluster.scan query.collection predicate.holds with
      | .error cause => .error cause
      | .ok documents => .ok (sortDocuments query.order documents)

theorem matching_eq (query : Query) (store : ClusterStore) :
    store.matching query =
      let looked := store.cache.getOrCompile query.signature fun _ => compile query.condition
      (found query looked.1 store.cluster, { store with cache := looked.2 }) := by
  rw [matching]
  dsimp only
  rcases store.cache.getOrCompile query.signature fun _ => compile query.condition with
    ⟨_ | predicate, cache⟩
  · rfl
  · rw [found]
    dsimp only
    cases store.cluster.scan query.collection predicate.holds with
    | error cause => rfl
    | ok documents => rfl

namespace Uncached

/-- Act on the cluster of a store. -/
def onCluster {α : Type} (action : Cluster → Outcome Cluster α) (store : Uncached) :
    Outcome Uncached α :=
  let (result, cluster) := action store.cluster
  (result, ⟨cluster⟩)

/-- The documents that a query matches, by a filter that is compiled for it. -/
def matching (query : Query) (store : Uncached) : Except Error (List Json) :=
  found query (compile query.condition) store.cluster

instance : DocumentStore Uncached where
  put collection id value := onCluster fun cluster => cluster.put collection id value
  get collection id store := store.cluster.get collection id
  delete collection id := onCluster fun cluster => cluster.delete collection id
  query query store := (.ofExcept ((store.matching query).map (answer query)), store)
  commit operations := onCluster (Cluster.commit operations)
  createCollection collection := onCluster fun cluster => cluster.createCollection collection
  dropCollection collection := onCluster fun cluster => cluster.dropCollection collection
  countDistinct query field store :=
    ((store.matching query).map fun documents =>
      (documents.filterMap fun document =>
        (document.lookup? field).map distinctKey).foldl countUnder [], store)

end Uncached

/-- A store and a store that keeps no filters have one cluster, and the filters held are
those that compiling gives. -/
structure Mirrors (queries : List Query) (left : ClusterStore) (right : Uncached) : Prop where
  cluster : left.cluster = right.cluster
  serves : left.cache.Serves queries compile

theorem Mirrors.onCluster {queries : List Query} {left : ClusterStore} {right : Uncached}
    (mirrors : Mirrors queries left right) {α : Type} (action : Cluster → Outcome Cluster α) :
    Agree (Mirrors queries) (left.onCluster action) (right.onCluster action) := by
  rw [ClusterStore.onCluster, Uncached.onCluster, ← mirrors.cluster]
  exact ⟨rfl, rfl, mirrors.serves⟩

theorem compile_eq_of_unambiguous {queries : List Query}
    (unambiguous : Query.Unambiguous queries) : ∀ query ∈ queries, ∀ other ∈ queries,
      query.signature = other.signature → compile query.condition = compile other.condition := by
  intro query member other otherMember same
  rw [compile, compile, unambiguous.compile_eq member otherMember same]

theorem Mirrors.matching {queries : List Query} (unambiguous : Query.Unambiguous queries)
    {left : ClusterStore} {right : Uncached} (mirrors : Mirrors queries left right) {query : Query}
    (member : query ∈ queries) :
    (left.matching query).1 = right.matching query ∧
      Mirrors queries (left.matching query).2 right := by
  obtain ⟨same, serves⟩ :=
    mirrors.serves.getOrCompile (compile_eq_of_unambiguous unambiguous) member
  rw [matching_eq, Uncached.matching, ← mirrors.cluster]
  dsimp only
  rw [same]
  exact ⟨rfl, mirrors.cluster, serves⟩

/-- A query is served by the filter of the query that used its signature before it. -/
theorem matching_of_shared_signature {asked other : Query}
    (shared : other.signature = asked.signature) {store : ClusterStore}
    (room : 0 < store.cache.capacity) {predicate : Filter.Predicate}
    (given : (store.cache.getOrCompile asked.signature fun _ => compile asked.condition).1 =
      .ok predicate) :
    ((store.matching asked).2.matching other).1 = found other (.ok predicate) store.cluster := by
  rw [matching_eq, matching_eq, shared]
  dsimp only
  rw [Filter.Cache.getOrCompile_again room given]

/-- A clustered store answers like the one that keeps no filters. -/
theorem answerAlike {queries : List Query} (unambiguous : Query.Unambiguous queries) :
    AnswerAlike queries (Mirrors queries) where
  put mirrors _ _ _ := mirrors.onCluster _
  get mirrors collection id := congrArg (Cluster.get · collection id) mirrors.cluster
  delete mirrors _ _ := mirrors.onCluster _
  createCollection mirrors _ := mirrors.onCluster _
  dropCollection mirrors _ := mirrors.onCluster _
  commit mirrors _ := mirrors.onCluster _
  query mirrors query member := by
    obtain ⟨found, after⟩ := mirrors.matching unambiguous member
    exact ⟨congrArg (fun found : Except Error (List Json) =>
      Answer.ofExcept (found.map (answer query))) found, after⟩
  countDistinct mirrors query member field := by
    obtain ⟨found, after⟩ := mirrors.matching unambiguous member
    constructor
    · exact congrArg (Except.map fun documents => (documents.filterMap fun document =>
        (document.lookup? field).map distinctKey).foldl countUnder []) found
    · exact after

end ClusterStore

/-! ## Cursor stores -/

namespace CursorStore

/-- A cursor store that keeps no filters. -/
structure Uncached where
  cluster : Cluster
  memo : PageMemo Marker := {}

namespace Uncached

/-- Act on the cluster of a store. -/
def onCluster {α : Type} (action : Cluster → Outcome Cluster α) (store : Uncached) :
    Outcome Uncached α :=
  let (result, cluster) := action store.cluster
  (result, { store with cluster := cluster })

/-- Run a query, by a filter that is compiled for it. -/
def query (query : Query) (store : Uncached) : Answer × Uncached :=
  match Filter.cursor.compile query.condition with
  | .error cause => (.failed cause, store)
  | .ok filter =>
      let (answer, after) := runWith query filter ⟨store.cluster, .ofCapacity 0, store.memo⟩
      (.ofExcept answer, ⟨after.cluster, after.memo⟩)

instance : DocumentStore Uncached where
  put collection id value := onCluster fun cluster => cluster.put collection id value
  get collection id store := store.cluster.get collection id
  delete collection id := onCluster fun cluster => cluster.delete collection id
  query := query
  commit operations := onCluster (Cluster.commit operations)
  createCollection collection := onCluster fun cluster => cluster.createCollection collection
  dropCollection _ store := (.error (.notOffered "del_collection on a cursor store"), store)

end Uncached

theorem servePage_congr (query : Query) (filter : Filter.CursorFilter) (paging : Paging)
    (after : Option Marker) (cluster : Cluster) (memo : PageMemo Marker)
    (cache other : Filter.Cache Filter.CursorFilter) :
    servePage query filter paging after ⟨cluster, cache, memo⟩ =
      ((servePage query filter paging after ⟨cluster, other, memo⟩).1,
        { (servePage query filter paging after ⟨cluster, other, memo⟩).2 with
            cache := cache }) := by
  rw [servePage, servePage]
  dsimp only
  cases readAfter cluster query filter after with
  | error cause => rfl
  | ok found => rfl

/-- A query that has its filter neither reads the cache nor changes it. -/
theorem runWith_congr (query : Query) (filter : Filter.CursorFilter) (cluster : Cluster)
    (memo : PageMemo Marker) (cache other : Filter.Cache Filter.CursorFilter) :
    runWith query filter ⟨cluster, cache, memo⟩ =
      ((runWith query filter ⟨cluster, other, memo⟩).1,
        { (runWith query filter ⟨cluster, other, memo⟩).2 with cache := cache }) := by
  rw [runWith, runWith]
  split
  · rfl
  · split
    · next paging _ =>
      rw [runPage, runPage]
      dsimp only
      rcases memo.locate query.signature paging (fetch query filter) cluster with
        ⟨_ | (_ | _ | marker), memo, source⟩
      · rfl
      · exact servePage_congr query filter paging none cluster memo cache other
      · exact servePage_congr query filter paging (some _) cluster memo cache other
      · rfl
    · rfl

/-- A store and a store that keeps no filters have one cluster and remember the same pages,
and the filters held are those that compiling gives. -/
structure Mirrors (queries : List Query) (left : CursorStore) (right : Uncached) : Prop where
  cluster : left.cluster = right.cluster
  memo : left.memo = right.memo
  serves : left.cache.Serves queries Filter.cursor.compile

variable {queries : List Query} {left : CursorStore} {right : Uncached}

theorem Mirrors.onCluster (mirrors : Mirrors queries left right) {α : Type}
    (action : Cluster → Outcome Cluster α) :
    Agree (Mirrors queries) (left.onCluster action) (right.onCluster action) := by
  rw [CursorStore.onCluster, Uncached.onCluster, ← mirrors.cluster]
  exact ⟨rfl, rfl, mirrors.memo, mirrors.serves⟩

theorem Mirrors.query (unambiguous : Query.Unambiguous queries)
    (mirrors : Mirrors queries left right) {query : Query} (member : query ∈ queries) :
    Agree (Mirrors queries) (left.query query) (right.query query) := by
  obtain ⟨same, serves⟩ := mirrors.serves.getOrCompile
    (fun query member other otherMember alike =>
      unambiguous.compile_eq member otherMember alike Filter.cursor) member
  obtain ⟨cluster, cache, memo⟩ := left
  obtain ⟨rightCluster, rightMemo⟩ := right
  obtain ⟨rfl, rfl, -⟩ := mirrors
  rw [CursorStore.query, Uncached.query]
  revert same serves
  dsimp only
  rcases cache.getOrCompile query.signature fun _ => Filter.cursor.compile query.condition with
    ⟨compiled, looked⟩
  rintro (rfl : compiled = _) serves
  cases Filter.cursor.compile query.condition with
  | error cause => exact ⟨rfl, rfl, rfl, serves⟩
  | ok filter =>
      dsimp only
      rw [runWith_congr query filter cluster memo _ (.ofCapacity 0)]
      exact ⟨rfl, rfl, rfl, serves⟩

/-- A cursor store answers like the one that keeps no filters. -/
theorem answerAlike (unambiguous : Query.Unambiguous queries) :
    AnswerAlike queries (Mirrors queries) where
  put mirrors _ _ _ := mirrors.onCluster _
  get mirrors collection id := congrArg (Cluster.get · collection id) mirrors.cluster
  delete mirrors _ _ := mirrors.onCluster _
  createCollection mirrors _ := mirrors.onCluster _
  dropCollection mirrors _ := ⟨rfl, mirrors⟩
  commit mirrors _ := mirrors.onCluster _
  query mirrors _ member := mirrors.query unambiguous member
  countDistinct mirrors _ _ _ := ⟨rfl, mirrors⟩

end CursorStore

/-! ## Runs of a client -/

/-- How many documents a reply to a query reports. -/
def Reply.total : Reply → Nat
  | .answer told => told.total
  | _ => 0

namespace Client

/-- The queries that a client runs in some steps. -/
def queriesOf (steps : List ClientStep) : List Query :=
  steps.filterMap ClientStep.query?

theorem mem_queriesOf {steps : List ClientStep} :
    ∀ step ∈ steps, ∀ query ∈ step.query?, query ∈ queriesOf steps :=
  fun step member _ asked => List.mem_filterMap.mpr ⟨step, member, asked⟩

/-- While signatures are unambiguous, no client can tell a clustered store or a cursor
store from one that compiles the condition of every query afresh. -/
theorem replies_eq_uncached (cluster : Cluster) (capacity : Nat) {steps : List ClientStep}
    (unambiguous : Query.Unambiguous (queriesOf steps)) :
    (runAll steps ⟨ClusterStore.ofCluster cluster capacity, fun _ => .start⟩).1 =
        (runAll steps ⟨(⟨cluster⟩ : ClusterStore.Uncached), fun _ => .start⟩).1 ∧
      (runAll steps ⟨CursorStore.ofCluster cluster capacity, fun _ => .start⟩).1 =
        (runAll steps ⟨({ cluster := cluster } : CursorStore.Uncached), fun _ => .start⟩).1 := by
  have empty {φ : Type} (compile : Condition → Except Error φ) :
      (Filter.Cache.ofCapacity capacity).Serves (queriesOf steps) compile :=
    fun _ _ => Filter.Cache.faithful_ofCapacity _ _ _
  constructor
  · have paired : Paired (ClusterStore.Mirrors (queriesOf steps))
        ⟨ClusterStore.ofCluster cluster capacity, fun _ => .start⟩ ⟨⟨cluster⟩, fun _ => .start⟩ :=
      ⟨⟨rfl, empty _⟩, rfl⟩
    exact paired.runAll (ClusterStore.answerAlike unambiguous) mem_queriesOf
  · have paired : Paired (CursorStore.Mirrors (queriesOf steps))
        ⟨CursorStore.ofCluster cluster capacity, fun _ => .start⟩
        ⟨{ cluster := cluster }, fun _ => .start⟩ :=
      ⟨⟨rfl, rfl, empty _⟩, rfl⟩
    exact paired.runAll (CursorStore.answerAlike unambiguous) mem_queriesOf

/-- Queries that share filters, lose them and fail to compile are told as if no filter were
kept. -/
theorem replies_while_filters_are_reused :
    let recent : Condition := ⟨.all, [.leaf ⟨"year", .gt, .number (.integer 3)⟩]⟩
    let listed : Condition := ⟨.any, [.leaf ⟨"lent", .eq, .bool true⟩, recent.toRule]⟩
    let steps : List ClientStep := [
      .put "books" "a" (.object [("year", .number (.integer 5))]),
      .query { collection := "books", condition := recent },
      .start 0, .stagePut 0 "books" "b" (.object [("year", .number (.integer 9))]), .commit 0,
      .query { collection := "books", condition := recent },
      .query { collection := "books", condition := listed, sorts := [⟨"year", false⟩] },
      .query { collection := "books", condition := ⟨.all, [.leaf ⟨"year", .within, .null⟩]⟩ },
      .delete "books" "a",
      .query { collection := "books", condition := recent }]
    let cluster : Cluster := { segments := ["east", "west"] }
    (runAll steps ⟨ClusterStore.ofCluster cluster 1, fun _ => .start⟩).1 =
        (runAll steps ⟨(⟨cluster⟩ : ClusterStore.Uncached), fun _ => .start⟩).1 ∧
      (runAll steps ⟨CursorStore.ofCluster cluster 1, fun _ => .start⟩).1 =
        (runAll steps ⟨({ cluster := cluster } : CursorStore.Uncached), fun _ => .start⟩).1 := by
  intro recent listed steps cluster
  exact replies_eq_uncached cluster 1 (by decide +kernel)

/-! ## Signatures that are shared -/

/-- A collection is asked for all its documents, and one is left out because its name reads
like a condition that another collection was asked for. -/
theorem replies_ne_uncached_of_bracketed_name :
    let steps : List ClientStep := [
      .put "c[a/=/true]" "x" (.object [("a", .bool false)]),
      .query { collection := "c", condition := ⟨.all, [.leaf ⟨"a", .eq, .bool true⟩]⟩ },
      .query { collection := "c[a/=/true]" }]
    let cluster : Cluster := { segments := ["db"] }
    (runAll steps ⟨ClusterStore.ofCluster cluster 256, fun _ => .start⟩).1 ≠
        (runAll steps ⟨(⟨cluster⟩ : ClusterStore.Uncached), fun _ => .start⟩).1 ∧
      (runAll steps ⟨CursorStore.ofCluster cluster 256, fun _ => .start⟩).1 ≠
        (runAll steps ⟨({ cluster := cluster } : CursorStore.Uncached), fun _ => .start⟩).1 := by
  intro steps cluster
  constructor
  · intro same
    have totals := congrArg (List.map Reply.total) same
    revert totals
    decide +kernel
  · intro same
    have totals := congrArg (List.map Reply.total) same
    revert totals
    decide +kernel

end Client

end Polystore
