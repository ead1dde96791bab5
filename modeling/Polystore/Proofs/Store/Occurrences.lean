import Polystore.Proofs.Cluster.Connection
import Polystore.Proofs.Cluster.Homes
import Polystore.Proofs.Store.Filed
import Polystore.Proofs.Store.Uncached

/-!
# How often a query finds a document

A clustered store reads the node of every segment and merges what the nodes hold.  A document
lies on one node, so it is found as often as that node is the node of a segment: once, unless a
connection string names its address again.
-/

namespace Polystore.ClusterStore

/-! ## Runs -/

/-- What a run keeps: documents lie at home, what is staged tells its ids, and the filter that
is held for a query is the one that its condition gives. -/
structure Orderly (segments : List String) (query : Query) (client : Client ClusterStore) :
    Prop where
  homed : client.store.cluster.Homed segments
  stages : ∀ number, (client.transactions number).StagesOnly Operation.IsNamed
  faithful : client.store.cache.Faithful query.signature (compile query.condition)

variable {segments : List String} {query : Query} {client : Client ClusterStore}

/-- A cluster that was just connected is empty. -/
theorem homed_of_connect {raw : String} {hasFile : String → Bool} {cluster : Cluster}
    (connected : Cluster.connect raw hasFile = .ok cluster) :
    cluster.Homed cluster.segments := by
  rw [Cluster.connect] at connected
  cases made : Pool.init raw (Cluster.connector hasFile) with
  | error cause =>
      rw [made] at connected
      contradiction
  | ok pool =>
      rw [made] at connected
      cases connected
      constructor
      · rfl
      · rw [Cluster.ofPool, ne_eq, List.map_eq_nil_iff]
        exact pool.nonempty
      · exact Cluster.allOnline_ofPool pool
      · intro name
        constructor
        · exact fun _ => Keyed.sorted_nil
        · intro collection id stored found
          contradiction

theorem Orderly.keep (orderly : Orderly segments query client) (number : Nat)
    {transaction : Transaction} (more : transaction.StagesOnly Operation.IsNamed) :
    Orderly segments query (client.keep number transaction) where
  homed := orderly.homed
  stages := Client.stagesOnly_keep orderly.stages number more
  faithful := orderly.faithful

/-- A query may put its filter into the cache, unless the filter is another one under the
signature. -/
theorem Orderly.matching (orderly : Orderly segments query client) {asked : Query}
    (apart : asked.signature = query.signature →
      compile asked.condition = compile query.condition) :
    Orderly segments query { client with store := (client.store.matching asked).2 } where
  homed := by
    rw [matching_eq]
    exact orderly.homed
  stages := orderly.stages
  faithful := by
    rw [matching_eq]
    exact orderly.faithful.getOrCompile apart

theorem Orderly.commit (orderly : Orderly segments query client) (number : Nat) :
    Orderly segments query (client.run (.commit number)).2 := by
  have staged := orderly.stages number
  have after : Orderly segments query { client with
      store := ((client.transactions number).commit DocumentStore.commit client.store).2.2 } := by
    rcases (client.transactions number).commit_store DocumentStore.commit client.store with
      same | committed
    · rw [same]
      exact orderly
    · rw [committed]
      exact ⟨orderly.homed.commit staged, orderly.stages, orderly.faithful⟩
  exact after.keep number (staged.commit DocumentStore.commit client.store)

/-- Every step leaves the store orderly, unless it is a query of the same signature with
another filter. -/
theorem Orderly.run (orderly : Orderly segments query client) {step : ClientStep}
    (apart : ∀ asked ∈ step.query?, asked.signature = query.signature →
      compile asked.condition = compile query.condition) :
    Orderly segments query (client.run step).2 := by
  have homed := orderly.homed
  cases step with
  | put collection id value =>
      exact ⟨homed.put collection id value, orderly.stages, orderly.faithful⟩
  | get collection id => exact orderly
  | delete collection id =>
      exact ⟨homed.delete collection id, orderly.stages, orderly.faithful⟩
  | createCollection collection =>
      exact ⟨homed.createCollection collection, orderly.stages, orderly.faithful⟩
  | dropCollection collection =>
      exact ⟨homed.dropCollection collection, orderly.stages, orderly.faithful⟩
  | query asked => exact orderly.matching (apart asked rfl)
  | countDistinct asked field => exact orderly.matching (apart asked rfl)
  | start number => exact orderly.keep number (.start _)
  | stagePut number collection id value =>
      exact orderly.keep number ((orderly.stages number).put fun _ => Document.idOf?_of_withId)
  | stageDelete number collection id =>
      have named : (Operation.delete collection id).IsNamed := trivial
      exact orderly.keep number ((orderly.stages number).stage named)
  | stageDrop number collection =>
      have named : (Operation.drop collection).IsNamed := trivial
      exact orderly.keep number ((orderly.stages number).stage named)
  | commit number => exact orderly.commit number
  | rollback number => exact orderly.keep number (.start _)

theorem Orderly.runAll (orderly : Orderly segments query client) {steps : List ClientStep}
    (apart : ∀ asked ∈ Client.queriesOf steps, asked.signature = query.signature →
      compile asked.condition = compile query.condition) :
    Orderly segments query (Client.runAll steps client).2 := by
  induction steps generalizing client with
  | nil => exact orderly
  | cons step rest ih =>
      have here : ∀ asked ∈ step.query?, asked.signature = query.signature →
          compile asked.condition = compile query.condition := fun asked member =>
        apart asked (Client.mem_queriesOf step List.mem_cons_self asked member)
      have later : ∀ asked ∈ Client.queriesOf rest, asked.signature = query.signature →
          compile asked.condition = compile query.condition := by
        intro asked member
        obtain ⟨other, among, told⟩ := List.mem_filterMap.mp member
        exact apart asked (Client.mem_queriesOf other (List.mem_cons_of_mem _ among) asked told)
      exact ih (orderly.run here) later

/-! ## Answers -/

/-- Where every document tells an id under which its view is read, the ids are read so. -/
theorem map_filterMap_idOf? {β : Type} {read : String → β} {view : Json → β} {found : List Json}
    (tells : ∀ stored ∈ found, ∃ id, Document.idOf? stored = some id ∧ read id = view stored) :
    (found.filterMap Document.idOf?).map read = found.map view := by
  induction found with
  | nil => rfl
  | cons first rest ih =>
      rw [List.forall_mem_cons] at tells
      obtain ⟨⟨id, told, same⟩, rest⟩ := tells
      rw [List.filterMap_cons, told, List.map_cons, List.map_cons, same, ih rest]

/-- A document that a scan finds is read under the id that it tells. -/
theorem exists_get_of_mem_passing {cluster : Cluster} (homed : cluster.Homed segments)
    {collection : String} {keep : Json → Bool} {stored : Json}
    (member : stored ∈ cluster.passing collection keep) :
    ∃ id, Document.idOf? stored = some id ∧
      cluster.get collection id = .ok (Document.withoutId stored) := by
  obtain ⟨name, -, found⟩ := List.mem_flatMap.mp member
  obtain ⟨id, found⟩ := (Node.mem_values_iff (homed.nodes name) collection stored).mp
    (List.mem_filter.mp found).1
  obtain ⟨owner, told⟩ := (homed.nodes name).kept found
  refine ⟨id, told, ?_⟩
  rw [Cluster.get_of_online homed.nonempty homed.online, Cluster.document?_eq owner, found]

theorem matching_of_orderly (orderly : Orderly segments query client) :
    (client.store.matching query).1 = (compile query.condition).map fun predicate =>
      sortDocuments query.order
        (client.store.cluster.passing query.collection predicate.holds) := by
  rw [matching_eq]
  dsimp only
  rw [Filter.Cache.getOrCompile_of_faithful orderly.faithful]
  cases compile query.condition with
  | error cause => rfl
  | ok predicate =>
      rw [found, Cluster.scan_of_allOnline orderly.homed.online]
      rfl

/-- The ids that are found, as often as they are found: once for every segment that the node of
the document keeps. -/
def FoundPerSegment (cluster : Cluster) (query : Query) (predicate : Filter.Predicate)
    (ids : List String) : Prop :=
  ∀ id name, cluster.ownerOf query.collection id = .ok name →
    ids.count id =
      if (cluster.document? query.collection id).any predicate.holds = true then
        cluster.segments.count name
      else 0

/-- Where no two segments share a node, every id is found once whose document passes. -/
theorem FoundPerSegment.nodup {cluster : Cluster} {predicate : Filter.Predicate}
    {ids : List String} (found : FoundPerSegment cluster query predicate ids)
    (distinct : cluster.segments.Nodup) (nonempty : cluster.segments ≠ []) :
    ids.Nodup ∧ ∀ id, id ∈ ids ↔
      (cluster.document? query.collection id).any predicate.holds = true := by
  have once (id : String) : ids.count id =
      if (cluster.document? query.collection id).any predicate.holds = true then 1 else 0 := by
    obtain ⟨name, owner⟩ := Cluster.exists_owner nonempty query.collection id
    have place := (Cluster.ownerOf_eq_ok_iff _ _ _ _).mp owner
    rw [found id name owner, List.count_eq_one_of_mem distinct (List.mem_of_getElem? place)]
  constructor
  · rw [List.nodup_iff_count_le_one]
    intro id
    rw [once]
    split
    · exact Nat.le_refl 1
    · exact Nat.zero_le 1
  · intro id
    rw [← List.count_pos_iff, once]
    split
    · next passes => simp [passes]
    · next fails => simp [fails]

/-- A query for all documents whose order does not contradict itself on what it finds tells the
document of every id that passes its condition, as it is read, once for every segment that the
node of the document keeps, none behind one that it belongs before, and counts what it tells.
Where no two segments share a node, that is once. -/
theorem found_once_per_segment {raw : String} {hasFile : String → Bool} {cluster : Cluster}
    (connected : Cluster.connect raw hasFile = .ok cluster) (capacity : Nat)
    {steps : List ClientStep} {query : Query} (all : query.selectOne = false)
    (unpaged : query.page? = none)
    (apart : ∀ asked ∈ Client.queriesOf steps, asked.signature = query.signature →
      compile asked.condition = compile query.condition) :
    let store := (Client.runAll steps ⟨ofCluster cluster capacity, fun _ => .start⟩).2.store
    match compile query.condition with
    | .error cause => (DocumentStore.query query store).1 = .failed cause
    | .ok predicate =>
        Sortable query.order (store.cluster.passing query.collection predicate.holds) →
          ∃ (found : List Json) (ids : List String),
            (DocumentStore.query query store).1 =
              .many (found.map Document.withoutId) ids.length ∧
            (found.Pairwise fun earlier later => compareBy query.order later earlier ≠ .lt) ∧
            (ids.map fun id => DocumentStore.get query.collection id store) =
              (found.map fun stored => .ok (Document.withoutId stored)) ∧
            FoundPerSegment store.cluster query predicate ids ∧
            (cluster.segments.Nodup → ids.Nodup ∧ ∀ id, id ∈ ids ↔
              (store.cluster.document? query.collection id).any predicate.holds = true) := by
  intro store
  let final := (Client.runAll steps ⟨ofCluster cluster capacity, fun _ => .start⟩).2
  have orderly : Orderly cluster.segments query final := by
    have begun : Orderly cluster.segments query ⟨ofCluster cluster capacity, fun _ => .start⟩ :=
      ⟨homed_of_connect connected, fun _ => .start _, Filter.Cache.faithful_ofCapacity _ _ _⟩
    exact begun.runAll apart
  have homed : store.cluster.Homed cluster.segments := orderly.homed
  have told : (DocumentStore.query query store).1 =
      .ofExcept ((store.matching query).1.map (answer query)) := rfl
  rw [told, matching_of_orderly orderly]
  cases compile query.condition with
  | error cause => rfl
  | ok predicate =>
      let passing := store.cluster.passing query.collection predicate.holds
      intro sortable
      have sorted := sortDocuments_perm query.order passing
      have read : ∀ stored ∈ sortDocuments query.order passing, ∃ id,
          Document.idOf? stored = some id ∧
            store.cluster.get query.collection id = .ok (Document.withoutId stored) :=
        fun stored member => exists_get_of_mem_passing homed (sorted.mem_iff.mp member)
      have reads := map_filterMap_idOf? read
      have lengths : ((sortDocuments query.order passing).filterMap Document.idOf?).length =
          (sortDocuments query.order passing).length := by
        have same := congrArg List.length reads
        rwa [List.length_map, List.length_map] at same
      have counted : FoundPerSegment store.cluster query predicate
          ((sortDocuments query.order passing).filterMap Document.idOf?) := by
        intro id name owner
        rw [(sorted.filterMap Document.idOf?).count_eq,
          Cluster.count_ids_of_passing homed owner]
      refine ⟨sortDocuments query.order passing,
        (sortDocuments query.order passing).filterMap Document.idOf?, ?_, sortable.pairwise, reads,
        counted, ?_⟩
      · rw [lengths]
        dsimp only [Except.map, Answer.ofExcept]
        rw [answer, all, unpaged]
        rfl
      · intro distinct
        exact counted.nodup (homed.same ▸ distinct) homed.nonempty

/-- Over two nodes, documents that were put, staged and deleted are found once. -/
theorem found_once_over_two_nodes :
    ∃ cluster, Cluster.connect "left,right/1" (fun _ => false) = .ok cluster ∧
      let steps : List ClientStep := [
        .put "books" "a" (.object [("n", .number (.integer 1))]),
        .put "books" "b" (.object [("n", .number (.integer 2))]),
        .start 0, .stagePut 0 "books" "c" (.object [("n", .number (.integer 3))]),
        .stageDelete 0 "books" "a", .commit 0]
      let query : Query := {
        collection := "books",
        condition := ⟨.all, [.leaf ⟨"n", .gt, .number (.integer 0)⟩]⟩ }
      let store := (Client.runAll steps ⟨ofCluster cluster 256, fun _ => .start⟩).2.store
      ∃ (found : List Json) (ids : List String),
        (DocumentStore.query query store).1 = .many (found.map Document.withoutId) ids.length ∧
          ids.Nodup := by
  have connected : Cluster.connect "left,right/1" (fun _ => false) =
      .ok { segments := ["left", "right"] } := rfl
  refine ⟨_, connected, ?_⟩
  intro steps query store
  let predicate := (compile query.condition).toOption.getD .always
  have compiled : compile query.condition = .ok predicate := rfl
  have unasked : ∀ asked ∈ Client.queriesOf steps, asked.signature = query.signature →
      compile asked.condition = compile query.condition := List.forall_mem_nil _
  have finds := @found_once_per_segment _ _ _ connected 256 steps query rfl rfl unasked
  rw [compiled] at finds
  have integral : ∀ document ∈ store.cluster.passing "books" predicate.holds,
      document.isIntegral = true := by decide +kernel
  obtain ⟨found, ids, told, -, -, -, once⟩ := finds (sortable_of_integral _ integral)
  exact ⟨found, ids, told, (once (by decide)).1⟩

/-- Two descriptors of one address make a query tell the only document of a store twice. -/
theorem found_twice_of_repeated_address :
    ∃ cluster, Cluster.connect "alpha/1,alpha/2" (fun _ => false) = .ok cluster ∧
      let steps : List ClientStep := [.put "c" "x" (.object [("a", .number (.integer 1))])]
      let store := (Client.runAll steps ⟨ofCluster cluster 256, fun _ => .start⟩).2.store
      let told := (DocumentStore.query { collection := "c" } store).1
      told.documents.map Json.render = ["\x7b\"a\":1\x7d", "\x7b\"a\":1\x7d"] ∧ told.total = 2 := by
  refine ⟨_, rfl, ?_⟩
  decide +kernel

end Polystore.ClusterStore
