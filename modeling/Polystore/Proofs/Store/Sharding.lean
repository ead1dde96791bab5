import Polystore.Proofs.Cluster.Connection
import Polystore.Proofs.Cluster.Online
import Polystore.Proofs.Store.Filed
import Polystore.Store.Cluster

/-!
# Sharding is invisible

Two clusters that hold the same documents answer every call alike while all their nodes
can be reached, however many segments they have, and hold the same documents after it.
A client of a clustered store therefore cannot tell how its documents are spread.
-/

namespace Polystore

/-! ## Clusters that hold the same documents -/

/-- Two clusters of filed documents, all of whose nodes can be reached, that hold the same
document under every id. -/
structure Cluster.Alike (left right : Cluster) : Prop where
  leftKeeps : left.Keeps Document.Filed
  rightKeeps : right.Keeps Document.Filed
  leftOnline : left.AllOnline
  rightOnline : right.AllOnline
  document? : ∀ collection id, left.document? collection id = right.document? collection id

namespace Cluster.Alike

variable {left right : Cluster}

/-- Clusters that perform the same operations stay alike. -/
theorem performs (alike : Alike left right) {operations : List Operation}
    {leftAfter rightAfter : Cluster} (leftPerforms : Performs operations left leftAfter)
    (rightPerforms : Performs operations right rightAfter)
    (respect : ∀ operation ∈ operations, operation.Respects Document.Filed) :
    Alike leftAfter rightAfter where
  leftKeeps := leftPerforms.keeps alike.leftKeeps respect
  rightKeeps := rightPerforms.keeps alike.rightKeeps respect
  leftOnline := leftPerforms.allOnline alike.leftOnline
  rightOnline := rightPerforms.allOnline alike.rightOnline
  document? collection id := by
    rw [leftPerforms.document? alike.leftKeeps.nonempty,
      rightPerforms.document? alike.rightKeeps.nonempty, alike.document?]

theorem get (alike : Alike left right) (collection id : String) :
    left.get collection id = right.get collection id := by
  rw [get_of_online alike.leftKeeps.nonempty alike.leftOnline,
    get_of_online alike.rightKeeps.nonempty alike.rightOnline, alike.document?]

theorem put (alike : Alike left right) (collection id : String) {value : Json}
    (integral : value.isIntegral = true) :
    (left.put collection id value).1 = (right.put collection id value).1 ∧
      Alike (left.put collection id value).2 (right.put collection id value).2 := by
  constructor
  · rw [put_of_online alike.leftKeeps.nonempty alike.leftOnline,
      put_of_online alike.rightKeeps.nonempty alike.rightOnline]
  · refine alike.performs
      (performs_put alike.leftKeeps.distinct alike.leftKeeps.nonempty alike.leftOnline _ _ _)
      (performs_put alike.rightKeeps.distinct alike.rightKeeps.nonempty alike.rightOnline _ _ _) ?_
    exact Operation.respects_forPut collection id integral

theorem delete (alike : Alike left right) (collection id : String) :
    (left.delete collection id).1 = (right.delete collection id).1 ∧
      Alike (left.delete collection id).2 (right.delete collection id).2 := by
  have leftPerforms := performs_delete alike.leftKeeps.distinct alike.leftKeeps.nonempty
    alike.leftOnline collection id
  have rightPerforms := performs_delete alike.rightKeeps.distinct alike.rightKeeps.nonempty
    alike.rightOnline collection id
  constructor
  · rw [delete_of_online alike.leftKeeps.nonempty alike.leftOnline,
      delete_of_online alike.rightKeeps.nonempty alike.rightOnline, alike.document?]
  · rw [alike.document?] at leftPerforms
    exact alike.performs leftPerforms rightPerforms (Operation.respects_deletion _ _ _ _)

theorem createCollection (alike : Alike left right) (collection : String) :
    (left.createCollection collection).1 = (right.createCollection collection).1 ∧
      Alike (left.createCollection collection).2 (right.createCollection collection).2 := by
  constructor
  · rw [createCollection_of_online alike.leftKeeps.distinct alike.leftOnline,
      createCollection_of_online alike.rightKeeps.distinct alike.rightOnline]
  · exact alike.performs
      (performs_createCollection (rfl : left.createCollection collection = (_, _)))
      (performs_createCollection (rfl : right.createCollection collection = (_, _)))
      fun _ member => absurd member List.not_mem_nil

theorem dropCollection (alike : Alike left right) (collection : String) :
    (left.dropCollection collection).1 = (right.dropCollection collection).1 ∧
      Alike (left.dropCollection collection).2 (right.dropCollection collection).2 := by
  obtain ⟨leftAfter, leftDropped, leftPerforms⟩ :=
    performs_dropCollection alike.leftKeeps.distinct alike.leftOnline collection
  obtain ⟨rightAfter, rightDropped, rightPerforms⟩ :=
    performs_dropCollection alike.rightKeeps.distinct alike.rightOnline collection
  rw [leftDropped, rightDropped]
  exact ⟨rfl, alike.performs leftPerforms rightPerforms (List.forall_mem_singleton.mpr trivial)⟩

theorem commit (alike : Alike left right) {operations : List Operation}
    (respect : ∀ operation ∈ operations, operation.Respects Document.Filed) :
    (commit operations left).1 = (Cluster.commit operations right).1 ∧
      Alike (Cluster.commit operations left).2 (Cluster.commit operations right).2 := by
  constructor
  · rw [commit_of_online alike.leftKeeps.nonempty alike.leftOnline,
      commit_of_online alike.rightKeeps.nonempty alike.rightOnline]
  · exact alike.performs
      (performs_commit alike.leftKeeps.distinct alike.leftKeeps.nonempty alike.leftOnline _)
      (performs_commit alike.rightKeeps.distinct alike.rightKeeps.nonempty alike.rightOnline _)
      respect

/-- A scan finds the same documents, in some order. -/
theorem passing_perm (alike : Alike left right) (collection : String) (keep : Json → Bool) :
    (left.passing collection keep).Perm (right.passing collection keep) := by
  have differ {documents : List Json} (listing : Document.Listing documents) : documents.Nodup :=
    listing.apart.imp fun apart same => apart (congrArg _ same)
  refine (List.perm_ext_iff_of_nodup
    (differ (listing_passing alike.leftKeeps collection keep))
    (differ (listing_passing alike.rightKeeps collection keep))).mpr ?_
  intro stored
  rw [mem_passing_iff alike.leftKeeps, mem_passing_iff alike.rightKeeps]
  simp only [alike.document?]

end Cluster.Alike

/-! ## Stores over such clusters -/

/-- Two stores over clusters that hold the same documents, with the same compiled filters. -/
structure ClusterStore.Alike (left right : ClusterStore) : Prop where
  clusters : left.cluster.Alike right.cluster
  cache : left.cache = right.cache

namespace ClusterStore.Alike

variable {left right : ClusterStore}

/-- An action that keeps clusters alike keeps the stores alike. -/
theorem onCluster {α : Type} (alike : Alike left right) {action : Cluster → Outcome Cluster α}
    (acts : (action left.cluster).1 = (action right.cluster).1 ∧
      (action left.cluster).2.Alike (action right.cluster).2) :
    (onCluster action left).1 = (ClusterStore.onCluster action right).1 ∧
      Alike (ClusterStore.onCluster action left).2 (ClusterStore.onCluster action right).2 :=
  ⟨acts.1, acts.2, alike.cache⟩

/-- The segments of a cluster play no part in what a query matches, nor in the order. -/
theorem matching (alike : Alike left right) (query : Query) :
    (matching query left).1 = (ClusterStore.matching query right).1 ∧
      Alike (ClusterStore.matching query left).2 (ClusterStore.matching query right).2 := by
  rw [ClusterStore.matching, ClusterStore.matching, alike.cache]
  rcases right.cache.getOrCompile query.signature fun _ => compile query.condition with
    ⟨_ | predicate, cache⟩
  · exact ⟨rfl, alike.clusters, rfl⟩
  · have listing := Cluster.listing_passing alike.clusters.leftKeeps query.collection
      predicate.holds
    have sorted := listing.sortDocuments_eq_of_perm
      (alike.clusters.passing_perm query.collection predicate.holds) query
    dsimp only
    rw [Cluster.scan_of_allOnline alike.clusters.leftOnline,
      Cluster.scan_of_allOnline alike.clusters.rightOnline]
    exact ⟨congrArg Except.ok sorted, alike.clusters, rfl⟩

theorem query (alike : Alike left right) (query : Query) :
    (ClusterStore.query query left).1 = (ClusterStore.query query right).1 ∧
      Alike (ClusterStore.query query left).2 (ClusterStore.query query right).2 := by
  obtain ⟨found, after⟩ := alike.matching query
  exact ⟨congrArg (fun found : Except Error (List Json) => Answer.ofExcept
    (found.map (answer query))) found, after⟩

theorem countDistinct (alike : Alike left right) (query : Query) (field : String) :
    (countDistinct query field left).1 = (ClusterStore.countDistinct query field right).1 ∧
      Alike (ClusterStore.countDistinct query field left).2
        (ClusterStore.countDistinct query field right).2 := by
  obtain ⟨found, after⟩ := alike.matching query
  constructor
  · exact congrArg (Except.map fun documents => (documents.filterMap fun document =>
      (document.lookup? field).map distinctKey).foldl countUnder []) found
  · exact after

end ClusterStore.Alike

/-! ## Clients of such stores -/

/-- Two clients of alike stores that staged the same filed documents. -/
structure Client.Alike (left right : Client ClusterStore) : Prop where
  stores : left.store.Alike right.store
  transactions : left.transactions = right.transactions
  stages : ∀ number, (left.transactions number).Stages

namespace Client.Alike

variable {left right : Client ClusterStore}

theorem onStore {α : Type} (alike : Alike left right) (reply : α → Reply)
    {leftOutcome rightOutcome : α × ClusterStore}
    (acts : leftOutcome.1 = rightOutcome.1 ∧ leftOutcome.2.Alike rightOutcome.2) :
    (left.onStore reply leftOutcome).1 = (right.onStore reply rightOutcome).1 ∧
      Alike (left.onStore reply leftOutcome).2 (right.onStore reply rightOutcome).2 :=
  ⟨congrArg reply acts.1, acts.2, alike.transactions, alike.stages⟩

theorem keep (alike : Alike left right) (number : Nat) {transaction : Transaction}
    (stages : transaction.Stages) :
    Alike (left.keep number transaction) (right.keep number transaction) where
  stores := alike.stores
  transactions := by rw [Client.keep, Client.keep, alike.transactions]
  stages := Client.stages_keep alike.stages number stages

theorem onTransaction (alike : Alike left right) (number : Nat)
    {action : Transaction → Outcome Transaction Unit}
    (stages : (action (left.transactions number)).2.Stages) :
    (left.onTransaction number action).1 = (right.onTransaction number action).1 ∧
      Alike (left.onTransaction number action).2 (right.onTransaction number action).2 := by
  rw [Client.onTransaction, Client.onTransaction, ← alike.transactions]
  exact ⟨rfl, alike.keep number stages⟩

/-- Committing the same transaction to alike stores. -/
theorem commit (alike : Alike left right) (number : Nat) :
    (left.run (.commit number)).1 = (right.run (.commit number)).1 ∧
      Alike (left.run (.commit number)).2 (right.run (.commit number)).2 := by
  obtain ⟨leftStore, transactions⟩ := left
  obtain ⟨rightStore, rightTransactions⟩ := right
  obtain ⟨stores, same, stages⟩ := alike
  obtain rfl : transactions = rightTransactions := same
  obtain ⟨told, kept, after⟩ := (transactions number).commit_of_sinks
    DocumentStore.commit DocumentStore.commit stores
    (stores.onCluster (stores.clusters.commit (stages number)))
  have between : Alike
      ⟨((transactions number).commit DocumentStore.commit leftStore).2.2, transactions⟩
      ⟨((transactions number).commit DocumentStore.commit rightStore).2.2, transactions⟩ :=
    ⟨after, rfl, stages⟩
  have replaced := between.keep number ((stages number).commit DocumentStore.commit leftStore)
  constructor
  · exact congrArg Reply.done told
  · rw [Client.run, Client.run]
    dsimp only
    rw [← kept]
    exact replaced

/-- Alike clients are told the same, and stay alike. -/
theorem run (alike : Alike left right) {step : ClientStep} (integral : step.IsIntegral) :
    (left.run step).1 = (right.run step).1 ∧ Alike (left.run step).2 (right.run step).2 := by
  have stores := alike.stores
  have clusters := stores.clusters
  cases step with
  | put collection id value =>
      exact alike.onStore .done (stores.onCluster (clusters.put collection id (integral value rfl)))
  | get collection id =>
      exact ⟨congrArg Reply.document (clusters.get collection id), alike⟩
  | delete collection id =>
      exact alike.onStore .done (stores.onCluster (clusters.delete collection id))
  | createCollection collection =>
      exact alike.onStore .done (stores.onCluster (clusters.createCollection collection))
  | dropCollection collection =>
      exact alike.onStore .done (stores.onCluster (clusters.dropCollection collection))
  | query query => exact alike.onStore .answer (stores.query query)
  | countDistinct query field => exact alike.onStore .counts (stores.countDistinct query field)
  | start number => exact ⟨rfl, alike.keep number Transaction.stages_start⟩
  | stagePut number collection id value =>
      exact alike.onTransaction number ((alike.stages number).put collection id
        (integral value rfl))
  | stageDelete number collection id =>
      exact alike.onTransaction number ((alike.stages number).stage trivial)
  | stageDrop number collection =>
      exact alike.onTransaction number ((alike.stages number).stage trivial)
  | commit number => exact alike.commit number
  | rollback number =>
      constructor
      · exact rfl
      · rw [Client.run, Client.run, ← alike.transactions]
        exact alike.keep number Transaction.stages_start

/-- Alike clients are told the same throughout a run. -/
theorem runAll (alike : Alike left right) {steps : List ClientStep}
    (integral : ∀ step ∈ steps, step.IsIntegral) :
    (Client.runAll steps left).1 = (Client.runAll steps right).1 ∧
      Alike (Client.runAll steps left).2 (Client.runAll steps right).2 := by
  induction steps generalizing left right with
  | nil => exact ⟨rfl, alike⟩
  | cons step rest ih =>
      obtain ⟨reply, after⟩ := alike.run (integral step List.mem_cons_self)
      obtain ⟨replies, last⟩ := ih after fun later member =>
        integral later (List.mem_cons_of_mem _ member)
      constructor
      · rw [Client.runAll_cons, Client.runAll_cons, reply, replies]
      · exact last

end Client.Alike

namespace Client

open Connection

variable {hasFile : String → Bool}

/-- Empty stores over any two specifications without repeated addresses are alike. -/
theorem alike_ofSpec {left right : Spec} {leftPool rightPool : Pool String}
    (leftConnected : Pool.ofSpec left (Cluster.connector hasFile) = .ok leftPool)
    (rightConnected : Pool.ofSpec right (Cluster.connector hasFile) = .ok rightPool)
    (leftDistinct : (left.clusters.map Descriptor.address).Nodup)
    (rightDistinct : (right.clusters.map Descriptor.address).Nodup) (capacity : Nat) :
    Alike ⟨.ofCluster (.ofPool leftPool) capacity, fun _ => .start⟩
      ⟨.ofCluster (.ofPool rightPool) capacity, fun _ => .start⟩ where
  stores := {
    clusters := {
      leftKeeps := Cluster.keeps_ofPool _ (Cluster.segments_ofPool leftConnected ▸ leftDistinct)
      rightKeeps := Cluster.keeps_ofPool _ (Cluster.segments_ofPool rightConnected ▸ rightDistinct)
      leftOnline := Cluster.allOnline_ofPool leftPool
      rightOnline := Cluster.allOnline_ofPool rightPool
      document? := fun collection id =>
        (Cluster.document?_ofPool leftPool collection id).trans
          (Cluster.document?_ofPool rightPool collection id).symm }
    cache := rfl }
  transactions := rfl
  stages _ := Transaction.stages_start

/-- However many clusters a specification has, a client is told what one cluster alone
would tell. -/
theorem replies_eq_single {spec : Spec} {descriptor : Descriptor} {pool single : Pool String}
    (connected : Pool.ofSpec spec (Cluster.connector hasFile) = .ok pool)
    (alone : Pool.ofSpec ⟨[descriptor]⟩ (Cluster.connector hasFile) = .ok single)
    (distinct : (spec.clusters.map Descriptor.address).Nodup) (capacity : Nat)
    {steps : List ClientStep} (integral : ∀ step ∈ steps, step.IsIntegral) :
    (runAll steps ⟨ClusterStore.ofCluster (.ofPool pool) capacity, fun _ => .start⟩).1 =
      (runAll steps ⟨ClusterStore.ofCluster (.ofPool single) capacity, fun _ => .start⟩).1 := by
  have alike := alike_ofSpec connected alone distinct (List.pairwise_singleton _ _) capacity
  exact (alike.runAll integral).1

/-- Two clusters tell what one does of documents that are put, dropped and queried. -/
theorem replies_of_two_clusters :
    ∃ pair single : Pool String,
      Pool.ofSpec ⟨[{ address := "east" }, { address := "west" }]⟩
        (Cluster.connector fun _ => false) = .ok pair ∧
      Pool.ofSpec ⟨[{ address := "solo" }]⟩ (Cluster.connector fun _ => false) = .ok single ∧
      (let steps : List ClientStep := [
        .put "books" "a" (.object []), .start 0, .stageDrop 0 "books",
        .stagePut 0 "books" "b" (.object [("year", .number (.integer 3))]), .commit 0,
        .put "books" "c" (.object []),
        .query { collection := "books", sorts := [⟨"year", false⟩] }]
      (runAll steps ⟨ClusterStore.ofCluster (.ofPool pair) 4, fun _ => .start⟩).1 =
        (runAll steps ⟨ClusterStore.ofCluster (.ofPool single) 4, fun _ => .start⟩).1) := by
  obtain ⟨pair, connected⟩ : ∃ pair, Pool.ofSpec ⟨[{ address := "east" }, { address := "west" }]⟩
      (Cluster.connector fun _ => false) = .ok pair := ⟨_, rfl⟩
  obtain ⟨single, alone⟩ : ∃ single, Pool.ofSpec ⟨[{ address := "solo" }]⟩
      (Cluster.connector fun _ => false) = .ok single := ⟨_, rfl⟩
  refine ⟨pair, single, connected, alone, ?_⟩
  exact replies_eq_single connected alone (by decide) 4 (by decide)

end Client

end Polystore
