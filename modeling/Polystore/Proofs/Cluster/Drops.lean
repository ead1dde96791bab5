import Mathlib
import Polystore.Proofs.Cluster.Contents
import Polystore.Store.Cluster

/-!
# Drops that stop halfway

A store drops a collection from one segment after the other and stops at the first whose
node is offline, while a transaction that drops a collection looks at every node before it
changes one.  A drop that fails has cleared the nodes before the offline one already, so it
changes nothing only if these hold no document of the collection.
-/

namespace Polystore

namespace Cluster

variable {cluster between after : Cluster} {collection name : String}
  {names more : List String}

/-- A collection is gone from some nodes, and nothing else has changed. -/
structure Cleared (collection : String) (names : List String) (cluster after : Cluster) :
    Prop where
  segments : after.segments = cluster.segments
  online : ∀ name, (after.node name).online = (cluster.node name).online
  documents : ∀ name other, (after.node name).documents other =
    if name ∈ names ∧ other = collection then [] else (cluster.node name).documents other

theorem Cleared.trans (first : Cleared collection names cluster between)
    (later : Cleared collection more between after) :
    Cleared collection (names ++ more) cluster after where
  segments := later.segments.trans first.segments
  online name := (later.online name).trans (first.online name)
  documents name other := by
    rw [later.documents, first.documents]
    by_cases here : other = collection
    · by_cases cleared : name ∈ names
      · simp [here, cleared]
      · simp [here, cleared]
    · simp [here]

/-- An offline node is left as it was. -/
theorem cleared_of_offline (collection : String) (offline : (cluster.node name).online = false) :
    cluster.atNode name (fun node => node.dropCollection collection) =
        (.error (.unreachable (cluster.node name).address),
          cluster.setNode name (cluster.node name)) ∧
      Cleared collection [] cluster (cluster.setNode name (cluster.node name)) := by
  have same (other : String) :
      (cluster.setNode name (cluster.node name)).node other = cluster.node other := by
    rw [node_setNode]
    split
    · next here => rw [here]
    · rfl
  constructor
  · simp [atNode, Node.dropCollection, Node.call, offline]
  · constructor
    · rfl
    · intro other
      rw [same]
    · intro other changed
      simp [same]

/-- A node that can be reached loses the collection. -/
theorem cleared_of_online (collection : String) (online : (cluster.node name).online = true) :
    ∃ after, cluster.atNode name (fun node => node.dropCollection collection) = (.ok (), after) ∧
      Cleared collection [name] cluster after := by
  refine ⟨cluster.setNode name ((cluster.node name).discardAll collection), ?_, rfl, ?_, ?_⟩
  · simp [atNode, Node.dropCollection, Node.call, online]
  · intro other
    rw [node_setNode]
    split
    · next here =>
      rw [here]
      rfl
    · rfl
  · intro other changed
    rw [node_setNode]
    by_cases here : other = name
    · simp [here, Node.documents_discardAll]
    · simp [here]

/-- The first of some nodes, up to one that is offline. -/
def reachable (cluster : Cluster) (names : List String) : List String :=
  names.takeWhile fun name => (cluster.node name).online

theorem Cleared.reachable (cleared : Cleared collection names cluster after) :
    after.reachable = cluster.reachable := by
  funext others
  simp only [Cluster.reachable, cleared.online]

/-- A round of drops clears the nodes up to the first that is offline, and fails there. -/
theorem exists_dropFrom (collection : String) (names : List String) (cluster : Cluster) :
    ∃ result after,
      forEach (fun node => node.dropCollection collection) names cluster = (result, after) ∧
      Cleared collection (cluster.reachable names) cluster after ∧
      ((result = .ok () ∧ ∀ name ∈ names, (cluster.node name).online = true) ∨
        ∃ cause, result = .error cause ∧ cause.kind = .transportFailure ∧
          ∃ name ∈ names, (cluster.node name).online = false) := by
  induction names generalizing cluster with
  | nil =>
      refine ⟨.ok (), cluster, rfl, ?_, Or.inl ⟨rfl, List.forall_mem_nil _⟩⟩
      constructor
      · rfl
      · intro name
        rfl
      · intro name other
        simp [Cluster.reachable]
  | cons first rest ih =>
      cases reached : (cluster.node first).online with
      | false =>
          -- The round ends here, whatever nodes come after.
          rcases cleared_of_offline collection reached with ⟨called, cleared⟩
          refine ⟨.error (.unreachable (cluster.node first).address),
            cluster.setNode first (cluster.node first), ?_, ?_, Or.inr ?_⟩
          · rw [forEach, called]
          · have none : cluster.reachable (first :: rest) = [] := by
              simp [Cluster.reachable, reached]
            rw [none]
            exact cleared
          · exact ⟨_, rfl, rfl, first, List.mem_cons_self, reached⟩
      | true =>
          rcases cleared_of_online collection reached with
            ⟨between, called, cleared⟩
          rcases ih between with ⟨result, after, dropped, later, outcome⟩
          have names : cluster.reachable (first :: rest) = [first] ++ between.reachable rest := by
            rw [cleared.reachable]
            simp [Cluster.reachable, reached]
          refine ⟨result, after, ?_, ?_, ?_⟩
          · rw [forEach, called]
            exact dropped
          · rw [names]
            exact cleared.trans later
          · rcases outcome with ⟨succeeded, online⟩ | ⟨cause, failed, kind, name, member, offline⟩
            · left
              simp only [cleared.online] at online
              exact ⟨succeeded, List.forall_mem_cons.mpr ⟨reached, online⟩⟩
            · right
              rw [cleared.online] at offline
              exact ⟨cause, failed, kind, name, List.mem_cons_of_mem _ member, offline⟩

end Cluster

namespace ClusterStore

/-- A drop succeeds exactly if every node can be reached, and then no node holds a document of
the collection.  In any case it clears the nodes up to the first that is offline, and leaves
every other collection and node as it was; so a drop that fails changes nothing exactly if the
nodes that it has reached hold no document of the collection. -/
theorem dropCollection_clears_up_to_offline (store : ClusterStore) (collection : String) :
    let names := store.cluster.segments
    let reached := store.cluster.reachable names
    ∃ result after, DocumentStore.dropCollection collection store = (result, after) ∧
      Cluster.Cleared collection reached store.cluster after.cluster ∧
      after.cache = store.cache ∧
      ((result = .ok () ∧ store.cluster.AllOnline ∧
          ∀ name ∈ names, (after.cluster.node name).documents collection = []) ∨
        ∃ cause, result = .error cause ∧ cause.kind = .transportFailure ∧
          ¬store.cluster.AllOnline ∧
          ((∀ name, (after.cluster.node name).documents = (store.cluster.node name).documents) ↔
            ∀ name ∈ reached, (store.cluster.node name).documents collection = [])) := by
  intro names reached
  rcases Cluster.exists_dropFrom collection names store.cluster with
    ⟨result, after, dropped, cleared, outcome⟩
  refine ⟨result, { store with cluster := after }, ?_, cleared, rfl, ?_⟩
  · change ClusterStore.onCluster (Cluster.dropCollection · collection) store = _
    rw [onCluster, Cluster.dropCollection, dropped]
  · rcases outcome with ⟨succeeded, online⟩ | ⟨cause, failed, kind, name, member, offline⟩
    · left
      have all : reached = names := List.takeWhile_eq_self_iff.mpr online
      refine ⟨succeeded, online, ?_⟩
      intro name member
      rw [cleared.documents, if_pos]
      exact ⟨(all ▸ member : name ∈ reached), rfl⟩
    · right
      refine ⟨cause, failed, kind, ?_, ?_⟩
      · intro online
        rw [online name member] at offline
        contradiction
      · constructor
        · intro same name inside
          rw [← same name, cleared.documents, if_pos ⟨inside, rfl⟩]
        · intro empty name
          funext other
          rw [cleared.documents]
          split
          · next here =>
            rw [here.2, empty name here.1]
          · rfl

/-- A drop that fails at the second of two nodes has lost the document on the first. -/
theorem failed_drop_loses_document :
    let store : ClusterStore := .ofCluster { segments := ["alpha", "beta"] } 8
    let held := (DocumentStore.put "c" "a" (.object [("v", .ofInt 1)]) store).2
    let outage := { held with cluster := held.cluster.setOffline "beta" true }
    let outcome := DocumentStore.dropCollection "c" outage
    let after := { outcome.2 with cluster := outcome.2.cluster.setOffline "beta" false }
    DocumentStore.get "c" "a" held = .ok (.object [("v", .ofInt 1)]) ∧
      outcome.1 = .error (.unreachable "beta") ∧
      DocumentStore.get "c" "a" after = .error (.documentMissing "c" "a") := by
  intro store held outage outcome after
  constructor
  · cbv
  · constructor
    · cbv
    · cbv

end ClusterStore

end Polystore
