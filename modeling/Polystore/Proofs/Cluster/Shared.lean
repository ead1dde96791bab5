import Polystore.Proofs.Cluster.Commit
import Polystore.Proofs.Cluster.Online

/-!
# Segments that share a node

Two segments of one address are kept by one node.  Each of them carries out its share of a
transaction there, and a share without drops changes documents of its own segment only.  So
while the nodes can be reached, puts, deletes and transactions that drop no collection do to
every document what they would do in one map, whatever addresses are repeated.
-/

namespace Polystore.Cluster

variable {cluster : Cluster} {position : Nat} {name collection id : String}
  {operations : List Operation}

/-! ## Shares of segments -/

/-- Operations on documents of one segment, none of which drops a collection. -/
structure Local (cluster : Cluster) (position : Nat) (operations : List Operation) : Prop where
  concerned : ∀ operation ∈ operations, concerns cluster.segments.length position operation = true
  kept : ∀ collection, .drop collection ∉ operations

/-- Operations on documents of one segment do nothing to those of another. -/
theorem Local.effects_elsewhere (own : cluster.Local position operations)
    (elsewhere : cluster.segmentOf collection id ≠ position) (found : Option Json) :
    Operation.effects operations collection id found = found := by
  have idle : operations.filter
      (concerns cluster.segments.length (cluster.segmentOf collection id)) = [] := by
    apply List.filter_eq_nil_iff.mpr
    intro operation member
    have concerned := own.concerned operation member
    cases operation with
    | put changed other stored =>
        rw [concerns, decide_eq_true_iff] at concerned ⊢
        intro here
        exact elsewhere (here.symm.trans concerned)
    | delete changed other =>
        rw [concerns, decide_eq_true_iff] at concerned ⊢
        intro here
        exact elsewhere (here.symm.trans concerned)
    | drop changed => exact absurd member (own.kept changed)
  rw [← Operation.effects_filter effect_of_not_concerns, idle]
  rfl

/-- A share does to every document what its operations do. -/
theorem document?_performShare (place : cluster.segments[position]? = some name)
    (own : cluster.Local position operations) (collection id : String) :
    (cluster.performShare (name, operations)).document? collection id =
      Operation.effects operations collection id (cluster.document? collection id) := by
  have nonempty : cluster.segments ≠ [] := List.ne_nil_of_mem (List.mem_of_getElem? place)
  rcases exists_owner nonempty collection id with ⟨owner, owns⟩
  have still : (cluster.performShare (name, operations)).ownerOf collection id = .ok owner := owns
  rw [document?_eq owns, document?_eq still, node_performShare]
  split
  · rw [Node.document?_performAll]
  · next other =>
    rw [own.effects_elsewhere]
    intro here
    have home := (ownerOf_eq_ok_iff cluster collection id owner).mp owns
    rw [here, place] at home
    exact other (Option.some.inj home).symm

theorem allOnline_performShare (online : cluster.AllOnline)
    (share : String × List Operation) : (cluster.performShare share).AllOnline := by
  intro other member
  rw [node_performShare]
  split
  · rw [Node.online_performAll]
    exact online other member
  · exact online other member

/-! ## Calls -/

theorem local_nil (cluster : Cluster) (position : Nat) : cluster.Local position [] where
  concerned := List.forall_mem_nil _
  kept _ := List.not_mem_nil

theorem local_put (cluster : Cluster) (collection id : String) (stored : Json) :
    cluster.Local (cluster.segmentOf collection id) [.put collection id stored] where
  concerned := List.forall_mem_singleton.mpr (decide_eq_true rfl)
  kept _ member := nomatch List.mem_singleton.mp member

theorem local_delete (cluster : Cluster) (collection id : String) :
    cluster.Local (cluster.segmentOf collection id) [.delete collection id] where
  concerned := List.forall_mem_singleton.mpr (decide_eq_true rfl)
  kept _ member := nomatch List.mem_singleton.mp member

/-- While all nodes can be reached, what a call leaves is a cluster of the same segments, which
can be reached too, and its documents are what operations make of those before. -/
structure Carries (operations : List Operation) (cluster after : Cluster) : Prop where
  segments : after.segments = cluster.segments
  online : cluster.AllOnline → after.AllOnline
  document? : ∀ collection id, after.document? collection id =
    Operation.effects operations collection id (cluster.document? collection id)

theorem Carries.refl (cluster : Cluster) : Carries [] cluster cluster where
  segments := rfl
  online := fun online => online
  document? _ _ := rfl

theorem carries_performShare (place : cluster.segments[position]? = some name)
    (own : cluster.Local position operations) :
    Carries operations cluster (cluster.performShare (name, operations)) where
  segments := rfl
  online := fun online => allOnline_performShare online _
  document? := document?_performShare place own

theorem carries_put (nonempty : cluster.segments ≠ []) (online : cluster.AllOnline)
    (collection id : String) (value : Json) :
    Carries (Operation.forPut collection id value) cluster
      (cluster.put collection id value).2 := by
  rcases exists_online_owner nonempty online collection id with ⟨name, owner, up⟩
  have place := (ownerOf_eq_ok_iff cluster collection id name).mp owner
  rw [put, Operation.forPut, owner]
  cases Document.withId id value with
  | error cause => exact .refl cluster
  | ok stored =>
      have performed := carries_performShare place (local_put cluster collection id stored)
      simp only [atNode, Node.put, Node.call, up, if_true]
      exact performed

theorem carries_delete (nonempty : cluster.segments ≠ []) (online : cluster.AllOnline)
    (collection id : String) :
    Carries (if (cluster.document? collection id).isSome then [.delete collection id] else [])
      cluster (cluster.delete collection id).2 := by
  rcases exists_online_owner nonempty online collection id with ⟨name, owner, up⟩
  have place := (ownerOf_eq_ok_iff cluster collection id name).mp owner
  rw [delete, document?_eq owner, owner]
  simp only [atNode, Node.remove, Node.call, up, if_true]
  cases (cluster.node name).document? collection id with
  | none => exact carries_performShare place (local_nil cluster _)
  | some stored => exact carries_performShare place (local_delete cluster collection id)

/-! ## Transactions -/

/-- The share of a segment, by the name of its node and its position. -/
def shareAt (cluster : Cluster) (operations : List Operation) (place : String × Nat) :
    String × List Operation :=
  (place.1, operations.filter (concerns cluster.segments.length place.2))

theorem local_shareAt (kept : ∀ collection, .drop collection ∉ operations)
    (place : String × Nat) : cluster.Local place.2 (cluster.shareAt operations place).2 where
  concerned _ member := (List.mem_filter.mp member).2
  kept collection member := kept collection (List.mem_filter.mp member).1

/-- Shares depend on the number of segments alone. -/
theorem shareAt_congr {after : Cluster} (segments : after.segments = cluster.segments) :
    after.shareAt operations = cluster.shareAt operations := by
  funext place
  rw [shareAt, shareAt, segments]

/-- The share of a segment does to the documents of that segment what all operations do, and
nothing to the others. -/
theorem document?_of_shareAt {place : String × Nat} {after : Cluster}
    (carries : Carries (cluster.shareAt operations place).2 cluster after)
    (kept : ∀ collection, .drop collection ∉ operations) (collection id : String) :
    after.document? collection id =
      if cluster.segmentOf collection id = place.2 then
        Operation.effects operations collection id (cluster.document? collection id)
      else cluster.document? collection id := by
  rw [carries.document?]
  split
  · next here =>
    rw [shareAt, ← here]
    exact Operation.effects_filter effect_of_not_concerns _ _
  · next elsewhere =>
    exact (local_shareAt kept place).effects_elsewhere elsewhere _

/-- The first of some shares is carried out or, where it is empty, left out. -/
theorem exists_carries_first (kept : ∀ collection, .drop collection ∉ operations)
    {place : String × Nat} (placed : cluster.segments[place.2]? = some place.1)
    (rest : List (String × List Operation)) :
    ∃ after, Carries (cluster.shareAt operations place).2 cluster after ∧
      (((cluster.shareAt operations place :: rest).filter fun share => ¬share.2.isEmpty).foldl
          performShare cluster) =
        (rest.filter fun share => ¬share.2.isEmpty).foldl performShare after := by
  by_cases idle : (cluster.shareAt operations place).2 = []
  · refine ⟨cluster, ?_, ?_⟩
    · rw [idle]
      exact .refl cluster
    · rw [List.filter_cons_of_neg (by simp [idle])]
  · refine ⟨_, carries_performShare placed (local_shareAt kept place), ?_⟩
    rw [List.filter_cons_of_pos (by simpa using idle)]
    rfl

/-- Shares of different segments do to a document what all operations do, if its segment is
among them. -/
theorem foldl_shares (kept : ∀ collection, .drop collection ∉ operations)
    {places : List (String × Nat)} (distinct : (places.map Prod.snd).Nodup)
    (placed : ∀ place ∈ places, cluster.segments[place.2]? = some place.1) :
    let after := ((places.map (cluster.shareAt operations)).filter
      fun share => ¬share.2.isEmpty).foldl performShare cluster
    (cluster.AllOnline → after.AllOnline) ∧ ∀ collection id, after.document? collection id =
      if cluster.segmentOf collection id ∈ places.map Prod.snd then
        Operation.effects operations collection id (cluster.document? collection id)
      else cluster.document? collection id := by
  induction places generalizing cluster with
  | nil => exact ⟨fun online => online, fun _ _ => rfl⟩
  | cons place rest ih =>
      rw [List.map_cons, List.nodup_cons] at distinct
      rw [List.forall_mem_cons] at placed
      rcases exists_carries_first kept placed.1 (rest.map (cluster.shareAt operations)) with
        ⟨between, carries, same⟩
      have first := document?_of_shareAt carries kept
      rw [List.map_cons, same, ← shareAt_congr carries.segments]
      rcases ih distinct.2 (carries.segments ▸ placed.2) with ⟨online, later⟩
      refine ⟨fun before => online (carries.online before), ?_⟩
      intro collection id
      have still : between.segmentOf collection id = cluster.segmentOf collection id := by
        rw [segmentOf, segmentOf, carries.segments]
      rw [later, first, still]
      by_cases here : cluster.segmentOf collection id = place.2
      · have absent : cluster.segmentOf collection id ∉ rest.map Prod.snd := here ▸ distinct.1
        have present : cluster.segmentOf collection id ∈ (place :: rest).map Prod.snd :=
          List.mem_cons.mpr (Or.inl here)
        rw [if_pos here, if_neg absent, if_pos present]
      · simp only [List.map_cons, List.mem_cons, here, if_false, false_or]

/-- The shares of all segments do to every document what all operations do. -/
theorem foldl_all_shares (nonempty : cluster.segments ≠ [])
    (kept : ∀ collection, .drop collection ∉ operations) :
    let after := (cluster.shares operations).foldl performShare cluster
    (cluster.AllOnline → after.AllOnline) ∧ ∀ collection id, after.document? collection id =
      Operation.effects operations collection id (cluster.document? collection id) := by
  have positions : cluster.segments.zipIdx.map Prod.snd = List.range cluster.segments.length := by
    rw [List.zipIdx_map_snd, List.range_eq_range']
  have distinct : (cluster.segments.zipIdx.map Prod.snd).Nodup := by
    rw [positions]
    exact List.nodup_range
  have placed : ∀ place ∈ cluster.segments.zipIdx, cluster.segments[place.2]? = some place.1 :=
    fun _ member => List.mem_zipIdx_iff_getElem?.mp member
  rcases foldl_shares kept distinct placed with ⟨still, documents⟩
  refine ⟨still, ?_⟩
  intro collection id
  apply (documents collection id).trans
  rw [if_pos]
  rw [positions, List.mem_range]
  exact Nat.mod_lt _ (List.length_pos_iff.mpr nonempty)

/-- While all nodes can be reached, a transaction that drops no collection is carried out as
in one map. -/
theorem carries_commit (nonempty : cluster.segments ≠ []) (online : cluster.AllOnline)
    (kept : ∀ collection, .drop collection ∉ operations) :
    Carries operations cluster (commit operations cluster).2 := by
  rcases foldl_all_shares nonempty kept with ⟨still, documents⟩
  rw [commit_eq_of_online nonempty online]
  exact ⟨segments_foldl_performShare _ cluster, still, documents⟩

end Polystore.Cluster
