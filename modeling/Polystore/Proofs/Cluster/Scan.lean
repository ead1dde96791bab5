import Polystore.Proofs.Cluster.Contents

/-!
# Reading all segments

A scan fails exactly if some node cannot be reached.  Otherwise it finds the documents
of a collection that pass the test, each once, whatever the number of segments.
-/

namespace Polystore

namespace Node

/-- The stored documents of a collection are the documents of its ids. -/
theorem mem_values_iff {kind : String → String → Json → Prop} {node : Node}
    (keeps : node.Keeps kind) (collection : String) (stored : Json) :
    stored ∈ (node.documents collection).values ↔
      ∃ id, node.document? collection id = some stored := by
  rw [Keyed.values, List.mem_map]
  constructor
  · rintro ⟨⟨id, document⟩, member, rfl⟩
    exact ⟨id, (Keyed.mem_iff_get?_eq_some (keeps.ordered collection) id document).mp member⟩
  · rintro ⟨id, found⟩
    exact ⟨(id, stored), (Keyed.mem_iff_get?_eq_some (keeps.ordered collection) id stored).mpr found,
      rfl⟩

/-- Documents that tell their ids are kept under different ids. -/
theorem pairwise_values {kind : String → String → Json → Prop} {node : Node}
    (keeps : node.Keeps kind)
    (named : ∀ {collection id stored}, kind collection id stored → Document.idOf? stored = some id)
    (collection : String) :
    (node.documents collection).values.Pairwise fun left right =>
      Document.idOf? left ≠ Document.idOf? right := by
  have ordered := keeps.ordered collection
  have told {entry : String × Json} (member : entry ∈ node.documents collection) :
      Document.idOf? entry.2 = some entry.1 :=
    named (keeps.kept ((Keyed.mem_iff_get?_eq_some ordered entry.1 entry.2).mp member))
  refine List.pairwise_map.mpr (List.Pairwise.imp_of_mem ?_ ordered)
  intro left right leftMember rightMember before same
  rw [told leftMember, told rightMember] at same
  rw [Option.some.inj same] at before
  exact Std.lt_irrefl before

end Node

namespace Cluster

theorem scanFrom_of_online {cluster : Cluster} (collection : String) (keep : Json → Bool)
    {names : List String} (online : ∀ name ∈ names, (cluster.node name).online = true) :
    cluster.scanFrom collection keep names = .ok (names.flatMap fun name =>
      ((cluster.node name).documents collection).values.filter keep) := by
  induction names with
  | nil => rfl
  | cons first rest ih =>
      rw [scanFrom, Node.scan, if_pos (online first List.mem_cons_self)]
      dsimp only
      rw [ih fun name member => online name (List.mem_cons_of_mem _ member)]
      rfl

theorem scanFrom_of_offline {cluster : Cluster} (collection : String) (keep : Json → Bool)
    {names : List String} {name : String} (member : name ∈ names)
    (offline : (cluster.node name).online = false) :
    ∃ address, cluster.scanFrom collection keep names = .error (.unreachable address) := by
  induction names with
  | nil => contradiction
  | cons first rest ih =>
      rw [scanFrom, Node.scan]
      cases here : (cluster.node first).online with
      | false => exact ⟨_, rfl⟩
      | true =>
          rcases List.mem_cons.mp member with rfl | later
          · rw [here] at offline
            contradiction
          · obtain ⟨address, failed⟩ := ih later
            simp only [if_true]
            exact ⟨address, by rw [failed]⟩

/-- Every segment's documents that pass a test. -/
def passing (cluster : Cluster) (collection : String) (keep : Json → Bool) : List Json :=
  cluster.segments.flatMap fun name =>
    ((cluster.node name).documents collection).values.filter keep

theorem scan_of_allOnline {cluster : Cluster} (online : cluster.AllOnline) (collection : String)
    (keep : Json → Bool) : cluster.scan collection keep = .ok (cluster.passing collection keep) :=
  scanFrom_of_online collection keep online

theorem scan_of_not_allOnline {cluster : Cluster} (offline : ¬cluster.AllOnline)
    (collection : String) (keep : Json → Bool) :
    ∃ address, cluster.scan collection keep = .error (.unreachable address) := by
  obtain ⟨name, missing⟩ := Classical.not_forall.mp offline
  obtain ⟨member, missing⟩ := Classical.not_imp.mp missing
  exact scanFrom_of_offline collection keep member (Bool.not_eq_true _ ▸ missing)

/-- A scan finds what lies on the owners and passes the test. -/
theorem mem_passing_iff {kind : String → String → Json → Prop} {cluster : Cluster}
    (keeps : cluster.Keeps kind) (collection : String) (keep : Json → Bool) (stored : Json) :
    stored ∈ cluster.passing collection keep ↔
      (∃ id, cluster.document? collection id = some stored) ∧ keep stored = true := by
  rw [passing, List.mem_flatMap]
  constructor
  · rintro ⟨name, member, found⟩
    obtain ⟨position, place⟩ := List.getElem?_of_mem member
    obtain ⟨found, kept⟩ := List.mem_filter.mp found
    obtain ⟨id, found⟩ := (Node.mem_values_iff (keeps.nodes place) collection stored).mp found
    obtain ⟨home, -⟩ := (keeps.nodes place).kept found
    refine ⟨⟨id, ?_⟩, kept⟩
    rw [document?_eq ((ownerOf_eq_ok_iff _ _ _ _).mpr (home ▸ place)), found]
  · rintro ⟨⟨id, found⟩, kept⟩
    obtain ⟨name, owner⟩ := exists_owner keeps.nonempty collection id
    have place := (ownerOf_eq_ok_iff _ _ _ _).mp owner
    rw [document?_eq owner] at found
    refine ⟨name, List.mem_of_getElem? place, List.mem_filter.mpr ⟨?_, kept⟩⟩
    exact (Node.mem_values_iff (keeps.nodes place) collection stored).mpr ⟨id, found⟩

/-- A scan finds no two documents of one id. -/
theorem pairwise_passing {kind : String → String → Json → Prop} {cluster : Cluster}
    (keeps : cluster.Keeps kind)
    (named : ∀ {collection id stored}, kind collection id stored → Document.idOf? stored = some id)
    (collection : String) (keep : Json → Bool) :
    (cluster.passing collection keep).Pairwise fun left right =>
      Document.idOf? left ≠ Document.idOf? right := by
  rw [passing, List.pairwise_flatMap]
  constructor
  · intro name member
    obtain ⟨position, place⟩ := List.getElem?_of_mem member
    exact (Node.pairwise_values (keeps.nodes place) (fun kept => named kept.2) collection).filter keep
  · refine List.Pairwise.imp_of_mem ?_ keeps.distinct
    intro first second firstMember secondMember differ left leftFound right rightFound same
    obtain ⟨position, place⟩ := List.getElem?_of_mem firstMember
    obtain ⟨other, otherPlace⟩ := List.getElem?_of_mem secondMember
    obtain ⟨id, leftFound⟩ := (Node.mem_values_iff (keeps.nodes place) collection left).mp
      (List.mem_filter.mp leftFound).1
    obtain ⟨otherId, rightFound⟩ := (Node.mem_values_iff (keeps.nodes otherPlace) collection right).mp
      (List.mem_filter.mp rightFound).1
    obtain ⟨home, leftKind⟩ := (keeps.nodes place).kept leftFound
    obtain ⟨otherHome, rightKind⟩ := (keeps.nodes otherPlace).kept rightFound
    rw [named leftKind, named rightKind] at same
    rw [Option.some.inj same] at home
    rw [home.symm.trans otherHome] at place
    exact differ (Option.some.inj (place.symm.trans otherPlace))

end Cluster

end Polystore
