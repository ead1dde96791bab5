import Polystore.Proofs.Cluster.Contents

/-!
# Commits over several segments

A commit is stopped by an offline node only if some operation is for that node, and then
it changes nothing.  Otherwise the cluster holds afterwards what one map of all documents
would hold, and every document still lies on its owner alone.
-/

namespace Polystore

/-- Documents in their stored form, by collection and id. -/
abbrev Contents := String → String → Option Json

namespace Contents

/-- What an operation makes of the documents. -/
def perform (contents : Contents) : Operation → Contents
  | .put collection id stored => fun other name =>
      if other = collection ∧ name = id then some stored else contents other name
  | .delete collection id => fun other name =>
      if other = collection ∧ name = id then none else contents other name
  | .drop collection => fun other name =>
      if other = collection then none else contents other name

/-- What operations in order make of the documents. -/
def performAll (contents : Contents) (operations : List Operation) : Contents :=
  operations.foldl perform contents

theorem performAll_apply (contents : Contents) (operations : List Operation)
    (collection id : String) :
    contents.performAll operations collection id =
      Operation.effects operations collection id (contents collection id) := by
  induction operations generalizing contents with
  | nil => rfl
  | cons operation rest ih =>
      have first : contents.perform operation collection id =
          operation.effect collection id (contents collection id) := by
        cases operation <;> rfl
      rw [Operation.effects_cons, ← first]
      exact ih (contents.perform operation)

end Contents

namespace Cluster

variable {cluster : Cluster}

/-! ## The nodes that a commit needs -/

/-- An operation is for a node: it drops a collection, or it changes a document that the
node owns. -/
def Involves (cluster : Cluster) (name : String) : Operation → Prop
  | .put collection id _ | .delete collection id => cluster.ownerOf collection id = .ok name
  | .drop _ => name ∈ cluster.segments

/-- Some node that an operation is for cannot be reached. -/
def Obstructs (cluster : Cluster) (operations : List Operation) : Prop :=
  ∃ name, (cluster.node name).online = false ∧ ∃ operation ∈ operations,
    cluster.Involves name operation

theorem Involves.mem_segments {name : String} {operation : Operation}
    (involves : cluster.Involves name operation) : name ∈ cluster.segments := by
  cases operation with
  | put collection id stored => exact List.mem_of_getElem? ((ownerOf_eq_ok_iff _ _ _ _).mp involves)
  | delete collection id => exact List.mem_of_getElem? ((ownerOf_eq_ok_iff _ _ _ _).mp involves)
  | drop collection => exact involves

/-- Only the nodes of segments can obstruct a commit. -/
theorem exists_segment_iff_obstructs (operations : List Operation) :
    (∃ name ∈ cluster.segments, (cluster.node name).online = false ∧
      ∃ operation ∈ operations, cluster.Involves name operation) ↔
        cluster.Obstructs operations := by
  constructor
  · rintro ⟨name, -, obstructs⟩
    exact ⟨name, obstructs⟩
  · rintro ⟨name, offline, operation, listed, involves⟩
    exact ⟨name, involves.mem_segments, offline, operation, listed, involves⟩

instance (name : String) : DecidablePred (cluster.Involves name)
  | .put collection id _ | .delete collection id =>
      decidable_of_iff _ (ownerOf_eq_ok_iff cluster collection id name).symm
  | .drop _ => inferInstanceAs (Decidable (name ∈ cluster.segments))

instance (operations : List Operation) : Decidable (cluster.Obstructs operations) :=
  decidable_of_iff _ (exists_segment_iff_obstructs operations)

/-- The operations of a share are those that are for its node. -/
theorem concerns_iff_involves (distinct : cluster.segments.Nodup) {position : Nat} {name : String}
    (place : cluster.segments[position]? = some name) (operation : Operation) :
    concerns cluster.segments.length position operation = true ↔
      cluster.Involves name operation := by
  have owns (collection id : String) :
      cluster.segmentOf collection id = position ↔ cluster.ownerOf collection id = .ok name := by
    rw [ownerOf_eq_ok_iff]
    constructor
    · rintro rfl
      exact place
    · intro home
      exact position_unique distinct home place
  cases operation with
  | put collection id stored => exact decide_eq_true_iff.trans (owns collection id)
  | delete collection id => exact decide_eq_true_iff.trans (owns collection id)
  | drop collection =>
      constructor
      · intro _
        exact List.mem_of_getElem? place
      · intro _
        rfl

/-- The nodes that have a share are those that some operation is for. -/
theorem exists_share_iff (distinct : cluster.segments.Nodup) (operations : List Operation)
    (name : String) :
    (∃ share ∈ cluster.shares operations, share.1 = name) ↔
      ∃ operation ∈ operations, cluster.Involves name operation := by
  constructor
  · rintro ⟨share, member, rfl⟩
    obtain ⟨⟨position, place, same⟩, some⟩ := (mem_shares_iff _ _ _).mp member
    obtain ⟨operation, chosen⟩ := List.exists_mem_of_ne_nil _ some
    rw [same] at chosen
    obtain ⟨listed, concerned⟩ := List.mem_filter.mp chosen
    exact ⟨operation, listed, (concerns_iff_involves distinct place operation).mp concerned⟩
  · rintro ⟨operation, listed, involves⟩
    obtain ⟨position, place⟩ := List.getElem?_of_mem involves.mem_segments
    have concerned := (concerns_iff_involves distinct place operation).mpr involves
    refine ⟨(name, operations.filter (concerns cluster.segments.length position)), ?_, rfl⟩
    apply (mem_shares_iff _ _ _).mpr
    constructor
    · exact ⟨position, place, rfl⟩
    · exact List.ne_nil_of_mem (List.mem_filter.mpr ⟨listed, concerned⟩)

/-- An obstructed commit fails and changes nothing. -/
theorem commit_of_obstructs (nonempty : cluster.segments ≠ []) (distinct : cluster.segments.Nodup)
    {operations : List Operation} (obstructs : cluster.Obstructs operations) :
    ∃ cause, cause.kind = .transportFailure ∧
      commit operations cluster = (.error cause, cluster) := by
  obtain ⟨name, offline, involved⟩ := obstructs
  obtain ⟨share, member, rfl⟩ := (exists_share_iff distinct operations name).mpr involved
  rw [commit, if_neg nonempty]
  dsimp only
  cases found : (cluster.shares operations).find? fun share =>
      (cluster.node share.1).online = false with
  | some share => exact ⟨_, rfl, rfl⟩
  | none =>
      have online := List.find?_eq_none.mp found share member
      rw [offline] at online
      contradiction

/-- A commit that is not obstructed carries out all operations. -/
theorem commit_of_not_obstructs (nonempty : cluster.segments ≠ [])
    (distinct : cluster.segments.Nodup) {operations : List Operation}
    (free : ¬cluster.Obstructs operations) :
    ∃ after, commit operations cluster = (.ok (), after) ∧ Performs operations cluster after := by
  have reached : ((cluster.shares operations).find? fun share =>
      (cluster.node share.1).online = false) = none := by
    apply List.find?_eq_none.mpr
    intro share member offline
    apply free
    refine ⟨share.1, of_decide_eq_true offline, ?_⟩
    exact (exists_share_iff distinct operations share.1).mp ⟨share, member, rfl⟩
  refine ⟨_, ?_, performs_shares distinct operations⟩
  rw [commit, if_neg nonempty]
  dsimp only
  rw [reached]

/-- What stands in the way of a commit is not changed by others. -/
theorem Performs.obstructs_iff {operations : List Operation} {after : Cluster}
    (performs : Performs operations cluster after) (more : List Operation) :
    after.Obstructs more ↔ cluster.Obstructs more := by
  have involves (name : String) (operation : Operation) :
      after.Involves name operation ↔ cluster.Involves name operation := by
    cases operation with
    | put collection id stored => rw [Involves, Involves, performs.ownerOf]
    | delete collection id => rw [Involves, Involves, performs.ownerOf]
    | drop collection => rw [Involves, Involves, performs.segments]
  simp only [Obstructs, involves, performs.online]

/-! ## Where documents lie -/

/-- Every document lies on the node that owns it. -/
def Placed (cluster : Cluster) : Prop :=
  ∀ name ∈ cluster.segments, ∀ {collection id : String} {stored : Json},
    (cluster.node name).document? collection id = some stored →
      cluster.ownerOf collection id = .ok name

/-- Where operations put nothing under an id, no document appears. -/
theorem effects_none_of_respects {collection id : String} {operations : List Operation}
    (elsewhere : ∀ operation ∈ operations, operation.Respects fun changed name _ =>
      ¬(collection = changed ∧ id = name)) :
    Operation.effects operations collection id none = none := by
  apply Operation.effects_of_idle
  intro operation member
  cases operation with
  | put changed name stored => exact if_neg (elsewhere _ member)
  | delete changed name => exact ite_self none
  | drop changed => exact ite_self none

/-- A change by shares leaves documents that lie on their owners there. -/
theorem Performs.document?_elsewhere {operations : List Operation} {after : Cluster}
    (performs : Performs operations cluster after) (distinct : cluster.segments.Nodup)
    (placed : cluster.Placed) {collection id owner name : String}
    (owns : cluster.ownerOf collection id = .ok owner) (member : name ∈ cluster.segments)
    (other : name ≠ owner) : (after.node name).document? collection id = none := by
  obtain ⟨position, place⟩ := List.getElem?_of_mem member
  have before : (cluster.node name).document? collection id = none := by
    cases found : (cluster.node name).document? collection id with
    | none => rfl
    | some stored =>
        have home := placed name member found
        rw [owns] at home
        exact absurd (Except.ok.inj home).symm other
  rw [Node.document?, performs.documents place, ← Node.document?, Node.document?_performAll, before]
  apply effects_none_of_respects
  intro operation chosen
  have involves := (concerns_iff_involves distinct place operation).mp (List.mem_filter.mp chosen).2
  cases operation with
  | put changed id' stored =>
      rintro ⟨rfl, rfl⟩
      have home : cluster.ownerOf collection id = .ok name := involves
      rw [owns] at home
      exact other (Except.ok.inj home).symm
  | delete changed id' => trivial
  | drop changed => trivial

/-- A commit fails exactly if a node that it needs is offline, and then nothing has changed;
otherwise every owner holds what one map of all documents would hold, and no other node
holds it. -/
theorem commit_eq_one_map (nonempty : cluster.segments ≠ []) (distinct : cluster.segments.Nodup)
    (operations : List Operation) :
    (cluster.Obstructs operations → ∃ cause, cause.kind = .transportFailure ∧
      commit operations cluster = (.error cause, cluster)) ∧
    (¬cluster.Obstructs operations → ∃ after, commit operations cluster = (.ok (), after) ∧
      (cluster.Placed → ∀ collection id, ∃ owner, cluster.ownerOf collection id = .ok owner ∧
        (after.node owner).document? collection id =
          Contents.performAll cluster.document? operations collection id ∧
        ∀ name ∈ cluster.segments, name ≠ owner →
          (after.node name).document? collection id = none)) := by
  constructor
  · exact commit_of_obstructs nonempty distinct
  · intro free
    obtain ⟨after, committed, performs⟩ := commit_of_not_obstructs nonempty distinct free
    refine ⟨after, committed, ?_⟩
    intro placed collection id
    obtain ⟨owner, owns⟩ := exists_owner nonempty collection id
    refine ⟨owner, owns, ?_, ?_⟩
    · rw [← document?_eq ((performs.ownerOf collection id).trans owns),
        performs.document? nonempty, Contents.performAll_apply]
    · intro name member other
      exact performs.document?_elsewhere distinct placed owns member other

/-- An offline node stops a transaction that drops a collection; once it is back, the document
that is put after the drop is there, on its owner alone. -/
theorem commit_over_two_nodes :
    let shelf : Cluster := { segments := ["east", "west"] }
    let operations : List Operation := [
      .put "books" "a" .null, .drop "books", .put "books" "a" (.bool true)]
    (∃ cause, cause.kind = .transportFailure ∧
      commit operations (shelf.setOffline "west" true) =
        (.error cause, shelf.setOffline "west" true)) ∧
    ∃ after, commit operations shelf = (.ok (), after) ∧
      ∃ owner, shelf.ownerOf "books" "a" = .ok owner ∧
        (after.node owner).document? "books" "a" = some (.bool true) ∧
        ∀ name ∈ shelf.segments, name ≠ owner →
          (after.node name).document? "books" "a" = none := by
  intro shelf operations
  constructor
  · apply (commit_eq_one_map (by decide) (by decide) operations).1
    refine ⟨"west", rfl, .drop "books", ?_, ?_⟩
    · exact List.mem_cons_of_mem _ List.mem_cons_self
    · exact List.mem_cons_of_mem _ List.mem_cons_self
  · have free : ¬shelf.Obstructs operations := by
      rintro ⟨name, offline, -⟩
      contradiction
    obtain ⟨after, committed, holds⟩ :=
      (commit_eq_one_map (by decide) (by decide) operations).2 free
    have placed : shelf.Placed := by
      intro name member collection id stored found
      contradiction
    exact ⟨after, committed, holds placed "books" "a"⟩

end Cluster

end Polystore
