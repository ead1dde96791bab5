import Polystore.Proofs.Cluster.Online

/-!
# Where documents lie

Every document lies on the node that owns it, whether or not segments share nodes: a call
changes one node and puts documents there that the node owns.  A scan reads the node of every
segment, so it finds a document once for every segment that its owner keeps.
-/

namespace Polystore

/-! ## Calls of a node -/

namespace Node

/-- A call that does to the documents of a node what an operation does, or nothing. -/
def MayPerform (operation : Operation) (action : Node → Outcome Node Unit) : Prop :=
  ∀ node, (action node).2.online = node.online ∧
    ((action node).2.documents = node.documents ∨
      (action node).2.documents = (node.perform operation).documents)

theorem mayPerform_put (collection id : String) (stored : Json) :
    MayPerform (.put collection id stored) fun node => node.put collection id stored := by
  intro node
  dsimp only
  rw [put, call]
  split
  · exact ⟨rfl, Or.inr rfl⟩
  · exact ⟨rfl, Or.inl rfl⟩

theorem mayPerform_remove (collection id : String) :
    MayPerform (.delete collection id) fun node => node.remove collection id := by
  intro node
  dsimp only
  rw [remove, call]
  split
  · split
    · exact ⟨rfl, Or.inr rfl⟩
    · exact ⟨rfl, Or.inl rfl⟩
  · exact ⟨rfl, Or.inl rfl⟩

theorem mayPerform_createCollection (operation : Operation) (collection : String) :
    MayPerform operation fun node => node.createCollection collection := fun node =>
  ⟨node.online_createCollection collection, Or.inl (node.documents_createCollection collection)⟩

theorem mayPerform_dropCollection (collection : String) :
    MayPerform (.drop collection) fun node => node.dropCollection collection := by
  intro node
  dsimp only
  rw [dropCollection, call]
  split
  · exact ⟨rfl, Or.inr rfl⟩
  · exact ⟨rfl, Or.inl rfl⟩

end Node

/-- An operation puts only documents that tell their ids. -/
def Operation.IsNamed (operation : Operation) : Prop :=
  operation.Respects fun _ id stored => Document.idOf? stored = some id

namespace Cluster

/-- A document in its stored form, at the node that owns it. -/
def HomedAt (cluster : Cluster) (name collection id : String) (stored : Json) : Prop :=
  cluster.ownerOf collection id = .ok name ∧ Document.idOf? stored = some id

/-- A cluster of some segments whose nodes can be reached and hold documents that they own,
which tell their ids. -/
structure Homed (segments : List String) (cluster : Cluster) : Prop where
  same : cluster.segments = segments
  nonempty : cluster.segments ≠ []
  online : cluster.AllOnline
  nodes : ∀ name, (cluster.node name).Keeps (cluster.HomedAt name)

/-! ## Calls of a cluster -/

variable {segments : List String} {cluster : Cluster} {name : String}

/-- A node is replaced by one that can be reached and holds what it owns. -/
theorem Homed.setNode (homed : cluster.Homed segments) {node : Node}
    (online : node.online = (cluster.node name).online)
    (keeps : node.Keeps (cluster.HomedAt name)) :
    (cluster.setNode name node).Homed segments where
  same := homed.same
  nonempty := homed.nonempty
  online other member := by
    rw [node_setNode]
    split
    · next same =>
      rw [online, ← same]
      exact homed.online other member
    · exact homed.online other member
  nodes other := by
    rw [node_setNode]
    split
    · next same =>
      rw [same]
      exact keeps
    · exact homed.nodes other

/-- A call of one node leaves every document at home. -/
theorem Homed.atNode (homed : cluster.Homed segments) {operation : Operation}
    (respects : operation.Respects (cluster.HomedAt name)) {action : Node → Outcome Node Unit}
    (acts : Node.MayPerform operation action) : (cluster.atNode name action).2.Homed segments := by
  rcases acts (cluster.node name) with ⟨online, same | performed⟩
  · exact homed.setNode online ((homed.nodes name).congr same)
  · exact homed.setNode online (((homed.nodes name).perform respects).congr performed)

theorem Homed.put (homed : cluster.Homed segments) (collection id : String) (value : Json) :
    (cluster.put collection id value).2.Homed segments := by
  rw [Cluster.put]
  split
  · exact homed
  · exact homed
  · next stored name form owner =>
    have respects : (Operation.put collection id stored).Respects (cluster.HomedAt name) :=
      ⟨owner, Document.idOf?_of_withId form⟩
    exact homed.atNode respects (Node.mayPerform_put collection id stored)

theorem Homed.delete (homed : cluster.Homed segments) (collection id : String) :
    (cluster.delete collection id).2.Homed segments := by
  rw [Cluster.delete]
  split
  · exact homed
  · next name owner =>
    have respects : (Operation.delete collection id).Respects (cluster.HomedAt name) := trivial
    exact homed.atNode respects (Node.mayPerform_remove collection id)

/-- A round of calls that drop a collection, or nothing, leaves every document at home. -/
theorem Homed.forEach {collection : String} {action : Node → Outcome Node Unit}
    (acts : Node.MayPerform (.drop collection) action) {names : List String}
    (homed : cluster.Homed segments) : (Cluster.forEach action names cluster).2.Homed segments := by
  induction names generalizing cluster with
  | nil => exact homed
  | cons first rest ih =>
      have respects : (Operation.drop collection).Respects (cluster.HomedAt first) := trivial
      have called := homed.atNode respects acts
      rw [Cluster.forEach]
      split
      · next failed =>
        rw [failed] at called
        exact called
      · next succeeded =>
        rw [succeeded] at called
        exact ih called

theorem Homed.createCollection (homed : cluster.Homed segments) (collection : String) :
    (cluster.createCollection collection).2.Homed segments :=
  homed.forEach (Node.mayPerform_createCollection (.drop collection) collection)

theorem Homed.dropCollection (homed : cluster.Homed segments) (collection : String) :
    (cluster.dropCollection collection).2.Homed segments :=
  homed.forEach (Node.mayPerform_dropCollection collection)

/-! ## Transactions -/

/-- A share of named operations puts documents that its segment owns. -/
theorem Homed.performShare (homed : cluster.Homed segments) {position : Nat}
    (place : cluster.segments[position]? = some name) {operations : List Operation}
    (named : ∀ operation ∈ operations, operation.IsNamed)
    (concerned : ∀ operation ∈ operations,
      concerns cluster.segments.length position operation = true) :
    (cluster.performShare (name, operations)).Homed segments := by
  refine homed.setNode (Node.online_performAll _ _) ((homed.nodes name).performAll ?_)
  intro operation member
  have tells := named operation member
  have home := concerned operation member
  cases operation with
  | put collection id stored =>
      have owned : cluster.segmentOf collection id = position := of_decide_eq_true home
      exact ⟨(ownerOf_eq_ok_iff _ _ _ _).mpr (owned ▸ place), tells⟩
  | delete collection id => trivial
  | drop collection => trivial

theorem Homed.foldl_performShare {shares : List (String × List Operation)}
    (homed : cluster.Homed segments)
    (placed : ∀ share ∈ shares, ∃ position : Nat, cluster.segments[position]? = some share.1 ∧
      ∀ operation ∈ share.2, concerns cluster.segments.length position operation = true)
    (named : ∀ share ∈ shares, ∀ operation ∈ share.2, operation.IsNamed) :
    (shares.foldl Cluster.performShare cluster).Homed segments := by
  induction shares generalizing cluster with
  | nil => exact homed
  | cons share rest ih =>
      rw [List.forall_mem_cons] at placed named
      obtain ⟨⟨position, place, concerned⟩, restPlaced⟩ := placed
      exact ih (homed.performShare place named.1 concerned) restPlaced named.2

theorem Homed.commit (homed : cluster.Homed segments) {operations : List Operation}
    (named : ∀ operation ∈ operations, operation.IsNamed) :
    (Cluster.commit operations cluster).2.Homed segments := by
  rw [commit_eq_of_online homed.nonempty homed.online]
  refine homed.foldl_performShare ?_ ?_
  · intro share member
    obtain ⟨⟨position, place, same⟩, -⟩ := (mem_shares_iff _ _ _).mp member
    refine ⟨position, place, fun operation among => ?_⟩
    rw [same] at among
    exact (List.mem_filter.mp among).2
  · intro share member operation among
    obtain ⟨⟨position, place, same⟩, -⟩ := (mem_shares_iff _ _ _).mp member
    rw [same] at among
    exact named operation (List.mem_filter.mp among).1

/-! ## Scans -/

/-- What occurs in the lists of one name only occurs as often as there, for every time that
the name is listed. -/
theorem count_flatMap_of_owner {names : List String} {lists : String → List String}
    {owner item : String} (others : ∀ name, name ≠ owner → item ∉ lists name) :
    (names.flatMap lists).count item = names.count owner * (lists owner).count item := by
  induction names with
  | nil => rw [List.flatMap_nil, List.count_nil, List.count_nil, Nat.zero_mul]
  | cons first rest ih =>
      rw [List.flatMap_cons, List.count_append, ih, List.count_cons]
      by_cases same : first = owner
      · rw [same, if_pos (beq_self_eq_true owner), Nat.add_mul, Nat.one_mul, Nat.add_comm]
      · rw [if_neg (by simpa using same), List.count_eq_zero.mpr (others first same), Nat.zero_add,
          Nat.add_zero]

/-- The ids of the documents of a node that pass a test, each once. -/
theorem count_ids_of_node (homed : cluster.Homed segments) (name collection : String)
    (keep : Json → Bool) (id : String) :
    ((((cluster.node name).documents collection).values.filter keep).filterMap
        Document.idOf?).count id =
      if ((cluster.node name).document? collection id).any keep = true then 1 else 0 := by
  have keeps := homed.nodes name
  have apart := (Node.pairwise_values keeps And.right collection).filter keep
  have once : (((((cluster.node name).documents collection).values.filter keep).filterMap
      Document.idOf?)).Nodup := by
    refine List.pairwise_filterMap.mpr (apart.imp ?_)
    intro left right differ first firstTold second secondTold same
    rw [firstTold, secondTold, same] at differ
    exact differ rfl
  have told : id ∈ (((cluster.node name).documents collection).values.filter keep).filterMap
      Document.idOf? ↔ ((cluster.node name).document? collection id).any keep = true := by
    rw [List.mem_filterMap, Option.any_eq_true]
    constructor
    · rintro ⟨stored, member, told⟩
      obtain ⟨held, passes⟩ := List.mem_filter.mp member
      obtain ⟨other, found⟩ := (Node.mem_values_iff keeps collection stored).mp held
      have named := (keeps.kept found).2
      rw [told] at named
      cases named
      exact ⟨stored, found, passes⟩
    · rintro ⟨stored, found, passes⟩
      have held := (Node.mem_values_iff keeps collection stored).mpr ⟨id, found⟩
      exact ⟨stored, List.mem_filter.mpr ⟨held, passes⟩, (keeps.kept found).2⟩
  simp only [once.count, told]

/-- A scan finds a document that passes the test once for every segment of its owner. -/
theorem count_ids_of_passing (homed : cluster.Homed segments) {collection id : String}
    (owner : cluster.ownerOf collection id = .ok name) (keep : Json → Bool) :
    ((cluster.passing collection keep).filterMap Document.idOf?).count id =
      if (cluster.document? collection id).any keep = true then cluster.segments.count name
      else 0 := by
  have elsewhere (other : String) (differ : other ≠ name) :
      id ∉ (((cluster.node other).documents collection).values.filter keep).filterMap
        Document.idOf? := by
    rw [← List.count_eq_zero, count_ids_of_node homed]
    apply if_neg
    rw [Option.any_eq_true]
    rintro ⟨stored, found, -⟩
    have home := ((homed.nodes other).kept found).1
    rw [owner] at home
    cases home
    exact differ rfl
  rw [passing, List.filterMap_flatMap, count_flatMap_of_owner elsewhere,
    count_ids_of_node homed, document?_eq owner]
  split
  · exact Nat.mul_one _
  · exact Nat.mul_zero _

end Cluster

end Polystore
