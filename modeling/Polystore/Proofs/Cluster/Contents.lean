import Polystore.Cluster.Basic
import Polystore.Proofs.Cluster.Node

/-!
# What clusters hold

Every change of a cluster gives each segment its share of some operations: `Performs`
says so for a list of operations, and every operation of a cluster is shown to be such
a change once.  What holds of the documents of a cluster follows from that: the
document of an id changes as the operations in order change it, and a document lies on
the segment that owns it and nowhere else.
-/

namespace Polystore.Cluster

/-! ## Segments and owners -/

theorem ownerOf_eq_ok_iff (cluster : Cluster) (collection id name : String) :
    cluster.ownerOf collection id = .ok name ↔
      cluster.segments[cluster.segmentOf collection id]? = some name := by
  rw [ownerOf]
  cases cluster.segments[cluster.segmentOf collection id]? with
  | none => simp
  | some owner => simp

theorem exists_owner {cluster : Cluster} (nonempty : cluster.segments ≠ [])
    (collection id : String) : ∃ name, cluster.ownerOf collection id = .ok name := by
  have inside : cluster.segmentOf collection id < cluster.segments.length :=
    Nat.mod_lt _ (List.length_pos_iff.mpr nonempty)
  exact ⟨_, (ownerOf_eq_ok_iff _ _ _ _).mpr (List.getElem?_eq_getElem inside)⟩

/-- Distinct segments have distinct names. -/
theorem position_unique {cluster : Cluster} (distinct : cluster.segments.Nodup)
    {position other : Nat} {name : String} (first : cluster.segments[position]? = some name)
    (second : cluster.segments[other]? = some name) : position = other := by
  obtain ⟨inside, -⟩ := List.getElem?_eq_some_iff.mp first
  exact (List.getElem?_inj inside distinct).mp (first.trans second.symm)

/-- The stored form of the document of an id, on the segment that owns it. -/
def document? (cluster : Cluster) (collection id : String) : Option Json :=
  match cluster.ownerOf collection id with
  | .ok name => (cluster.node name).document? collection id
  | .error _ => none

theorem document?_eq {cluster : Cluster} {collection id name : String}
    (owner : cluster.ownerOf collection id = .ok name) :
    cluster.document? collection id = (cluster.node name).document? collection id := by
  rw [document?, owner]

/-! ## Shares of operations -/

/-- A segment is concerned by every operation with an effect on a document it owns. -/
theorem effect_of_not_concerns {cluster : Cluster} {collection id : String}
    (operation : Operation) (found : Option Json)
    (idle : concerns cluster.segments.length (cluster.segmentOf collection id) operation = false) :
    Operation.effect collection id found operation = found := by
  cases operation with
  | put changed name stored =>
      apply if_neg
      rintro ⟨rfl, rfl⟩
      exact Bool.eq_false_iff.mp idle (decide_eq_true rfl)
  | delete changed name =>
      apply if_neg
      rintro ⟨rfl, rfl⟩
      exact Bool.eq_false_iff.mp idle (decide_eq_true rfl)
  | drop changed => contradiction

/-- After a change every segment holds what its share of the operations makes of what it
held, and the network is as it was. -/
structure Performs (operations : List Operation) (cluster after : Cluster) : Prop where
  segments : after.segments = cluster.segments
  documents : ∀ {position : Nat} {name : String}, cluster.segments[position]? = some name →
    (after.node name).documents = ((cluster.node name).performAll
      (operations.filter (concerns cluster.segments.length position))).documents
  online : ∀ name, (after.node name).online = (cluster.node name).online

theorem Performs.refl (cluster : Cluster) : Performs [] cluster cluster where
  segments := rfl
  documents _ := rfl
  online _ := rfl

/-- Changes one after the other are one change. -/
theorem Performs.append {operations more : List Operation} {cluster between after : Cluster}
    (first : Performs operations cluster between) (later : Performs more between after) :
    Performs (operations ++ more) cluster after where
  segments := later.segments.trans first.segments
  documents {position name} place := by
    rw [later.documents (first.segments ▸ place), first.segments, List.filter_append]
    rw [Node.documents_performAll_congr (first.documents place)]
    rw [Node.performAll, Node.performAll, Node.performAll, List.foldl_append]
  online name := (later.online name).trans (first.online name)

theorem Performs.ownerOf {operations : List Operation} {cluster after : Cluster}
    (performs : Performs operations cluster after) (collection id : String) :
    after.ownerOf collection id = cluster.ownerOf collection id := by
  rw [Cluster.ownerOf, Cluster.ownerOf, segmentOf, segmentOf, performs.segments]

/-- The document of an id changes as the operations in order change it. -/
theorem Performs.document? {operations : List Operation} {cluster after : Cluster}
    (performs : Performs operations cluster after) (nonempty : cluster.segments ≠ [])
    (collection id : String) :
    after.document? collection id =
      Operation.effects operations collection id (cluster.document? collection id) := by
  obtain ⟨name, owner⟩ := exists_owner nonempty collection id
  have place := (ownerOf_eq_ok_iff cluster collection id name).mp owner
  rw [document?_eq owner, document?_eq ((performs.ownerOf collection id).trans owner),
    Node.document?, performs.documents place, ← Node.document?, Node.document?_performAll]
  exact Operation.effects_filter effect_of_not_concerns _ _

/-- A document that no operation for its node is about stays as it was. -/
theorem Performs.document?_of_idle {operations : List Operation} {cluster after : Cluster}
    (performs : Performs operations cluster after) {position : Nat} {name collection id : String}
    (place : cluster.segments[position]? = some name)
    (idle : ∀ operation ∈ operations, concerns cluster.segments.length position operation = true →
      Operation.effect collection id ((cluster.node name).document? collection id) operation =
        (cluster.node name).document? collection id) :
    (after.node name).document? collection id = (cluster.node name).document? collection id := by
  rw [Node.document?, performs.documents place, ← Node.document?, Node.document?_performAll]
  apply Operation.effects_of_idle
  intro operation member
  rw [List.mem_filter] at member
  exact idle operation member.1 member.2

/-! ## Nodes that come and go -/

theorem documents_setOffline (cluster : Cluster) (address : String) (offline : Bool)
    (name : String) :
    ((cluster.setOffline address offline).node name).documents = (cluster.node name).documents := by
  rw [setOffline, node_setNode]
  split
  · next same =>
    rw [same]
    rfl
  · rfl

theorem document?_setOffline (cluster : Cluster) (address : String) (offline : Bool)
    (collection id : String) :
    (cluster.setOffline address offline).document? collection id =
      cluster.document? collection id := by
  have owner : (cluster.setOffline address offline).ownerOf collection id =
      cluster.ownerOf collection id := rfl
  rw [document?, document?, owner]
  split
  · rw [Node.document?, documents_setOffline, ← Node.document?]
  · rfl

/-- A change is the same with a node taken off the network, or brought back, before it. -/
theorem Performs.setOffline {operations : List Operation} {cluster after : Cluster}
    (performs : Performs operations cluster after) (address : String) (offline : Bool) :
    Performs operations (cluster.setOffline address offline)
      (after.setOffline address offline) where
  segments := performs.segments
  documents {position name} place := by
    rw [documents_setOffline, performs.documents place]
    exact Node.documents_performAll_congr (documents_setOffline _ _ _ _).symm _
  online name := by
    rw [Cluster.setOffline, Cluster.setOffline, node_setNode, node_setNode]
    split
    · rfl
    · exact performs.online name

/-! ## Kinds of documents -/

/-- Every segment keeps documents that it owns, of some kind, and no two segments share
a node. -/
structure Keeps (kind : String → String → Json → Prop) (cluster : Cluster) : Prop where
  nonempty : cluster.segments ≠ []
  distinct : cluster.segments.Nodup
  nodes : ∀ {position : Nat} {name : String}, cluster.segments[position]? = some name →
    (cluster.node name).Keeps fun collection id stored =>
      cluster.segmentOf collection id = position ∧ kind collection id stored

/-- The document of an id is of the kind that is kept. -/
theorem Keeps.kept {kind : String → String → Json → Prop} {cluster : Cluster}
    (keeps : cluster.Keeps kind) {collection id : String} {stored : Json}
    (found : cluster.document? collection id = some stored) : kind collection id stored := by
  obtain ⟨name, owner⟩ := exists_owner keeps.nonempty collection id
  rw [document?_eq owner] at found
  exact ((keeps.nodes ((ownerOf_eq_ok_iff _ _ _ _).mp owner)).kept found).2

/-- The operations that a segment is given put documents that it owns. -/
theorem respects_of_concerns {kind : String → String → Json → Prop} {cluster : Cluster}
    {position : Nat} {operation : Operation} (respects : operation.Respects kind)
    (concerned : concerns cluster.segments.length position operation = true) :
    operation.Respects fun collection id stored =>
      cluster.segmentOf collection id = position ∧ kind collection id stored := by
  cases operation with
  | put collection id stored => exact ⟨of_decide_eq_true concerned, respects⟩
  | delete collection id => trivial
  | drop collection => trivial

theorem Performs.keeps {kind : String → String → Json → Prop} {operations : List Operation}
    {cluster after : Cluster} (performs : Performs operations cluster after)
    (keeps : cluster.Keeps kind) (respect : ∀ operation ∈ operations, operation.Respects kind) :
    after.Keeps kind where
  nonempty := performs.segments ▸ keeps.nonempty
  distinct := performs.segments ▸ keeps.distinct
  nodes {position name} place := by
    rw [performs.segments] at place
    simp only [segmentOf, performs.segments]
    refine ((keeps.nodes place).performAll ?_).congr (performs.documents place)
    intro operation member
    obtain ⟨member, concerned⟩ := List.mem_filter.mp member
    exact respects_of_concerns (respect operation member) concerned

/-! ## Calls of one node -/

/-- Operations that concern the segment at one position only. -/
def Concern (cluster : Cluster) (position : Nat) (operations : List Operation) : Prop :=
  ∀ operation ∈ operations, ∀ other,
    concerns cluster.segments.length other operation = decide (position = other)

theorem Concern.filter {cluster : Cluster} {position : Nat} {operations : List Operation}
    (concern : Concern cluster position operations) (other : Nat) :
    operations.filter (concerns cluster.segments.length other) =
      if position = other then operations else [] := by
  split
  · next here =>
    apply List.filter_eq_self.mpr
    intro operation member
    rw [concern operation member, decide_eq_true here]
  · next elsewhere =>
    apply List.filter_eq_nil_iff.mpr
    intro operation member
    rw [concern operation member, decide_eq_true_iff]
    exact elsewhere

/-- A node that carries out operations for its segment alone changes the cluster so. -/
theorem performs_setNode {cluster : Cluster} (distinct : cluster.segments.Nodup)
    {position : Nat} {name : String} (place : cluster.segments[position]? = some name)
    {operations : List Operation} (concern : Concern cluster position operations) {node : Node}
    (documents : node.documents = ((cluster.node name).performAll operations).documents)
    (online : node.online = (cluster.node name).online) :
    Performs operations cluster (cluster.setNode name node) where
  segments := rfl
  documents {other otherName} otherPlace := by
    rw [node_setNode, concern.filter]
    by_cases here : position = other
    · subst here
      have same : otherName = name := Option.some.inj (otherPlace.symm.trans place)
      rw [if_pos same, if_pos rfl, same]
      exact documents
    · have differ : otherName ≠ name := by
        rintro rfl
        exact here (position_unique distinct place otherPlace)
      rw [if_neg differ, if_neg here]
      rfl
  online other := by
    rw [node_setNode]
    split
    · next same => rw [same, online]
    · rfl

theorem concern_nil (cluster : Cluster) (position : Nat) : Concern cluster position [] :=
  fun _ member => absurd member List.not_mem_nil

theorem concern_put (cluster : Cluster) (collection id : String) (stored : Json) :
    Concern cluster (cluster.segmentOf collection id) [.put collection id stored] := by
  intro operation member other
  rw [List.mem_singleton.mp member]
  rfl

theorem concern_delete (cluster : Cluster) (collection id : String) :
    Concern cluster (cluster.segmentOf collection id) [.delete collection id] := by
  intro operation member other
  rw [List.mem_singleton.mp member]
  rfl

/-- A put stores the document on the segment that owns it, or nothing. -/
theorem put_cases {cluster after : Cluster} (distinct : cluster.segments.Nodup)
    {collection id : String} {value : Json} {result : Except Error Unit}
    (put : cluster.put collection id value = (result, after)) :
    (∃ stored, result = .ok () ∧ cluster.segments ≠ [] ∧ Document.withId id value = .ok stored ∧
      Performs [.put collection id stored] cluster after) ∨
    ∃ cause, result = .error cause ∧ Performs [] cluster after := by
  rw [Cluster.put] at put
  cases form : Document.withId id value with
  | error cause =>
      rw [form] at put
      cases put
      exact Or.inr ⟨cause, rfl, .refl cluster⟩
  | ok stored =>
      cases owner : cluster.ownerOf collection id with
      | error cause =>
          rw [form, owner] at put
          cases put
          exact Or.inr ⟨cause, rfl, .refl cluster⟩
      | ok name =>
          have place := (ownerOf_eq_ok_iff cluster collection id name).mp owner
          rw [form, owner] at put
          simp only [atNode, Node.put, Node.call] at put
          split at put
          · cases put
            exact Or.inl ⟨stored, rfl, List.ne_nil_of_mem (List.mem_of_getElem? place), rfl,
              performs_setNode distinct place (concern_put cluster collection id stored) rfl rfl⟩
          · cases put
            exact Or.inr ⟨_, rfl, performs_setNode distinct place (concern_nil _ _) rfl rfl⟩

/-- A delete removes the document from the segment that owns it, or nothing. -/
theorem delete_cases {cluster after : Cluster} (distinct : cluster.segments.Nodup)
    {collection id : String} {result : Except Error Unit}
    (deleted : cluster.delete collection id = (result, after)) :
    (result = .ok () ∧ Performs [.delete collection id] cluster after) ∨
    ∃ cause, result = .error cause ∧ Performs [] cluster after := by
  rw [Cluster.delete] at deleted
  cases owner : cluster.ownerOf collection id with
  | error cause =>
      rw [owner] at deleted
      cases deleted
      exact Or.inr ⟨cause, rfl, .refl cluster⟩
  | ok name =>
      have place := (ownerOf_eq_ok_iff cluster collection id name).mp owner
      rw [owner] at deleted
      simp only [atNode, Node.remove, Node.call] at deleted
      split at deleted
      · split at deleted
        · cases deleted
          exact Or.inl ⟨rfl,
            performs_setNode distinct place (concern_delete cluster collection id) rfl rfl⟩
        · cases deleted
          exact Or.inr ⟨_, rfl, performs_setNode distinct place (concern_nil _ _) rfl rfl⟩
      · cases deleted
        exact Or.inr ⟨_, rfl, performs_setNode distinct place (concern_nil _ _) rfl rfl⟩

/-! ## Commits -/

theorem segments_foldl_performShare (shares : List (String × List Operation))
    (cluster : Cluster) : (shares.foldl performShare cluster).segments = cluster.segments := by
  induction shares generalizing cluster with
  | nil => rfl
  | cons share rest ih => exact ih (cluster.performShare share)

theorem node_performShare (cluster : Cluster) (share : String × List Operation) (name : String) :
    (cluster.performShare share).node name =
      if name = share.1 then (cluster.node name).performAll share.2 else cluster.node name := by
  rw [performShare, node_setNode]
  split
  · next same => rw [same]
  · rfl

theorem node_foldl_performShare_of_not_mem {shares : List (String × List Operation)}
    {name : String} (absent : name ∉ shares.map Prod.fst) (cluster : Cluster) :
    (shares.foldl performShare cluster).node name = cluster.node name := by
  induction shares generalizing cluster with
  | nil => rfl
  | cons share rest ih =>
      rw [List.map_cons, List.mem_cons, not_or] at absent
      apply (ih absent.2 (cluster.performShare share)).trans
      rw [node_performShare, if_neg absent.1]

/-- Every node carries out its own share, whatever the order of the shares. -/
theorem node_foldl_performShare {shares : List (String × List Operation)}
    (distinct : (shares.map Prod.fst).Nodup) {share : String × List Operation}
    (member : share ∈ shares) (cluster : Cluster) :
    (shares.foldl performShare cluster).node share.1 =
      (cluster.node share.1).performAll share.2 := by
  induction shares generalizing cluster with
  | nil => contradiction
  | cons first rest ih =>
      rw [List.map_cons, List.nodup_cons] at distinct
      rw [List.foldl_cons]
      rcases List.mem_cons.mp member with rfl | later
      · rw [node_foldl_performShare_of_not_mem distinct.1, node_performShare, if_pos rfl]
      · have differ : share.1 ≠ first.1 := by
          intro same
          exact distinct.1 (same ▸ List.mem_map_of_mem later)
        rw [ih distinct.2 later, node_performShare, if_neg differ]

theorem map_fst_shares_sublist (cluster : Cluster) (operations : List Operation) :
    ((cluster.shares operations).map Prod.fst).Sublist cluster.segments := by
  rw [shares]
  apply (List.filter_sublist.map Prod.fst).trans
  rw [List.map_map]
  exact (congrArg (List.Sublist · cluster.segments)
    (List.zipIdx_map_fst 0 cluster.segments)).mpr (List.Sublist.refl _)

theorem mem_shares_iff (cluster : Cluster) (operations : List Operation)
    (share : String × List Operation) :
    share ∈ cluster.shares operations ↔
      (∃ position : Nat, cluster.segments[position]? = some share.1 ∧
        share.2 = operations.filter (concerns cluster.segments.length position)) ∧
      share.2 ≠ [] := by
  rw [shares, List.mem_filter, List.mem_map]
  constructor
  · rintro ⟨⟨⟨name, position⟩, member, rfl⟩, some⟩
    refine ⟨⟨position, List.mem_zipIdx_iff_getElem?.mp member, rfl⟩, ?_⟩
    simpa using some
  · rintro ⟨⟨position, place, operations⟩, some⟩
    refine ⟨⟨(share.1, position), List.mem_zipIdx_iff_getElem?.mpr place, ?_⟩, by simpa using some⟩
    exact Prod.ext rfl operations.symm

/-- Carrying out all shares gives every segment its share. -/
theorem performs_shares {cluster : Cluster} (distinct : cluster.segments.Nodup)
    (operations : List Operation) :
    Performs operations cluster ((cluster.shares operations).foldl performShare cluster) where
  segments := segments_foldl_performShare _ _
  documents {position name} place := by
    have once := distinct.sublist (map_fst_shares_sublist cluster operations)
    by_cases idle : operations.filter (concerns cluster.segments.length position) = []
    · have absent : name ∉ (cluster.shares operations).map Prod.fst := by
        intro member
        obtain ⟨share, shared, rfl⟩ := List.mem_map.mp member
        obtain ⟨⟨other, otherPlace, same⟩, some⟩ := (mem_shares_iff _ _ _).mp shared
        rw [position_unique distinct otherPlace place, idle] at same
        exact some same
      rw [node_foldl_performShare_of_not_mem absent, idle]
      rfl
    · have member : (name, operations.filter (concerns cluster.segments.length position)) ∈
          cluster.shares operations :=
        (mem_shares_iff _ _ _).mpr ⟨⟨position, place, rfl⟩, idle⟩
      rw [node_foldl_performShare once member]
  online name := by
    have once := distinct.sublist (map_fst_shares_sublist cluster operations)
    by_cases shared : name ∈ (cluster.shares operations).map Prod.fst
    · obtain ⟨share, member, rfl⟩ := List.mem_map.mp shared
      rw [node_foldl_performShare once member, Node.online_performAll]
    · rw [node_foldl_performShare_of_not_mem shared]

/-- A commit that succeeds carries out every share. -/
theorem eq_foldl_of_commit {cluster after : Cluster} {operations : List Operation}
    (committed : commit operations cluster = (.ok (), after)) :
    cluster.segments ≠ [] ∧ after = (cluster.shares operations).foldl performShare cluster := by
  rw [commit] at committed
  split at committed
  · cases committed
  · next nonempty =>
    dsimp only at committed
    split at committed
    · cases committed
    · cases committed
      exact ⟨nonempty, rfl⟩

/-- A commit carries out all operations or changes nothing. -/
theorem commit_cases {cluster after : Cluster} (distinct : cluster.segments.Nodup)
    {operations : List Operation} {result : Except Error Unit}
    (committed : commit operations cluster = (result, after)) :
    (result = .ok () ∧ cluster.segments ≠ [] ∧ Performs operations cluster after) ∨
    ∃ cause, result = .error cause ∧ after = cluster := by
  cases result with
  | error cause => exact Or.inr ⟨cause, rfl, commit_eq_of_error committed⟩
  | ok _ =>
      obtain ⟨nonempty, rfl⟩ := eq_foldl_of_commit committed
      exact Or.inl ⟨rfl, nonempty, performs_shares distinct operations⟩

/-! ## Calls of every node -/

/-- What no call of an action changes, a round of calls leaves alone. -/
theorem forEach_frame {β : Type} {action : Node → Outcome Node Unit} (view : Node → β)
    (frame : ∀ node, view (action node).2 = view node) {names : List String}
    {cluster after : Cluster} {result : Except Error Unit}
    (called : forEach action names cluster = (result, after)) :
    after.segments = cluster.segments ∧ ∀ name, view (after.node name) = view (cluster.node name) := by
  induction names generalizing cluster with
  | nil =>
      cases called
      exact ⟨rfl, fun name => rfl⟩
  | cons first rest ih =>
      have single : ∀ name,
          view ((cluster.setNode first (action (cluster.node first)).2).node name) =
            view (cluster.node name) := by
        intro name
        rw [node_setNode]
        split
        · next same => rw [same, frame]
        · rfl
      rw [forEach, atNode] at called
      dsimp only at called
      split at called
      · next failed =>
        obtain ⟨-, rfl⟩ := Prod.mk.inj failed
        obtain ⟨-, rfl⟩ := Prod.mk.inj called
        exact ⟨rfl, single⟩
      · next succeeded =>
        obtain ⟨-, rfl⟩ := Prod.mk.inj succeeded
        obtain ⟨segments, views⟩ := ih called
        exact ⟨segments, fun name => (views name).trans (single name)⟩

/-- Creating a collection changes no document, also where it fails halfway. -/
theorem performs_createCollection {cluster after : Cluster} {collection : String}
    {result : Except Error Unit}
    (created : cluster.createCollection collection = (result, after)) :
    Performs [] cluster after := by
  obtain ⟨segments, documents⟩ := forEach_frame Node.documents
    (fun node => node.documents_createCollection collection) created
  obtain ⟨-, online⟩ := forEach_frame Node.online
    (fun node => node.online_createCollection collection) created
  exact ⟨segments, fun _ => documents _, online⟩

/-- A round of calls that every node accepts calls every node once. -/
theorem forEach_ok (action : Node → Outcome Node Unit) {names : List String}
    (distinct : names.Nodup) (cluster : Cluster)
    (accepted : ∀ name ∈ names, (action (cluster.node name)).1 = .ok ()) :
    ∃ after, forEach action names cluster = (.ok (), after) ∧
      after.segments = cluster.segments ∧
      ∀ name, after.node name =
        if name ∈ names then (action (cluster.node name)).2 else cluster.node name := by
  induction names generalizing cluster with
  | nil => exact ⟨cluster, rfl, rfl, fun name => (if_neg List.not_mem_nil).symm⟩
  | cons first rest ih =>
      obtain ⟨absent, restDistinct⟩ := List.nodup_cons.mp distinct
      let next := cluster.setNode first (action (cluster.node first)).2
      have others {name : String} (member : name ∈ rest) : next.node name = cluster.node name := by
        rw [node_setNode, if_neg]
        rintro rfl
        exact absent member
      obtain ⟨after, called, segments, nodes⟩ := ih restDistinct next (by
        intro name member
        rw [others member]
        exact accepted name (List.mem_cons_of_mem _ member))
      refine ⟨after, ?_, segments, ?_⟩
      · rw [forEach, atNode]
        dsimp only
        rw [accepted first List.mem_cons_self]
        exact called
      · intro name
        rw [nodes]
        by_cases later : name ∈ rest
        · rw [if_pos later, others later, if_pos (List.mem_cons_of_mem _ later)]
        · rw [if_neg later, node_setNode]
          by_cases here : name = first
          · rw [if_pos here, if_pos (List.mem_cons.mpr (Or.inl here)), here]
          · rw [if_neg here, if_neg]
            rw [List.mem_cons, not_or]
            exact ⟨here, later⟩

/-- Every node of the cluster can be reached. -/
def AllOnline (cluster : Cluster) : Prop :=
  ∀ name ∈ cluster.segments, (cluster.node name).online = true

theorem Performs.allOnline {operations : List Operation} {cluster after : Cluster}
    (performs : Performs operations cluster after) (online : cluster.AllOnline) :
    after.AllOnline := by
  intro name member
  rw [performs.online]
  exact online name (performs.segments ▸ member)

/-- While every node can be reached, a collection is dropped from every segment. -/
theorem performs_dropCollection {cluster : Cluster} (distinct : cluster.segments.Nodup)
    (online : cluster.AllOnline) (collection : String) :
    ∃ after, cluster.dropCollection collection = (.ok (), after) ∧
      Performs [.drop collection] cluster after := by
  have dropped (name : String) (member : name ∈ cluster.segments) :
      (cluster.node name).dropCollection collection =
        (.ok (), (cluster.node name).discardAll collection) := by
    rw [Node.dropCollection, Node.call, if_pos (online name member)]
  obtain ⟨after, called, segments, nodes⟩ :=
    forEach_ok (fun node => node.dropCollection collection) distinct cluster (by
      intro name member
      rw [dropped name member])
  refine ⟨after, called, segments, ?_, ?_⟩
  · intro position name place
    have member := List.mem_of_getElem? place
    rw [nodes, if_pos member, dropped name member]
    rfl
  · intro name
    rw [nodes]
    split
    · next member =>
      rw [dropped name member]
      rfl
    · rfl

end Polystore.Cluster
