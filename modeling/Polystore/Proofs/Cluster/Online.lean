import Polystore.Proofs.Cluster.Scan

/-!
# Clusters whose nodes can all be reached

While every node is online no call fails for want of a node, and the answer of a call
follows from the document of the id it is about.
-/

namespace Polystore.Cluster

variable {cluster : Cluster}

/-- The owner of a document can be reached. -/
theorem exists_online_owner (nonempty : cluster.segments ≠ []) (online : cluster.AllOnline)
    (collection id : String) :
    ∃ name, cluster.ownerOf collection id = .ok name ∧ (cluster.node name).online = true := by
  obtain ⟨name, owner⟩ := exists_owner nonempty collection id
  have place := (ownerOf_eq_ok_iff cluster collection id name).mp owner
  exact ⟨name, owner, online name (List.mem_of_getElem? place)⟩

theorem get_of_online (nonempty : cluster.segments ≠ []) (online : cluster.AllOnline)
    (collection id : String) :
    cluster.get collection id =
      match cluster.document? collection id with
      | some stored => .ok (Document.withoutId stored)
      | none => .error (.documentMissing collection id) := by
  obtain ⟨name, owner, up⟩ := exists_online_owner nonempty online collection id
  rw [get, document?_eq owner, owner]
  dsimp only
  rw [Node.get, if_pos up]
  cases (cluster.node name).document? collection id with
  | none => rfl
  | some stored => rfl

theorem put_of_online (nonempty : cluster.segments ≠ []) (online : cluster.AllOnline)
    (collection id : String) (value : Json) :
    (cluster.put collection id value).1 = (Document.withId id value).map fun _ => () := by
  obtain ⟨name, owner, up⟩ := exists_online_owner nonempty online collection id
  rw [put, owner]
  cases Document.withId id value with
  | error cause => rfl
  | ok stored =>
      simp only [atNode, Node.put, Node.call, up, if_true]
      rfl

theorem performs_put (distinct : cluster.segments.Nodup) (nonempty : cluster.segments ≠ [])
    (online : cluster.AllOnline) (collection id : String) (value : Json) :
    Performs (Operation.forPut collection id value) cluster
      (cluster.put collection id value).2 := by
  have answer := put_of_online nonempty online collection id value
  obtain ⟨result, after, put⟩ : ∃ result after,
      cluster.put collection id value = (result, after) := ⟨_, _, rfl⟩
  rw [put] at answer ⊢
  rw [Operation.forPut]
  rcases put_cases distinct put with ⟨stored, rfl, -, form, performs⟩ | ⟨cause, rfl, performs⟩
  · rw [form]
    exact performs
  · cases form : Document.withId id value with
    | error other => exact performs
    | ok stored =>
        rw [form] at answer
        contradiction

theorem delete_of_online (nonempty : cluster.segments ≠ []) (online : cluster.AllOnline)
    (collection id : String) :
    (cluster.delete collection id).1 =
      match cluster.document? collection id with
      | some _ => .ok ()
      | none => .error (.documentMissing collection id) := by
  obtain ⟨name, owner, up⟩ := exists_online_owner nonempty online collection id
  rw [delete, document?_eq owner, owner]
  simp only [atNode, Node.remove, Node.call, up, if_true]
  cases (cluster.node name).document? collection id with
  | none => rfl
  | some stored => rfl

theorem performs_delete (distinct : cluster.segments.Nodup) (nonempty : cluster.segments ≠ [])
    (online : cluster.AllOnline) (collection id : String) :
    Performs (if (cluster.document? collection id).isSome then [.delete collection id] else [])
      cluster (cluster.delete collection id).2 := by
  have answer := delete_of_online nonempty online collection id
  obtain ⟨result, after, deleted⟩ : ∃ result after,
      cluster.delete collection id = (result, after) := ⟨_, _, rfl⟩
  rw [deleted] at answer ⊢
  rcases delete_cases distinct deleted with ⟨rfl, performs⟩ | ⟨cause, rfl, performs⟩
  · cases found : cluster.document? collection id with
    | some stored => exact performs
    | none =>
        rw [found] at answer
        contradiction
  · cases found : cluster.document? collection id with
    | none => exact performs
    | some stored =>
        rw [found] at answer
        contradiction

theorem createCollection_of_online (distinct : cluster.segments.Nodup)
    (online : cluster.AllOnline) (collection : String) :
    (cluster.createCollection collection).1 = .ok () := by
  obtain ⟨after, called, -⟩ :=
    forEach_ok (fun node => node.createCollection collection) distinct cluster (by
      intro name member
      rw [Node.createCollection, Node.call, if_pos (online name member)])
  rw [createCollection, called]

/-- A transaction is carried out by every segment that has a share in it. -/
theorem commit_eq_of_online (nonempty : cluster.segments ≠ []) (online : cluster.AllOnline)
    (operations : List Operation) :
    commit operations cluster =
      (.ok (), (cluster.shares operations).foldl performShare cluster) := by
  have reached : ((cluster.shares operations).find? fun share =>
      (cluster.node share.1).online = false) = none := by
    apply List.find?_eq_none.mpr
    intro share member
    obtain ⟨⟨position, place, -⟩, -⟩ := (mem_shares_iff _ _ _).mp member
    rw [online share.1 (List.mem_of_getElem? place)]
    simp
  rw [commit, if_neg nonempty]
  dsimp only
  rw [reached]

theorem commit_of_online (nonempty : cluster.segments ≠ []) (online : cluster.AllOnline)
    (operations : List Operation) : (commit operations cluster).1 = .ok () := by
  rw [commit_eq_of_online nonempty online]

theorem performs_commit (distinct : cluster.segments.Nodup) (nonempty : cluster.segments ≠ [])
    (online : cluster.AllOnline) (operations : List Operation) :
    Performs operations cluster (commit operations cluster).2 := by
  have answer := commit_of_online nonempty online operations
  obtain ⟨result, after, committed⟩ : ∃ result after,
      commit operations cluster = (result, after) := ⟨_, _, rfl⟩
  rw [committed] at answer ⊢
  rcases commit_cases distinct committed with ⟨-, -, performs⟩ | ⟨cause, rfl, -⟩
  · exact performs
  · contradiction

end Polystore.Cluster
