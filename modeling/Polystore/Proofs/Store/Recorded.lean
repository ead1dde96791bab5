import Polystore.Proofs.Cluster.Contents
import Polystore.Store.Cluster

/-!
# Stores that record what they carry out

A recorded store is a store together with the operations that it has carried out.
Calls that fail are not recorded.  Nothing reads the record, so a recorded store
answers as the store does.
-/

namespace Polystore

/-- A store, and the operations that it carried out, in order. -/
structure Recorded (σ : Type) where
  store : σ
  operations : List Operation := []

namespace Recorded

variable {σ : Type} [DocumentStore σ]

/-- Call the store, and record some operations if the call succeeds. -/
def call {α : Type} (operations : List Operation) (outcome : Outcome σ α)
    (state : Recorded σ) : Outcome (Recorded σ) α :=
  (outcome.1, {
    store := outcome.2
    operations := match outcome.1 with
      | .ok _ => state.operations ++ operations
      | .error _ => state.operations })

instance : DocumentStore (Recorded σ) where
  put collection id value state :=
    state.call (Operation.forPut collection id value)
      (DocumentStore.put collection id value state.store)
  get collection id state := DocumentStore.get collection id state.store
  delete collection id state :=
    state.call [.delete collection id] (DocumentStore.delete collection id state.store)
  query query state :=
    let (answer, store) := DocumentStore.query query state.store
    (answer, { state with store := store })
  commit operations state := state.call operations (DocumentStore.commit operations state.store)
  createCollection collection state :=
    state.call [] (DocumentStore.createCollection collection state.store)
  dropCollection collection state :=
    state.call [.drop collection] (DocumentStore.dropCollection collection state.store)
  forgetPages query state := { state with store := DocumentStore.forgetPages query state.store }
  countDistinct query field state :=
    state.call [] (DocumentStore.countDistinct query field state.store)

omit [DocumentStore σ] in
theorem operations_call_of_ok {α : Type} (operations : List Operation) {outcome : Outcome σ α}
    {value : α} (succeeded : outcome.1 = .ok value) (state : Recorded σ) :
    (state.call operations outcome).2.operations = state.operations ++ operations := by
  rw [call, succeeded]

omit [DocumentStore σ] in
theorem operations_call_of_error {α : Type} (operations : List Operation) {outcome : Outcome σ α}
    {cause : Error} (failed : outcome.1 = .error cause) (state : Recorded σ) :
    (state.call operations outcome).2.operations = state.operations := by
  rw [call, failed]

/-! ## Recorded clusters -/

/-- The cluster of a recorded store. -/
def cluster (state : Recorded ClusterStore) : Cluster :=
  state.store.cluster

/-- A document was written under an id, and lies there. -/
structure Wrote (state : Recorded ClusterStore) (collection id : String) (stored : Json) :
    Prop where
  recorded : .put collection id stored ∈ state.operations
  held : state.cluster.document? collection id = some stored

/-- A put that succeeds writes the stored form of the document. -/
theorem put_cases {state after : Recorded ClusterStore}
    (distinct : state.cluster.segments.Nodup) {collection id : String} {value : Json}
    {result : Except Error Unit}
    (put : DocumentStore.put collection id value state = (result, after)) :
    after.cluster.segments = state.cluster.segments ∧
    ((∃ stored, result = .ok () ∧ Document.withId id value = .ok stored ∧
      after.Wrote collection id stored) ∨ ∃ cause, result = .error cause) := by
  obtain ⟨rfl, rfl⟩ := Prod.mk.inj put
  rcases Cluster.put_cases distinct (rfl : state.cluster.put collection id value = (_, _)) with
    ⟨stored, succeeded, nonempty, form, performs⟩ | ⟨cause, failed, performs⟩
  · refine ⟨performs.segments, Or.inl ⟨stored, succeeded, form, ?_, ?_⟩⟩
    · have answered : (DocumentStore.put collection id value state.store).1 = .ok () := succeeded
      have recorded := operations_call_of_ok (Operation.forPut collection id value) answered state
      have staged : .put collection id stored ∈ Operation.forPut collection id value := by
        rw [Operation.forPut, form]
        exact List.mem_cons_self
      exact (congrArg (.put collection id stored ∈ ·) recorded).mpr
        (List.mem_append_right _ staged)
    · apply (performs.document? nonempty collection id).trans
      exact if_pos ⟨rfl, rfl⟩
  · exact ⟨performs.segments, Or.inr ⟨cause, failed⟩⟩

/-- A commit carries out and records all operations, or changes nothing. -/
theorem commit_cases {state after : Recorded ClusterStore}
    (distinct : state.cluster.segments.Nodup) {operations : List Operation}
    {result : Except Error Unit}
    (committed : DocumentStore.commit operations state = (result, after)) :
    (result = .ok () ∧ state.cluster.segments ≠ [] ∧
      after.operations = state.operations ++ operations ∧
      Cluster.Performs operations state.cluster after.cluster) ∨
    ∃ cause, result = .error cause ∧ after.operations = state.operations ∧
      after.cluster = state.cluster := by
  obtain ⟨rfl, rfl⟩ := Prod.mk.inj committed
  rcases Cluster.commit_cases distinct (rfl : Cluster.commit operations state.cluster = (_, _)) with
    ⟨succeeded, nonempty, performs⟩ | ⟨cause, failed, same⟩
  · have answered : (DocumentStore.commit operations state.store).1 = .ok () := succeeded
    exact Or.inl ⟨succeeded, nonempty, operations_call_of_ok operations answered state, performs⟩
  · have refused : (DocumentStore.commit operations state.store).1 = .error cause := failed
    exact Or.inr ⟨cause, failed, operations_call_of_error operations refused state, same⟩

end Recorded

end Polystore
