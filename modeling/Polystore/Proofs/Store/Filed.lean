import Polystore.Proofs.Cluster.Scan
import Polystore.Proofs.Sorting
import Polystore.Proofs.Store.Client

/-!
# Integral documents in their stored form

A document that is put under an id tells that id, and it is integral in its stored form
if it was so before.  Transactions stage such documents, and a scan finds a listing of
them.
-/

namespace Polystore

theorem Json.fieldsAreIntegral_insert {fields : Keyed Json}
    (integral : Json.fieldsAreIntegral fields = true) (name : String) {value : Json}
    (valueIntegral : value.isIntegral = true) :
    Json.fieldsAreIntegral (Keyed.insert name value fields) = true := by
  induction fields with
  | nil =>
      rw [Keyed.insert, fieldsAreIntegral, valueIntegral]
      rfl
  | cons field rest ih =>
      have both := integral
      rw [fieldsAreIntegral, Bool.and_eq_true] at both
      rw [Keyed.insert]
      split
      · rw [fieldsAreIntegral, valueIntegral, integral]
        rfl
      · split
        · rw [fieldsAreIntegral, valueIntegral, both.2]
          rfl
        · rw [fieldsAreIntegral, both.1, ih both.2]
          rfl

namespace Document

/-- An integral document in the stored form of an id. -/
def Filed (_collection id : String) (stored : Json) : Prop :=
  idOf? stored = some id ∧ stored.isIntegral = true

theorem filed_of_withId {id : String} {value stored : Json} (form : withId id value = .ok stored)
    (integral : value.isIntegral = true) (collection : String) : Filed collection id stored := by
  refine ⟨idOf?_of_withId form, ?_⟩
  obtain ⟨fields, rfl, -, rfl⟩ := (withId_eq_ok_iff id value stored).mp form
  exact Json.fieldsAreIntegral_insert integral reservedField rfl

end Document

/-- A put of an integral document puts a filed one, or nothing. -/
theorem Operation.respects_forPut (collection id : String) {value : Json}
    (integral : value.isIntegral = true) :
    ∀ operation ∈ forPut collection id value, operation.Respects Document.Filed := by
  intro operation member
  rw [forPut] at member
  split at member
  · next form =>
    rw [List.mem_singleton.mp member]
    exact Document.filed_of_withId form integral collection
  · contradiction

theorem Operation.respects_deletion (kind : String → String → Json → Prop) (present : Bool)
    (collection id : String) :
    ∀ operation ∈ if present then [Operation.delete collection id] else [],
      operation.Respects kind := by
  intro operation member
  split at member
  · rw [List.mem_singleton.mp member]
    trivial
  · contradiction

open Document in
/-- What passes a scan of filed documents is a listing. -/
theorem Cluster.listing_passing {cluster : Cluster} (keeps : cluster.Keeps Filed)
    (collection : String) (keep : Json → Bool) :
    Listing (cluster.passing collection keep) where
  integral document member := by
    obtain ⟨⟨id, found⟩, -⟩ := (mem_passing_iff keeps collection keep document).mp member
    exact (keeps.kept found).2
  named document member := by
    obtain ⟨⟨id, found⟩, -⟩ := (mem_passing_iff keeps collection keep document).mp member
    exact ⟨id, (keeps.kept found).1⟩
  apart := pairwise_passing keeps And.left collection keep

namespace Transaction

/-- The operations staged in a transaction put filed documents only. -/
def Stages (transaction : Transaction) : Prop :=
  ∀ operation ∈ transaction.operations, operation.Respects Document.Filed

theorem stages_start : Stages .start :=
  StagesOnly.start _

theorem Stages.stage {transaction : Transaction} (stages : transaction.Stages)
    {operation : Operation} (respects : operation.Respects Document.Filed) :
    (transaction.stage operation).2.Stages :=
  StagesOnly.stage stages respects

theorem Stages.put {transaction : Transaction} (stages : transaction.Stages)
    (collection id : String) {value : Json} (integral : value.isIntegral = true) :
    (transaction.put collection id value).2.Stages :=
  StagesOnly.put stages fun _ form => Document.filed_of_withId form integral collection

/-- A commit leaves the store as it was, or as the staged operations leave it. -/
theorem commit_store {σ : Type} (transaction : Transaction) (sink : Sink σ) (state : σ) :
    (transaction.commit sink state).2.2 = state ∨
      (transaction.commit sink state).2.2 = (sink transaction.operations state).2 := by
  rw [Transaction.commit]
  split
  · split
    · exact Or.inl rfl
    · rcases sink transaction.operations state with ⟨_ | _, after⟩
      · exact Or.inr rfl
      · exact Or.inr rfl
  · exact Or.inl rfl

theorem Stages.commit {σ : Type} {transaction : Transaction} (stages : transaction.Stages)
    (sink : Sink σ) (state : σ) : (transaction.commit sink state).2.1.Stages :=
  StagesOnly.commit stages sink state

end Transaction

/-- A client whose transactions stage filed documents may keep one more such transaction. -/
theorem Client.stages_keep {σ : Type} {client : Client σ}
    (stages : ∀ number, (client.transactions number).Stages) (number : Nat)
    {transaction : Transaction} (more : transaction.Stages) :
    ∀ other, ((client.keep number transaction).transactions other).Stages :=
  stagesOnly_keep stages number more

end Polystore
