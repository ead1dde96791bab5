import Polystore.Proofs.Cluster.Commit
import Polystore.Proofs.Json.Reading
import Polystore.Proofs.Store.Filed

/-!
# Stores that work like one map

Puts, reads, deletes and transactions of documents mean what they mean in one map.  A store
serves them if each single call has the value or the kind of error that it has in the map, and
leaves what the map is left with.  A client then gets from the store what it would get from
the map, whatever it did before.
-/

namespace Polystore

namespace Document

/-- The stored form of a document is read back if the document is. -/
theorem readable_of_withId {id : String} {value stored : Json} (form : withId id value = .ok stored)
    (readable : value.Readable) : stored.Readable := by
  rcases (withId_eq_ok_iff id value stored).mp form with ⟨fields, rfl, -, rfl⟩
  rcases readable with ⟨integral, ordered, shallow⟩
  rw [Json.isOrdered, Bool.and_eq_true, decide_eq_true_iff, Json.fieldsAreOrdered_iff] at ordered
  have within : Json.fieldsDepth fields < Json.nestingLimit - 1 := Nat.lt_sub_of_add_lt shallow
  rw [Json.fieldsDepth_lt_iff (by decide)] at within
  constructor
  · exact Json.fieldsAreIntegral_insert integral reservedField rfl
  · rw [Json.isOrdered, Bool.and_eq_true, decide_eq_true_iff, Json.fieldsAreOrdered_iff]
    constructor
    · exact Keyed.sorted_insert ordered.1 _ _
    · intro field member
      rcases Keyed.mem_insert member with rfl | old
      · rfl
      · exact ordered.2 field old
  · have inserted : Json.fieldsDepth (Keyed.insert reservedField (.string id) fields) <
        Json.nestingLimit - 1 := by
      rw [Json.fieldsDepth_lt_iff (by decide)]
      intro field member
      rcases Keyed.mem_insert member with rfl | old
      · change 0 < Json.nestingLimit - 1
        decide
      · exact within field old
    exact Nat.add_lt_of_lt_sub inserted

/-- A document is got back from its stored form. -/
theorem withoutId_of_withId {id : String} {value stored : Json}
    (form : withId id value = .ok stored) : withoutId stored = value := by
  rcases (withId_eq_ok_iff id value stored).mp form with ⟨fields, rfl, absent, rfl⟩
  rw [Keyed.contains, Option.isSome_eq_false_iff, Option.isNone_iff_eq_none] at absent
  rw [withoutId, Keyed.erase_insert, Keyed.erase_of_get?_eq_none absent]

end Document

/-! ## One map -/

/-- A store that is one map of documents in their stored form. -/
structure MapStore where
  contents : Contents

namespace MapStore

/-- Put a document. -/
def put (collection id : String) (value : Json) (store : MapStore) : Outcome MapStore Unit :=
  match Document.withId id value with
  | .ok stored => (.ok (), ⟨store.contents.perform (.put collection id stored)⟩)
  | .error cause => (.error cause, store)

/-- Read a document. -/
def get (collection id : String) (store : MapStore) : Except Error Json :=
  match store.contents collection id with
  | some stored => .ok (Document.withoutId stored)
  | none => .error (.documentMissing collection id)

/-- Remove a document, which must be there. -/
def delete (collection id : String) (store : MapStore) : Outcome MapStore Unit :=
  match store.contents collection id with
  | some _ => (.ok (), ⟨store.contents.perform (.delete collection id)⟩)
  | none => (.error (.documentMissing collection id), store)

/-- Carry out the operations of a transaction. -/
def commit (operations : List Operation) (store : MapStore) : Outcome MapStore Unit :=
  (.ok (), ⟨store.contents.performAll operations⟩)

instance : DocumentStore MapStore where
  put := put
  get := get
  delete := delete
  query _ store := (.failed (.notOffered "query"), store)
  commit := commit
  createCollection _ store := (.ok (), store)
  dropCollection collection := commit [.drop collection]

end MapStore

/-! ## Access by key -/

/-- An error without its words: its kind is all that is left. -/
def Error.outline (cause : Error) : Error :=
  .reported cause.kind ""

/-- A reply without the words of its errors. -/
def Reply.outline : Reply → Reply
  | .done result => .done (result.mapError Error.outline)
  | .document result => .document (result.mapError Error.outline)
  | .answer told => .answer { told with error := told.error.map Error.outline }
  | .counts result => .counts (result.mapError Error.outline)

section

variable (Named : String → String → Prop)

/-- An operation on a document of a name that is admitted; what it puts can be read back. -/
def Operation.IsKeyed : Operation → Prop
  | put collection id stored => Named collection id ∧ stored.Readable
  | delete collection id => Named collection id
  | drop _ => False

/-- A step that puts, reads or deletes a document of a name that is admitted, or that begins,
fills or ends a transaction of such puts and deletes. -/
def ClientStep.IsKeyed : ClientStep → Prop
  | put collection id value | stagePut _ collection id value => Named collection id ∧ value.Readable
  | get collection id | delete collection id | stageDelete _ collection id => Named collection id
  | start _ | commit _ | rollback _ => True
  | createCollection _ | dropCollection _ | query _ | countDistinct _ _ | stageDrop _ _ => False

instance [∀ collection id, Decidable (Named collection id)] :
    (step : ClientStep) → Decidable (step.IsKeyed Named)
  | .put collection id value | .stagePut _ collection id value =>
      inferInstanceAs (Decidable (Named collection id ∧ value.Readable))
  | .get collection id | .delete collection id | .stageDelete _ collection id =>
      inferInstanceAs (Decidable (Named collection id))
  | .start _ | .commit _ | .rollback _ => .isTrue trivial
  | .createCollection _ | .dropCollection _ | .query _ | .countDistinct _ _ | .stageDrop _ _ =>
      .isFalse id

end

/-! ## Stores that serve access by key -/

/-- A call of a store has the value or the kind of error that it has in one map, and what it
leaves is related to what it leaves there. -/
structure Matches {σ α : Type} (Holds : σ → MapStore → Prop) (left : Outcome σ α)
    (right : Outcome MapStore α) : Prop where
  result : left.1.mapError Error.outline = right.1.mapError Error.outline
  after : Holds left.2 right.2

/-- Every call by a name that is admitted does to a store what it does to the map that the store
holds. -/
structure ServesByKey (σ : Type) [DocumentStore σ] (Named : String → String → Prop)
    (Holds : σ → MapStore → Prop) : Prop where
  get : ∀ {store : σ} {model : MapStore} {collection id : String}, Holds store model →
    Named collection id →
      (DocumentStore.get collection id store).mapError Error.outline =
        (DocumentStore.get collection id model).mapError Error.outline
  put : ∀ {store : σ} {model : MapStore} {collection id : String} {value : Json},
    Holds store model → Named collection id → value.Readable →
      Matches Holds (DocumentStore.put collection id value store)
        (DocumentStore.put collection id value model)
  delete : ∀ {store : σ} {model : MapStore} {collection id : String}, Holds store model →
    Named collection id →
      Matches Holds (DocumentStore.delete collection id store)
        (DocumentStore.delete collection id model)
  commit : ∀ {store : σ} {model : MapStore} {operations : List Operation},
    Holds store model → (∀ operation ∈ operations, operation.IsKeyed Named) →
      Matches Holds (DocumentStore.commit operations store)
        (DocumentStore.commit operations model)

section

variable {σ : Type} [DocumentStore σ] {Named : String → String → Prop}
  {Holds : σ → MapStore → Prop}

namespace Client

variable {client : Client σ} {model : Client MapStore}

/-- A client of a store and one of the map that the store holds, with the same transactions. -/
structure Mirrors (Named : String → String → Prop) (Holds : σ → MapStore → Prop)
    (client : Client σ) (model : Client MapStore) : Prop where
  store : Holds client.store model.store
  transactions : client.transactions = model.transactions
  staged : ∀ number, (model.transactions number).StagesOnly (Operation.IsKeyed Named)

omit [DocumentStore σ] in
/-- Clients mirror each other still when both keep the same transaction. -/
theorem Mirrors.keep (mirrors : Mirrors Named Holds client model) (number : Nat)
    {transaction : Transaction} (stages : transaction.StagesOnly (Operation.IsKeyed Named)) :
    Mirrors Named Holds (client.keep number transaction) (model.keep number transaction) where
  store := mirrors.store
  transactions := by
    rw [Client.keep, Client.keep, mirrors.transactions]
  staged := stagesOnly_keep mirrors.staged number stages

omit [DocumentStore σ] in
theorem Mirrors.onStore (mirrors : Mirrors Named Holds client model)
    {left : Outcome σ Unit} {right : Outcome MapStore Unit} (alike : Matches Holds left right) :
    (client.onStore .done left).1.outline = (model.onStore .done right).1.outline ∧
      Mirrors Named Holds (client.onStore .done left).2 (model.onStore .done right).2 :=
  ⟨congrArg Reply.done alike.result, alike.after, mirrors.transactions, mirrors.staged⟩

omit [DocumentStore σ] in
theorem Mirrors.onTransaction (mirrors : Mirrors Named Holds client model) (number : Nat)
    {action : Transaction → Outcome Transaction Unit}
    (stages : (action (model.transactions number)).2.StagesOnly (Operation.IsKeyed Named)) :
    (client.onTransaction number action).1.outline =
        (model.onTransaction number action).1.outline ∧
      Mirrors Named Holds (client.onTransaction number action).2
        (model.onTransaction number action).2 := by
  rw [Client.onTransaction, Client.onTransaction, mirrors.transactions]
  exact ⟨rfl, mirrors.keep number stages⟩

/-- Every step of access by key gets from the store what it gets from the map. -/
theorem Mirrors.run (mirrors : Mirrors Named Holds client model)
    (serves : ServesByKey σ Named Holds)
    {step : ClientStep} (keyed : step.IsKeyed Named) :
    (client.run step).1.outline = (model.run step).1.outline ∧
      Mirrors Named Holds (client.run step).2 (model.run step).2 := by
  cases step with
  | put collection id value =>
      exact mirrors.onStore (serves.put mirrors.store keyed.1 keyed.2)
  | get collection id =>
      exact ⟨congrArg Reply.document (serves.get mirrors.store keyed), mirrors⟩
  | delete collection id => exact mirrors.onStore (serves.delete mirrors.store keyed)
  | createCollection collection => exact keyed.elim
  | dropCollection collection => exact keyed.elim
  | query query => exact keyed.elim
  | countDistinct query field => exact keyed.elim
  | start number => exact ⟨rfl, mirrors.keep number (.start _)⟩
  | stagePut number collection id value =>
      apply mirrors.onTransaction number
      apply (mirrors.staged number).put
      intro stored form
      exact ⟨keyed.1, Document.readable_of_withId form keyed.2⟩
  | stageDelete number collection id =>
      apply mirrors.onTransaction number
      exact (mirrors.staged number).stage keyed
  | stageDrop number collection => exact keyed.elim
  | rollback number => exact ⟨rfl, mirrors.keep number (.start _)⟩
  | commit number =>
      have alike := serves.commit mirrors.store (mirrors.staged number)
      rcases (model.transactions number).commit_of_sinks_up_to Error.outline DocumentStore.commit
        DocumentStore.commit mirrors.store ⟨alike.result, alike.after⟩ with ⟨told, kept, after⟩
      have stages := (mirrors.staged number).commit DocumentStore.commit model.store
      rw [Client.run, Client.run, mirrors.transactions]
      dsimp only
      rw [kept]
      constructor
      · exact congrArg Reply.done told
      · have between : Mirrors Named Holds
            ⟨((model.transactions number).commit DocumentStore.commit client.store).2.2,
              model.transactions⟩
            ⟨((model.transactions number).commit DocumentStore.commit model.store).2.2,
              model.transactions⟩ := ⟨after, rfl, mirrors.staged⟩
        exact between.keep number stages

/-- Whatever is done by key, a client gets from the store what it gets from the map. -/
theorem Mirrors.runAll (mirrors : Mirrors Named Holds client model)
    (serves : ServesByKey σ Named Holds) {steps : List ClientStep}
    (keyed : ∀ step ∈ steps, step.IsKeyed Named) :
    (Client.runAll steps client).1.map Reply.outline =
      (Client.runAll steps model).1.map Reply.outline := by
  induction steps generalizing client model with
  | nil => rfl
  | cons step rest ih =>
      rw [List.forall_mem_cons] at keyed
      rcases mirrors.run serves keyed.1 with ⟨same, after⟩
      rw [runAll_cons, runAll_cons, List.map_cons, List.map_cons, same, ih after keyed.2]

end Client

/-- A client that begins nothing before gets from a store what it would get from the map that
the store holds. -/
theorem ServesByKey.replies (serves : ServesByKey σ Named Holds) {store : σ} {model : MapStore}
    (holds : Holds store model) {steps : List ClientStep}
    (keyed : ∀ step ∈ steps, step.IsKeyed Named) :
    (Client.runAll steps { store := store }).1.map Reply.outline =
      (Client.runAll steps { store := model }).1.map Reply.outline := by
  have mirrors : Client.Mirrors Named Holds { store := store } { store := model } :=
    ⟨holds, rfl, fun _ => .start _⟩
  exact mirrors.runAll serves keyed

end

end Polystore
