import Polystore.Cluster.Node
import Polystore.Proofs.Keyed

/-!
# What operations do to a node

An operation is described by its effect on the document of one id, whatever else the
node holds.  A node that keeps documents of some kind in the order of their ids keeps
doing so under operations that put such documents.
-/

namespace Polystore

namespace Operation

/-- What becomes of the document of an id. -/
def effect (collection id : String) (found : Option Json) : Operation → Option Json
  | put changed name stored => if collection = changed ∧ id = name then some stored else found
  | delete changed name => if collection = changed ∧ id = name then none else found
  | drop changed => if collection = changed then none else found

/-- What becomes of the document of an id under operations in order. -/
def effects (operations : List Operation) (collection id : String) (found : Option Json) :
    Option Json :=
  operations.foldl (effect collection id) found

theorem effects_cons (operation : Operation) (rest : List Operation) (collection id : String)
    (found : Option Json) :
    effects (operation :: rest) collection id found =
      effects rest collection id (operation.effect collection id found) :=
  rfl

/-- Operations without effect on an id can be left out. -/
theorem effects_filter {concerns : Operation → Bool} {collection id : String}
    (idle : ∀ operation found, concerns operation = false →
      effect collection id found operation = found)
    (operations : List Operation) (found : Option Json) :
    effects (operations.filter concerns) collection id found =
      effects operations collection id found := by
  induction operations generalizing found with
  | nil => rfl
  | cons operation rest ih =>
      rw [List.filter_cons]
      cases concerned : concerns operation with
      | true => exact ih _
      | false =>
          rw [effects_cons, idle operation found concerned]
          exact ih found

/-- Operations that leave the document of an id alone leave it alone together. -/
theorem effects_of_idle {collection id : String} {found : Option Json} {operations : List Operation}
    (idle : ∀ operation ∈ operations, effect collection id found operation = found) :
    effects operations collection id found = found := by
  induction operations with
  | nil => rfl
  | cons operation rest ih =>
      rw [List.forall_mem_cons] at idle
      rw [effects_cons, idle.1]
      exact ih idle.2

/-- The operation that a put amounts to, if the document has a stored form. -/
def forPut (collection id : String) (value : Json) : List Operation :=
  match Document.withId id value with
  | .ok stored => [.put collection id stored]
  | .error _ => []

/-- An operation puts nothing but documents of some kind. -/
def Respects (kind : String → String → Json → Prop) : Operation → Prop
  | put collection id stored => kind collection id stored
  | delete _ _ | drop _ => True

end Operation

namespace Node

theorem document?_performAll (node : Node) (operations : List Operation)
    (collection id : String) :
    (node.performAll operations).document? collection id =
      Operation.effects operations collection id (node.document? collection id) := by
  induction operations generalizing node with
  | nil => rfl
  | cons operation rest ih =>
      have first : (node.perform operation).document? collection id =
          operation.effect collection id (node.document? collection id) := by
        rw [document?_perform]
        cases operation <;> rfl
      rw [Operation.effects_cons, ← first]
      exact ih (node.perform operation)

/-- What operations make of the documents of a node depends on the documents alone. -/
theorem documents_performAll_congr {node other : Node} (same : other.documents = node.documents)
    (operations : List Operation) :
    (other.performAll operations).documents = (node.performAll operations).documents := by
  induction operations generalizing node other with
  | nil => exact same
  | cons operation rest ih =>
      have step : (other.perform operation).documents = (node.perform operation).documents := by
        funext collection
        cases operation with
        | put changed name stored => rw [perform, perform, documents_store, documents_store, same]
        | delete changed name => rw [perform, perform, documents_discard, documents_discard, same]
        | drop changed => rw [perform, perform, documents_discardAll, documents_discardAll, same]
      exact ih step

/-- The documents of a node are in the order of their ids, and of some kind. -/
structure Keeps (kind : String → String → Json → Prop) (node : Node) : Prop where
  ordered : ∀ collection, (node.documents collection).Sorted
  kept : ∀ {collection id : String} {stored : Json},
    node.document? collection id = some stored → kind collection id stored

theorem Keeps.perform {kind : String → String → Json → Prop} {node : Node} (keeps : node.Keeps kind)
    {operation : Operation} (respects : operation.Respects kind) :
    (node.perform operation).Keeps kind where
  ordered collection := by
    cases operation with
    | put changed name stored =>
        rw [Node.perform, documents_store]
        split
        · exact Keyed.sorted_insert (keeps.ordered changed) name stored
        · exact keeps.ordered collection
    | delete changed name =>
        rw [Node.perform, documents_discard]
        split
        · exact Keyed.sorted_erase (keeps.ordered changed) name
        · exact keeps.ordered collection
    | drop changed =>
        rw [Node.perform, documents_discardAll]
        split
        · exact Keyed.sorted_nil
        · exact keeps.ordered collection
  kept {collection id stored} found := by
    rw [document?_perform] at found
    cases operation with
    | put changed name replaced =>
        dsimp only at found
        split at found
        · next same =>
          cases found
          rw [same.1, same.2]
          exact respects
        · exact keeps.kept found
    | delete changed name =>
        dsimp only at found
        split at found
        · contradiction
        · exact keeps.kept found
    | drop changed =>
        dsimp only at found
        split at found
        · contradiction
        · exact keeps.kept found

/-- A node keeps what the operations put, and what was there. -/
theorem Keeps.performAll {kind : String → String → Json → Prop} {node : Node}
    (keeps : node.Keeps kind) {operations : List Operation}
    (respect : ∀ operation ∈ operations, operation.Respects kind) :
    (node.performAll operations).Keeps kind := by
  induction operations generalizing node with
  | nil => exact keeps
  | cons operation rest ih =>
      exact ih (keeps.perform (respect operation List.mem_cons_self)) fun later member =>
        respect later (List.mem_cons_of_mem _ member)

/-- What is kept depends on the documents alone. -/
theorem Keeps.congr {kind : String → String → Json → Prop} {node other : Node}
    (keeps : node.Keeps kind) (same : other.documents = node.documents) : other.Keeps kind where
  ordered collection := by
    rw [same]
    exact keeps.ordered collection
  kept {collection id stored} found := by
    rw [document?, same] at found
    exact keeps.kept found

theorem documents_createCollection (node : Node) (collection : String) :
    (node.createCollection collection).2.documents = node.documents := by
  rw [createCollection, call]
  split
  · funext other
    rw [documents, Keyed.get?_insert]
    split
    · next same => rw [same]; rfl
    · rfl
  · rfl

theorem online_createCollection (node : Node) (collection : String) :
    (node.createCollection collection).2.online = node.online := by
  rw [createCollection, call]
  split <;> rfl

end Node

end Polystore
