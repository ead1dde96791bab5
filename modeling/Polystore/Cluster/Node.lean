import Polystore.Document
import Polystore.Transaction.Operation

/-!
# Nodes

A node keeps documents in their stored form, by collection and id.  While it is
offline it refuses every call.
-/

namespace Polystore

/-- A server of documents. -/
structure Node where
  address : String
  online : Bool := true
  collections : Keyed (Keyed Json) := []
deriving Repr

namespace Node

/-- The documents of a collection, by id.  A collection that was never created
is empty. -/
def documents (node : Node) (collection : String) : Keyed Json :=
  (node.collections.get? collection).getD []

/-- The document of an id, in its stored form. -/
def document? (node : Node) (collection id : String) : Option Json :=
  (node.documents collection).get? id

/-- How many documents a collection holds, also while the node is offline. -/
def count (node : Node) (collection : String) : Nat :=
  (node.documents collection).length

/-- Take the node off the network, or bring it back. -/
def setOffline (node : Node) (offline : Bool) : Node :=
  { node with online := !offline }

/-- Carry out a call, unless the node is offline. -/
def call {α : Type} (node : Node) (action : Outcome Node α) : Outcome Node α :=
  if node.online then action else (.error (.unreachable node.address), node)

/-- Store a document, in place of the one of this id. -/
def store (node : Node) (collection id : String) (stored : Json) : Node :=
  { node with
    collections := Keyed.insert collection
      (Keyed.insert id stored (node.documents collection)) node.collections }

/-- Remove the document of an id. -/
def discard (node : Node) (collection id : String) : Node :=
  { node with collections := node.collections.adjust collection (Keyed.erase id) }

/-- Remove a collection with all its documents. -/
def discardAll (node : Node) (collection : String) : Node :=
  { node with collections := node.collections.erase collection }

/-- Carry out an operation of a transaction. -/
def perform (node : Node) : Operation → Node
  | .put collection id stored => node.store collection id stored
  | .delete collection id => node.discard collection id
  | .drop collection => node.discardAll collection

/-- Carry out the operations of a transaction in order. -/
def performAll (node : Node) (operations : List Operation) : Node :=
  operations.foldl perform node

/-- Read a document. -/
def get (node : Node) (collection id : String) : Except Error Json :=
  if node.online then
    match node.document? collection id with
    | some stored => .ok stored
    | none => .error (.documentMissing collection id)
  else .error (.unreachable node.address)

/-- Put a document. -/
def put (node : Node) (collection id : String) (stored : Json) : Outcome Node Unit :=
  node.call (.ok (), node.store collection id stored)

/-- Remove a document, which must be there. -/
def remove (node : Node) (collection id : String) : Outcome Node Unit :=
  node.call (match node.document? collection id with
    | some _ => (.ok (), node.discard collection id)
    | none => (.error (.documentMissing collection id), node))

/-- Create a collection, which may be there. -/
def createCollection (node : Node) (collection : String) : Outcome Node Unit :=
  node.call (.ok (), { node with
    collections := Keyed.insert collection (node.documents collection) node.collections })

/-- Drop a collection, which need not be there. -/
def dropCollection (node : Node) (collection : String) : Outcome Node Unit :=
  node.call (.ok (), node.discardAll collection)

/-- The documents of a collection that pass a test, in the order of their
ids. -/
def scan (node : Node) (collection : String) (keep : Json → Bool) :
    Except Error (List Json) :=
  if node.online then .ok ((node.documents collection).values.filter keep)
  else .error (.unreachable node.address)

/-- Carry out the operations of a transaction, all of them or none. -/
def commit (operations : List Operation) (node : Node) : Outcome Node Unit :=
  node.call (.ok (), node.performAll operations)

theorem documents_store (node : Node) (collection id other : String) (stored : Json) :
    (node.store collection id stored).documents other =
      if other = collection then Keyed.insert id stored (node.documents collection)
      else node.documents other := by
  simp only [store, documents, Keyed.get?_insert]
  split <;> rfl

theorem documents_discardAll (node : Node) (collection other : String) :
    (node.discardAll collection).documents other =
      if other = collection then [] else node.documents other := by
  simp only [discardAll, documents, Keyed.get?_erase]
  split <;> rfl

theorem documents_discard (node : Node) (collection id other : String) :
    (node.discard collection id).documents other =
      if other = collection then (node.documents collection).erase id
      else node.documents other := by
  have hadjust : (node.discard collection id).documents other =
      ((node.collections.get? other).map fun documents =>
        if other = collection then documents.erase id else documents).getD [] := by
    simp only [discard, documents, Keyed.get?_adjust]
  rw [hadjust]
  by_cases h : other = collection
  · subst h
    simp only [if_true, documents]
    cases node.collections.get? other <;> simp [Keyed.erase]
  · simp only [h, if_false, Option.map_id', documents]

/-- What an operation does to the document of an id. -/
theorem document?_perform (node : Node) (operation : Operation) (collection id : String) :
    (node.perform operation).document? collection id =
      match operation with
      | .put changed name stored =>
          if collection = changed ∧ id = name then some stored
          else node.document? collection id
      | .delete changed name =>
          if collection = changed ∧ id = name then none
          else node.document? collection id
      | .drop changed =>
          if collection = changed then none else node.document? collection id := by
  cases operation with
  | put changed name stored =>
      simp only [perform, document?, documents_store]
      by_cases h : collection = changed
      · subst h
        simp [Keyed.get?_insert]
      · simp [h]
  | delete changed name =>
      simp only [perform, document?, documents_discard]
      by_cases h : collection = changed
      · subst h
        simp [Keyed.get?_erase]
      · simp [h]
  | drop changed =>
      simp only [perform, document?, documents_discardAll]
      by_cases h : collection = changed <;> simp [h]

/-- Changing the documents leaves the network alone. -/
theorem online_performAll (node : Node) (operations : List Operation) :
    (node.performAll operations).online = node.online := by
  induction operations generalizing node with
  | nil => rfl
  | cons operation rest ih =>
      rw [performAll, List.foldl_cons]
      refine (ih (node.perform operation)).trans ?_
      cases operation <;> rfl

end Node

end Polystore
