import Polystore.Query.Answer
import Polystore.Query.Basic
import Polystore.Transaction.Basic

/-!
# Document stores

What every backend offers: documents by collection and id, queries, and
transactions whose operations are all carried out or none.
-/

namespace Polystore

/-- States of a store of documents. -/
class DocumentStore (σ : Type) where
  put : (collection id : String) → (value : Json) → σ → Outcome σ Unit
  get : (collection id : String) → σ → Except Error Json
  /-- Remove a document; a missing one is reported as `notFound`. -/
  delete : (collection id : String) → σ → Outcome σ Unit
  /-- A query whose condition cannot be compiled contacts no node. -/
  query : Query → σ → Answer × σ
  /-- Carry out the operations of a transaction, all of them or none. -/
  commit : Transaction.Sink σ
  createCollection : (collection : String) → σ → Outcome σ Unit
  dropCollection : (collection : String) → σ → Outcome σ Unit
  /-- Forget the positions of pages of a query. -/
  forgetPages : Query → σ → σ := fun _ state => state
  /-- How many matching documents there are for every value of a field. -/
  countDistinct : Query → (field : String) → σ → Outcome σ (Keyed Nat) :=
    fun _ _ state => (.error (.notOffered "collect_distinct"), state)

/-- The order of a query's documents: the fields that it sorts by, and then the
ids, so that no two documents are level. -/
def Query.order (query : Query) : List SortField :=
  query.sorts ++ [⟨Document.reservedField, true⟩]

end Polystore
