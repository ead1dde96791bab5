import Polystore.Json.Basic

/-!
# Operations of a transaction

What a transaction asks a store to do.  A document to put is in its stored form
already.
-/

namespace Polystore

/-- An operation of a transaction. -/
inductive Operation where
  | put (collection id : String) (stored : Json)
  | delete (collection id : String)
  /-- Drop a collection with all its documents. -/
  | drop (collection : String)
deriving Repr

/-- The collection that an operation acts on. -/
def Operation.collection : Operation → String
  | put collection _ _ => collection
  | delete collection _ => collection
  | drop collection => collection

end Polystore
