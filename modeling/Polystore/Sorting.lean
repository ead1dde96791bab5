import Polystore.Json.Order
import Polystore.Json.Path
import Polystore.Sorting.Stable

/-!
# Sorting documents

Documents are sorted by fields in order of priority, each ascending or
descending.  A missing field counts as null, and documents that agree on every
field keep their order.
-/

namespace Polystore

/-- A field to sort by. -/
structure SortField where
  field : String
  ascending : Bool
deriving DecidableEq, Repr

/-- The order of two values under one sort field. -/
def SortField.directed (sort : SortField) (order : Ordering) : Ordering :=
  if sort.ascending then order else order.swap

/-- The order of two documents under one sort field. -/
def SortField.compareDocuments (sort : SortField) (left right : Json) : Ordering :=
  sort.directed (Json.totalOrder (left.lookup? sort.field) (right.lookup? sort.field))

/-- The order of two documents under sort fields in order of priority. -/
def compareBy (sorts : List SortField) (left right : Json) : Ordering :=
  match sorts with
  | [] => .eq
  | sort :: rest => (sort.compareDocuments left right).then (compareBy rest left right)

/-- Whether one document belongs before another. -/
def precedes (sorts : List SortField) (left right : Json) : Bool :=
  (compareBy sorts left right).isLT

/-- Documents in the order of some sort fields; the sort is stable. -/
def sortDocuments (sorts : List SortField) (documents : List Json) : List Json :=
  Sorting.stableSort (precedes sorts) documents

/-- Sorting gives the documents that were there. -/
theorem sortDocuments_perm (sorts : List SortField) (documents : List Json) :
    (sortDocuments sorts documents).Perm documents :=
  Sorting.stableSort_perm (precedes sorts) documents

end Polystore
