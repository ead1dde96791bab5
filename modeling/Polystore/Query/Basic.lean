import Polystore.Condition
import Polystore.Sorting

/-!
# Queries

A query names a collection, a condition, an order and a page, and is the same
for every backend.
-/

namespace Polystore

/-- A page: pages are numbered from zero. -/
structure Paging where
  number : Nat
  size : Nat
deriving DecidableEq, Repr

/-- How many documents come before a page.  The number is a word, so pages are meant
that begin before the document `2 ^ 64`. -/
def Paging.skip (paging : Paging) : Nat :=
  paging.number * paging.size

/-- A query over one collection. -/
structure Query where
  collection : String
  /-- Whether one document is wanted instead of all. -/
  selectOne : Bool := false
  condition : Condition := .always
  sorts : List SortField := []
  paging : Option Paging := none
deriving Repr

namespace Query

/-- The page that a query asks for.  Only queries for all documents have pages,
and a page of no documents is no page. -/
def page? (query : Query) : Option Paging :=
  match query.paging with
  | some paging => if paging.size > 0 ∧ query.selectOne = false then some paging else none
  | none => none

/-- The same query without pages. -/
def unpaged (query : Query) : Query :=
  { query with paging := none }

end Query

end Polystore
