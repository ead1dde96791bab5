import Polystore.Bisection
import Polystore.Cluster.Basic
import Polystore.Filter.Cache
import Polystore.Filter.Cursor
import Polystore.Query.PageMemo
import Polystore.Query.Signature
import Polystore.Store.Basic

/-!
# Cursor stores

A cursor store can only be read forward from a marker.  It cannot skip, so it
finds pages through the memo of page boundaries, and it cannot count, so it
reports as many documents as it serves.
-/

namespace Polystore

/-- The position of a document in the order of a query: the values of the
fields that the query sorts by, and the id. -/
structure Marker where
  keys : List Json
  id : String
deriving Repr

namespace Marker

/-- The position of a stored document. -/
def ofDocument (order : List SortField) (document : Json) : Marker where
  keys := order.map fun sort => (document.lookup? sort.field).getD .null
  id := (Document.idOf? document).getD ""

/-- The order of a document and the values of a marker, field after field. -/
def compareKeys (document : Json) : List SortField → List Json → Ordering
  | sort :: sorts, key :: keys =>
      (sort.directed (Json.totalOrder (document.lookup? sort.field) (some key))).then
        (compareKeys document sorts keys)
  | _, _ => .eq

/-- The order of a document and a marker. -/
def compareDocument (marker : Marker) (order : List SortField) (document : Json) : Ordering :=
  (compareKeys document order marker.keys).then
    (compareOfLessAndEq ((Document.idOf? document).getD "") marker.id)

end Marker

/-- A cluster whose nodes offer cursors. -/
structure CursorStore where
  cluster : Cluster
  cache : Filter.Cache Filter.CursorFilter
  memo : PageMemo Marker := {}

namespace CursorStore

/-- A store over a cluster, with room for so many compiled filters. -/
def ofCluster (cluster : Cluster) (capacity : Nat) : CursorStore where
  cluster := cluster
  cache := .ofCapacity capacity

/-- Act on the cluster of a store. -/
def onCluster {α : Type} (action : Cluster → Outcome Cluster α) (store : CursorStore) :
    Outcome CursorStore α :=
  let (result, cluster) := action store.cluster
  (result, { store with cluster := cluster })

/-- The documents of some order that come after a marker. -/
def beyond (order : List SortField) (after : Option Marker) (documents : List Json) :
    List Json :=
  match after with
  | some marker =>
      let isPassed (document : Json) : Bool := marker.compareDocument order document != .gt
      documents.drop (bisect isPassed documents)
  | none => documents

/-- Read forward: the matching documents after a marker, in the order of the
query and in their stored form. -/
def readAfter (cluster : Cluster) (query : Query) (filter : Filter.CursorFilter)
    (after : Option Marker) : Except Error (List Json) :=
  (cluster.scan query.collection filter.holds).map fun found =>
    beyond query.order after (sortDocuments query.order found)

/-- The position of the last of some documents. -/
def lastMarker (query : Query) (documents : List Json) : Option Marker :=
  documents.getLast?.map (Marker.ofDocument query.order)

/-- Read the documents after a marker, for finding the ends of pages. -/
def fetch (query : Query) (filter : Filter.CursorFilter) : PageMemo.Fetch Cluster Marker :=
  fun after limit cluster =>
    match readAfter cluster query filter after with
    | .error cause => (.error cause, cluster)
    | .ok found =>
        let documents := found.take limit
        (.ok (documents.length, lastMarker query documents), cluster)

/-- Serve the page that comes after a marker, and remember where it ends. -/
def servePage (query : Query) (filter : Filter.CursorFilter) (paging : Paging)
    (after : Option Marker) (store : CursorStore) : Outcome CursorStore Answer :=
  match readAfter store.cluster query filter after with
  | .error cause => (.error cause, store)
  | .ok found =>
      let documents := found.take paging.size
      let memo := store.memo.record query.signature paging documents.length
        (lastMarker query documents)
      (.ok (.many (documents.map Document.withoutId) documents.length),
        { store with memo := memo })

/-- Find a page and serve it. -/
def runPage (query : Query) (filter : Filter.CursorFilter) (paging : Paging)
    (store : CursorStore) : Outcome CursorStore Answer :=
  let (start, memo, _) :=
    store.memo.locate query.signature paging (fetch query filter) store.cluster
  let store := { store with memo := memo }
  match start with
  | .error cause => (.error cause, store)
  | .ok .exhausted => (.ok .exhausted, store)
  | .ok .first => servePage query filter paging none store
  | .ok (.after marker) => servePage query filter paging (some marker) store

/-- Run a query with a compiled filter. -/
def runWith (query : Query) (filter : Filter.CursorFilter) (store : CursorStore) :
    Outcome CursorStore Answer :=
  if query.selectOne then
    ((readAfter store.cluster query filter none).map fun found =>
      .one (found.head?.map Document.withoutId), store)
  else
    match query.page? with
    | some paging => runPage query filter paging store
    | none =>
        ((readAfter store.cluster query filter none).map fun found =>
          .many (found.map Document.withoutId) found.length, store)

/-- Run a query. -/
def query (query : Query) (store : CursorStore) : Answer × CursorStore :=
  let (compiled, cache) :=
    store.cache.getOrCompile query.signature fun _ => Filter.cursor.compile query.condition
  let store := { store with cache := cache }
  match compiled with
  | .error cause => (.failed cause, store)
  | .ok filter =>
      let (answer, store) := runWith query filter store
      (.ofExcept answer, store)

/-- Forget the pages of a query.  A query that asks for no page has none. -/
def forgetPages (query : Query) (store : CursorStore) : CursorStore :=
  if query.paging.isSome then { store with memo := store.memo.clean query.signature }
  else store

instance : DocumentStore CursorStore where
  put collection id value := onCluster fun cluster => cluster.put collection id value
  get collection id store := store.cluster.get collection id
  delete collection id := onCluster fun cluster => cluster.delete collection id
  query := query
  commit operations := onCluster (Cluster.commit operations)
  createCollection collection := onCluster fun cluster => cluster.createCollection collection
  dropCollection _ store := (.error (.notOffered "del_collection on a cursor store"), store)
  forgetPages := forgetPages

end CursorStore

end Polystore
