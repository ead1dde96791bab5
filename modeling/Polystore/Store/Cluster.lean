import Polystore.Cluster.Basic
import Polystore.Filter.Cache
import Polystore.Filter.Operators
import Polystore.Filter.Predicate
import Polystore.Query.Signature
import Polystore.Store.Basic

/-!
# Clustered stores

A clustered store can filter, sort, skip and count.  A query reads every segment
and merges what they hold.
-/

namespace Polystore

/-- A cluster whose nodes evaluate filters. -/
structure ClusterStore where
  cluster : Cluster
  cache : Filter.Cache Filter.Predicate

namespace ClusterStore

/-- A store over a cluster, with room for so many compiled filters. -/
def ofCluster (cluster : Cluster) (capacity : Nat) : ClusterStore where
  cluster := cluster
  cache := .ofCapacity capacity

/-- The filter of a condition. -/
def compile (condition : Condition) : Except Error Filter.Predicate :=
  (Filter.operators.compile condition).bind Filter.readFilter

/-- Act on the cluster of a store. -/
def onCluster {α : Type} (action : Cluster → Outcome Cluster α) (store : ClusterStore) :
    Outcome ClusterStore α :=
  let (result, cluster) := action store.cluster
  (result, { store with cluster := cluster })

/-- The documents that a query matches, in its order and in their stored
form. -/
def matching (query : Query) (store : ClusterStore) : Outcome ClusterStore (List Json) :=
  let (compiled, cache) :=
    store.cache.getOrCompile query.signature fun _ => compile query.condition
  let store := { store with cache := cache }
  match compiled with
  | .error cause => (.error cause, store)
  | .ok predicate =>
      match store.cluster.scan query.collection predicate.holds with
      | .error cause => (.error cause, store)
      | .ok found => (.ok (sortDocuments query.order found), store)

/-- The answer of a query that matches some stored documents. -/
def answer (query : Query) (found : List Json) : Answer :=
  if query.selectOne then .one (found.head?.map Document.withoutId)
  else
    let served := match query.page? with
      | some paging => (found.drop paging.skip).take paging.size
      | none => found
    .many (served.map Document.withoutId) found.length

/-- Run a query. -/
def query (query : Query) (store : ClusterStore) : Answer × ClusterStore :=
  let (found, store) := store.matching query
  (.ofExcept (found.map (answer query)), store)

/-- The text that stands for a value when values are counted. -/
def distinctKey : Json → String
  | .string value => value
  | other => other.render

/-- Count one more document under a key. -/
def countUnder (counts : Keyed Nat) (key : String) : Keyed Nat :=
  Keyed.insert key ((counts.get? key).getD 0 + 1) counts

/-- How many matching documents there are for every value of a field; documents
without the field are not counted. -/
def countDistinct (query : Query) (field : String) (store : ClusterStore) :
    Outcome ClusterStore (Keyed Nat) :=
  let (found, store) := store.matching query
  (found.map fun documents =>
    (documents.filterMap fun document =>
      (document.lookup? field).map distinctKey).foldl countUnder [], store)

instance : DocumentStore ClusterStore where
  put collection id value := onCluster fun cluster => cluster.put collection id value
  get collection id store := store.cluster.get collection id
  delete collection id := onCluster fun cluster => cluster.delete collection id
  query := query
  commit operations := onCluster (Cluster.commit operations)
  createCollection collection := onCluster fun cluster => cluster.createCollection collection
  dropCollection collection := onCluster fun cluster => cluster.dropCollection collection
  countDistinct := countDistinct

end ClusterStore

end Polystore
