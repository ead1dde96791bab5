import Polystore.Store.Cluster
import Polystore.Store.Cursor
import Polystore.Store.Files

/-!
# Backends

A document pool has one of three backends, which is chosen when it is opened.
All of them share the disk of the machine.
-/

namespace Polystore

/-- What keeps the documents of a pool. -/
inductive Backend where
  | cluster (store : ClusterStore)
  | cursor (store : CursorStore)
  | files (folder : Folder)

/-- A document pool on a machine. -/
structure DocumentPool where
  backend : Backend
  disk : Disk

namespace DocumentPool

/-- Act on the store of a pool, whichever it is. -/
def act {β : Type} (action : {σ : Type} → [DocumentStore σ] → σ → β × σ)
    (pool : DocumentPool) : β × DocumentPool :=
  match pool.backend with
  | .cluster store =>
      let (result, store) := action store
      (result, { pool with backend := .cluster store })
  | .cursor store =>
      let (result, store) := action store
      (result, { pool with backend := .cursor store })
  | .files folder =>
      let (result, store) := action (FileStore.mk folder pool.disk)
      (result, { backend := .files store.folder, disk := store.disk })

/-- Read a document. -/
def get (collection id : String) (pool : DocumentPool) : Except Error Json :=
  match pool.backend with
  | .cluster store => DocumentStore.get collection id store
  | .cursor store => DocumentStore.get collection id store
  | .files folder => DocumentStore.get collection id (FileStore.mk folder pool.disk)

instance : DocumentStore DocumentPool where
  put collection id value := act (DocumentStore.put collection id value)
  get := get
  delete collection id := act (DocumentStore.delete collection id)
  query query := act (DocumentStore.query query)
  commit operations := act (DocumentStore.commit operations)
  createCollection collection := act (DocumentStore.createCollection collection)
  dropCollection collection := act (DocumentStore.dropCollection collection)
  forgetPages query pool :=
    (act (fun store => ((), DocumentStore.forgetPages query store)) pool).2
  countDistinct query field := act (DocumentStore.countDistinct query field)

/-- The cluster of a pool that has one. -/
def cluster? (pool : DocumentPool) : Option Cluster :=
  match pool.backend with
  | .cluster store => some store.cluster
  | .cursor store => some store.cluster
  | .files _ => none

/-- Take the node of an address off the network, or bring it back, if the pool
has such a node. -/
def setOffline (address : String) (offline : Bool) (pool : DocumentPool) : DocumentPool :=
  let change (cluster : Cluster) : Cluster :=
    if address ∈ cluster.segments then cluster.setOffline address offline else cluster
  match pool.backend with
  | .cluster store =>
      { pool with backend := .cluster { store with cluster := change store.cluster } }
  | .cursor store =>
      { pool with backend := .cursor { store with cluster := change store.cluster } }
  | .files _ => pool

end DocumentPool

end Polystore
