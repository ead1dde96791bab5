import Polystore.Cluster.Node
import Polystore.Pool

/-!
# Clusters

A cluster spreads documents over segments, each of which is kept by a node.  The
segment that owns a document follows from the collection and the id, so a put
and the read after it reach the same node.  Nodes are known by name, and two
segments of one name share a node.
-/

namespace Polystore

/-- Nodes, and the segments that they keep. -/
structure Cluster where
  /-- The name of the node of every segment. -/
  segments : List String
  /-- The nodes by name.  A node that is not listed is online and empty, and its
  name is its address. -/
  nodes : Keyed Node := []

/-- The key that decides which segment owns a document. -/
def documentKey (collection id : String) : String :=
  collection ++ "$" ++ id

namespace Cluster

/-- The node of a name. -/
def node (cluster : Cluster) (name : String) : Node :=
  (cluster.nodes.get? name).getD { address := name }

/-- Replace the node of a name. -/
def setNode (cluster : Cluster) (name : String) (node : Node) : Cluster :=
  { cluster with nodes := Keyed.insert name node cluster.nodes }

/-- Call the node of a name. -/
def atNode {α : Type} (cluster : Cluster) (name : String)
    (action : Node → Outcome Node α) : Outcome Cluster α :=
  let (result, node) := action (cluster.node name)
  (result, cluster.setNode name node)

/-- The position of the segment that owns a document. -/
def segmentOf (cluster : Cluster) (collection id : String) : Nat :=
  shadingHash (documentKey collection id) % cluster.segments.length

/-- The name of the node that owns a document; a cluster without segments has
none. -/
def ownerOf (cluster : Cluster) (collection id : String) : Except Error String :=
  match cluster.segments[cluster.segmentOf collection id]? with
  | some name => .ok name
  | none => .error .noSegment

/-- Put a document. -/
def put (cluster : Cluster) (collection id : String) (value : Json) : Outcome Cluster Unit :=
  match Document.withId id value, cluster.ownerOf collection id with
  | .error cause, _ | .ok _, .error cause => (.error cause, cluster)
  | .ok stored, .ok name => cluster.atNode name fun node => node.put collection id stored

/-- Read a document. -/
def get (cluster : Cluster) (collection id : String) : Except Error Json :=
  match cluster.ownerOf collection id with
  | .error cause => .error cause
  | .ok name => ((cluster.node name).get collection id).map Document.withoutId

/-- Remove a document, which must be there. -/
def delete (cluster : Cluster) (collection id : String) : Outcome Cluster Unit :=
  match cluster.ownerOf collection id with
  | .error cause => (.error cause, cluster)
  | .ok name => cluster.atNode name fun node => node.remove collection id

/-- Call the nodes of some names in order, up to the first that fails. -/
def forEach (action : Node → Outcome Node Unit) : List String → Cluster → Outcome Cluster Unit
  | [], cluster => (.ok (), cluster)
  | name :: rest, cluster =>
      match cluster.atNode name action with
      | (.error cause, cluster) => (.error cause, cluster)
      | (.ok (), cluster) => forEach action rest cluster

/-- Create a collection on every segment. -/
def createCollection (cluster : Cluster) (collection : String) : Outcome Cluster Unit :=
  forEach (fun node => node.createCollection collection) cluster.segments cluster

/-- Drop a collection from every segment. -/
def dropCollection (cluster : Cluster) (collection : String) : Outcome Cluster Unit :=
  forEach (fun node => node.dropCollection collection) cluster.segments cluster

/-- The documents of a collection that pass a test, from nodes of some names in
order. -/
def scanFrom (cluster : Cluster) (collection : String) (keep : Json → Bool) :
    List String → Except Error (List Json)
  | [] => .ok []
  | name :: rest =>
      match (cluster.node name).scan collection keep with
      | .error cause => .error cause
      | .ok found =>
          match scanFrom cluster collection keep rest with
          | .error cause => .error cause
          | .ok more => .ok (found ++ more)

/-- The documents of a collection that pass a test, segment after segment. -/
def scan (cluster : Cluster) (collection : String) (keep : Json → Bool) :
    Except Error (List Json) :=
  cluster.scanFrom collection keep cluster.segments

/-- Whether an operation of a transaction concerns one of so many segments: the
drop of a collection concerns all of them, and other operations the segment that
owns the document. -/
def concerns (segmentCount position : Nat) : Operation → Bool
  | .put collection id _ | .delete collection id =>
      shadingHash (documentKey collection id) % segmentCount = position
  | .drop _ => true

/-- The segments that some operations concern, each with its share of the
operations in order. -/
def shares (cluster : Cluster) (operations : List Operation) :
    List (String × List Operation) :=
  (cluster.segments.zipIdx.map fun (name, position) =>
    (name, operations.filter (concerns cluster.segments.length position))).filter
      fun share => ¬share.2.isEmpty

/-- Carry out a share of the operations on its node. -/
def performShare (cluster : Cluster) (share : String × List Operation) : Cluster :=
  cluster.setNode share.1 ((cluster.node share.1).performAll share.2)

/-- Carry out the operations of a transaction.  Every node that is concerned is
looked at before the first is changed, so an offline node stops all of them. -/
def commit (operations : List Operation) (cluster : Cluster) : Outcome Cluster Unit :=
  if cluster.segments = [] then (.error .noSegment, cluster)
  else
    let shares := cluster.shares operations
    match shares.find? fun share => (cluster.node share.1).online = false with
    | some share => (.error (.unreachable (cluster.node share.1).address), cluster)
    | none => (.ok (), shares.foldl performShare cluster)

/-- Take the node of a name off the network, or bring it back. -/
def setOffline (cluster : Cluster) (name : String) (offline : Bool) : Cluster :=
  cluster.setNode name ((cluster.node name).setOffline offline)

/-- What makes a connection to a node: its name.  A connection that is to be
checked against a file of certificates is refused if there is no such file.  In
memory a connection is a pointer. -/
def connector (hasFile : String → Bool) : Pool.Connector String where
  make descriptor _ :=
    match descriptor.tls.bind (·.bundle) with
    | some path =>
        if hasFile path then .ok descriptor.address else .error (.bundleMissing path)
    | none => .ok descriptor.address
  bytes := 8

/-- The cluster of a pool of connections. -/
def ofPool (pool : Pool String) : Cluster where
  segments := pool.segments.map fun segment => segment.connectionAt 0

/-- The cluster of a connection string. -/
def connect (raw : String) (hasFile : String → Bool) : Except Failure Cluster :=
  (Pool.init raw (connector hasFile)).map ofPool

theorem node_setNode (cluster : Cluster) (name other : String) (node : Node) :
    (cluster.setNode name node).node other =
      if other = name then node else cluster.node other := by
  simp only [setNode, Cluster.node, Keyed.get?_insert]
  split <;> rfl

/-- A transaction that fails leaves the cluster as it was. -/
theorem commit_eq_of_error {operations : List Operation} {cluster after : Cluster}
    {cause : Error} (h : commit operations cluster = (.error cause, after)) :
    after = cluster := by
  simp only [commit] at h
  split at h
  · simp_all
  · split at h <;> simp_all

end Cluster

end Polystore
