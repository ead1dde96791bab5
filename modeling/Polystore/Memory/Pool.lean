import Polystore.Memory.Node
import Polystore.Pool

/-!
# Pools of caches

A cache pool is made of segments like any pool.  Plain calls go to the first
segment; a routed call goes to the segment of its key, so that a key always lands
on the same node.
-/

namespace Polystore

/-- The segment that a call goes to. -/
inductive Route where
  | first
  | byKey
deriving DecidableEq, Repr

/-- Cache nodes, and the segments that they keep. -/
structure MemoryPool where
  /-- The name of the node of every segment. -/
  segments : List String
  /-- The nodes by name; one that is not listed is empty. -/
  nodes : Keyed MemoryNode := []

namespace MemoryPool

/-- A pool of one node. -/
def single : MemoryPool where
  segments := ["local"]

/-- What connects to the node at the address of a cluster, whichever replica is asked for: a
connection is its name.  In memory it is a pointer. -/
def byAddress : Pool.Connector String where
  make descriptor _ := .ok descriptor.address
  bytes := 8

/-- The pool of a connection string. -/
def connect (raw : String) : Except Failure MemoryPool :=
  (Pool.init raw byAddress).map fun pool =>
    { segments := pool.segments.map fun segment => segment.connectionAt 0 }

/-- The node of a name. -/
def node (pool : MemoryPool) (name : String) : MemoryNode :=
  (pool.nodes.get? name).getD {}

/-- Replace the node of a name. -/
def setNode (pool : MemoryPool) (name : String) (node : MemoryNode) : MemoryPool :=
  { pool with nodes := Keyed.insert name node pool.nodes }

/-- The segment of a key. -/
def segmentOf (pool : MemoryPool) (key : String) : Nat :=
  shadingHash key % pool.segments.length

/-- The name of the node that a call goes to; a pool without segments has
none. -/
def target? (pool : MemoryPool) (route : Route) (key : String) : Option String :=
  match route with
  | .first => pool.segments.head?
  | .byKey => pool.segments[pool.segmentOf key]?

/-- Call the node of a key. -/
def call {α : Type} (pool : MemoryPool) (route : Route) (key : String)
    (action : MemoryNode → Outcome MemoryNode α) : Outcome MemoryPool α :=
  match pool.target? route key with
  | none => (.error .noSegment, pool)
  | some name =>
      let (result, node) := action (pool.node name)
      (result, pool.setNode name node)

/-- Keep a value under a key, forever or for a time. -/
def set (route : Route) (key value : String) (ttl : Option Nat) (now : Nat)
    (pool : MemoryPool) : Except Failure Unit × MemoryPool :=
  match MemoryNode.expiry ttl now with
  | .error cause => (.error (.panic cause), pool)
  | .ok expires =>
      (pool.call route key fun node => (.ok (), node.set key value expires)).map
        (Except.mapError .error) id

/-- Keep an integer under a key, forever or for a time. -/
def setInteger (route : Route) (key : String) (value : Int) (ttl : Option Nat) (now : Nat)
    (pool : MemoryPool) : Except Failure Unit × MemoryPool :=
  pool.set route key (String.ofList (Text.ofInt value)) ttl now

/-- Add to the counter under a key. -/
def add (route : Route) (key : String) (delta : Int) (now : Nat) (pool : MemoryPool) :
    Outcome MemoryPool Int :=
  pool.call route key fun node => node.add key delta now

/-- Take from the counter under a key.  The least signed word has no opposite, so
it cannot be taken. -/
def subtract (route : Route) (key : String) (amount : Int) (now : Nat) (pool : MemoryPool) :
    Outcome MemoryPool Int :=
  if Text.fitsSigned (-amount) then pool.add route key (-amount) now
  else (.error (.cannotDecrement key amount), pool)

/-- Read the value of a key. -/
def get (route : Route) (key : String) (now : Nat) (pool : MemoryPool) :
    Outcome MemoryPool String :=
  pool.call route key fun node => node.get key now

/-- Read the value of a key as an integer. -/
def getInteger (route : Route) (key : String) (now : Nat) (pool : MemoryPool) :
    Outcome MemoryPool Int :=
  let (found, pool) := pool.get route key now
  (found.bind (MemoryNode.readInteger key), pool)

/-- Remove what is kept under a key. -/
def delete (route : Route) (key : String) (pool : MemoryPool) : Outcome MemoryPool Unit :=
  pool.call route key fun node => (.ok (), node.delete key)

/-- The keys of a wildcard pattern on the nodes of some names, ascending and
without repetitions. -/
def keysFrom (pool : MemoryPool) (pattern : String) (now : Nat) :
    List String → Except Error (Keyed Unit)
  | [] => .ok []
  | name :: rest =>
      match (pool.node name).keys pattern now with
      | .error cause => .error cause
      | .ok found =>
          match keysFrom pool pattern now rest with
          | .error cause => .error cause
          | .ok more => .ok (found.foldl (fun keys key => Keyed.insert key () keys) more)

/-- The keys of a wildcard pattern on all segments, ascending and without
repetitions. -/
def findKeys (pattern : String) (now : Nat) (pool : MemoryPool) : Except Error (List String) :=
  (pool.keysFrom pattern now pool.segments).map Keyed.names

end MemoryPool

end Polystore
