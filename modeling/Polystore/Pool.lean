import Polystore.Connection.Descriptor
import Polystore.Failure

/-!
# Connection pools

A pool has one segment for every cluster of a connection string, and a segment
has one connection for every replica.  Selecting a connection takes turns:
inside a segment the turn moves on with every selection there, and round robin
moves from segment to segment first.  Turns are counted in words and start again
after the last one.

Keys are routed to segments by the sum of their bytes, so that every process
routes a key to the same segment.
-/

namespace Polystore

open Connection

/-- The sum of the bytes of a key. -/
def shadingHash (key : String) : Nat :=
  key.toUTF8.toList.foldl (fun total byte => total + byte.toNat) 0

/-- The connections of one cluster. -/
structure Segment (κ : Type) where
  descriptor : Descriptor
  connections : List κ
  /-- How many selections were made in the segment, counted in a word. -/
  turns : UInt64 := 0
  nonempty : connections ≠ []

namespace Segment

variable {κ : Type}

/-- The position of the connection that a turn selects. -/
def position (segment : Segment κ) (turn : Nat) : Nat :=
  turn % segment.connections.length

theorem position_lt (segment : Segment κ) (turn : Nat) :
    segment.position turn < segment.connections.length :=
  Nat.mod_lt _ (List.length_pos_iff.mpr segment.nonempty)

/-- The connection that a turn selects. -/
def connectionAt (segment : Segment κ) (turn : Nat) : κ :=
  segment.connections.get ⟨segment.position turn, segment.position_lt turn⟩

/-- The segment after one more selection. -/
def advance (segment : Segment κ) : Segment κ :=
  { segment with turns := segment.turns + 1 }

/-- The connection that the next selection gives. -/
def next (segment : Segment κ) : κ :=
  segment.connectionAt (segment.turns + 1).toNat

end Segment

/-- A pool of connections. -/
structure Pool (κ : Type) where
  segments : List (Segment κ)
  /-- How many selections went round the segments, counted in a word. -/
  turns : UInt64 := 0
  nonempty : segments ≠ []

namespace Pool

variable {κ : Type}

/-- What makes a connection for one replica of a cluster. -/
structure Connector (κ : Type) where
  make : Descriptor → Nat → Except Error κ
  /-- How many bytes a connection takes in a list. -/
  bytes : Nat

instance : CoeFun (Connector κ) fun _ => Descriptor → Nat → Except Error κ :=
  ⟨Connector.make⟩

/-- The number of segments. -/
def segmentCount (pool : Pool κ) : Nat :=
  pool.segments.length

theorem segmentCount_pos (pool : Pool κ) : 0 < pool.segmentCount :=
  List.length_pos_iff.mpr pool.nonempty

/-- A descriptor that asks for no replica gets one. -/
def normalize (descriptor : Descriptor) : Descriptor :=
  { descriptor with replicas := max descriptor.replicas 1 }

/-- What a refused connection is reported as: a failure of the transport, in
its own words if it was one already. -/
def refusal (descriptor : Descriptor) (cause : Error) : Error :=
  if cause.kind = .transportFailure then cause
  else .connectionRefused descriptor.display cause

/-- Connections for so many replicas from a first one on, or the first
refusal. -/
def connectFrom (connect : Connector κ) (descriptor : Descriptor) :
    (count first : Nat) → Except Error (List κ)
  | 0, _ => .ok []
  | count + 1, first =>
      match connect descriptor first with
      | .error cause => .error (refusal descriptor cause)
      | .ok connection =>
          match connectFrom connect descriptor count (first + 1) with
          | .error cause => .error cause
          | .ok connections => .ok (connection :: connections)

theorem length_of_connectFrom {connect : Connector κ} {descriptor : Descriptor}
    {count first : Nat} {connections : List κ}
    (h : connectFrom connect descriptor count first = .ok connections) :
    connections.length = count := by
  induction count generalizing first connections with
  | zero =>
      simp only [connectFrom, Except.ok.injEq] at h
      simp [← h]
  | succ count ih =>
      rw [connectFrom] at h
      split at h
      · simp at h
      · split at h
        · simp at h
        · next hrest =>
          simp only [Except.ok.injEq] at h
          simp [← h, ih hrest]

/-- The segment of a cluster.  Room for all its connections is asked for before the first of
them is made. -/
def connectSegment (connect : Connector κ) (descriptor : Descriptor) :
    Except Failure (Segment κ) :=
  if CanReserve connect.bytes (normalize descriptor).replicas then
    match h : connectFrom connect (normalize descriptor) (normalize descriptor).replicas 0 with
    | .error cause => .error (.error cause)
    | .ok connections =>
        .ok {
          descriptor := normalize descriptor
          connections := connections
          nonempty := by
            intro hempty
            have hlength := length_of_connectFrom h
            simp only [hempty, List.length_nil, normalize] at hlength
            omega }
  else .error (.panic .capacity)

theorem eq_of_connectSegment {connect : Connector κ} {descriptor : Descriptor}
    {segment : Segment κ} (h : connectSegment connect descriptor = .ok segment) :
    connectFrom connect (normalize descriptor) (normalize descriptor).replicas 0 =
        .ok segment.connections ∧
      segment.descriptor = normalize descriptor ∧ segment.turns = 0 := by
  rw [connectSegment] at h
  split at h
  · split at h
    · simp at h
    · next connected =>
      simp only [Except.ok.injEq] at h
      simp [← h, connected]
  · simp at h

/-- The segments of some clusters, or the first failure. -/
def connectAll (connect : Connector κ) : List Descriptor → Except Failure (List (Segment κ))
  | [] => .ok []
  | descriptor :: rest =>
      match connectSegment connect descriptor with
      | .error failure => .error failure
      | .ok segment =>
          match connectAll connect rest with
          | .error failure => .error failure
          | .ok segments => .ok (segment :: segments)

/-- The pool of the clusters of a specification. -/
def ofSpec (spec : Spec) (connect : Connector κ) : Except Failure (Pool κ) :=
  match connectAll connect spec.clusters with
  | .error failure => .error failure
  | .ok [] => .error (.error .noDescriptor)
  | .ok (first :: rest) => .ok { segments := first :: rest, nonempty := by simp }

/-- The pool of a connection string. -/
def init (raw : String) (connect : Connector κ) : Except Failure (Pool κ) :=
  match Spec.parse raw with
  | .error cause => .error (.error cause)
  | .ok spec => ofSpec spec connect

/-- A pool of one connection. -/
def single (descriptor : Descriptor) (connection : κ) : Pool κ where
  segments := [{ descriptor, connections := [connection], nonempty := by simp }]
  nonempty := by simp

/-- All connections, segment after segment. -/
def connections (pool : Pool κ) : List κ :=
  pool.segments.flatMap (·.connections)

/-- The number of connections in a segment. -/
def segmentLength (pool : Pool κ) (position : Nat) : Nat :=
  (pool.segments[position]?.map fun segment => segment.connections.length).getD 0

/-- The position of a segment's first connection among all connections. -/
def segmentBegin (pool : Pool κ) (position : Nat) : Nat :=
  ((pool.segments.take position).flatMap (·.connections)).length

/-- The segment that a key is routed to. -/
def segmentOf (pool : Pool κ) (key : String) : Nat :=
  shadingHash key % pool.segmentCount

/-- Select from the segment at a position. -/
def select (pool : Pool κ) (position : Nat) (inside : position < pool.segmentCount) :
    κ × Pool κ :=
  let segment := pool.segments.get ⟨position, inside⟩
  (segment.next,
    { pool with
      segments := pool.segments.set position segment.advance
      nonempty := by
        intro hempty
        have hlength := congrArg List.length hempty
        simp only [List.length_set, List.length_nil] at hlength
        exact pool.nonempty (List.eq_nil_of_length_eq_zero hlength) })

/-- Select from the first segment. -/
def first (pool : Pool κ) : κ × Pool κ :=
  pool.select 0 pool.segmentCount_pos

/-- Select from a segment by its number, counted round and round. -/
def selectId (pool : Pool κ) (number : Nat) : κ × Pool κ :=
  pool.select (number % pool.segmentCount) (Nat.mod_lt _ pool.segmentCount_pos)

/-- Select from the next segment in turn. -/
def selectRobin (pool : Pool κ) : κ × Pool κ :=
  let moved : Pool κ := { pool with turns := pool.turns + 1 }
  moved.select (moved.turns.toNat % moved.segmentCount) (Nat.mod_lt _ moved.segmentCount_pos)

/-- Select from the segment that a key is routed to. -/
def selectShading (pool : Pool κ) (key : String) : κ × Pool κ :=
  pool.select (pool.segmentOf key) (Nat.mod_lt _ pool.segmentCount_pos)

end Pool

end Polystore
