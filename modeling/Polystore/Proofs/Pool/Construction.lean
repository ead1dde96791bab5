import Polystore.Proofs.Pool.Selections

/-!
# Making pools

A pool is made by requests, cluster after cluster: for room for the connections of the cluster,
and then for one connection after the other, by calls to a connector.  The first request that is
not granted is the last one, and it tells what comes of the making.  Otherwise the connections lie
in one list in the order of the calls, and the segments divide this list among themselves.
-/

namespace Polystore.Pool

open Connection

variable {κ α β : Type}

/-! ## Dialogs with a connector -/

/-- A call to a connector: a cluster, and the number of the replica to connect. -/
abbrev Call := Descriptor × Nat

/-- What is asked for when a pool is made: room for so many connections, or a connection. -/
inductive Request where
  | room (count : Nat)
  | call (call : Call)

/-- The call to a connector that a request is. -/
def Request.call? : Request → Option Call
  | .room _ => none
  | .call asked => some asked

/-- Requests one after the other, each of which depends on how those before it were answered. -/
inductive Dialog (κ α : Type) where
  | done (result : Except Failure α)
  | reserve (count : Nat) (next : Dialog κ α)
  | ask (call : Call) (next : Except Error κ → Dialog κ α)

/-- A call that gives a connection. -/
def Answered (connect : Connector κ) (call : Call) : Prop :=
  ∃ connection, connect call.1 call.2 = .ok connection

/-- A request that is granted: there is the room, or the call gives a connection. -/
def Granted (connect : Connector κ) : Request → Prop
  | .room count => CanReserve connect.bytes count
  | .call call => Answered connect call

/-- How a request fails: a lack of room is a panic, and a refused call is reported. -/
def Refused (connect : Connector κ) : Request → Failure → Prop
  | .room count, failure => ¬ CanReserve connect.bytes count ∧ failure = .panic .capacity
  | .call call, failure => ∃ refused,
      connect call.1 call.2 = .error refused ∧ failure = .error (refusal call.1 refused)

theorem Refused.not_granted {connect : Connector κ} {request : Request} {failure : Failure}
    (refused : Refused connect request failure) : ¬ Granted connect request := by
  cases request with
  | room count => exact refused.1
  | call call =>
      obtain ⟨cause, given, -⟩ := refused
      rintro ⟨connection, answer⟩
      exact absurd (given.symm.trans answer) nofun

/-- How some requests end: all of them are made and granted, or those that are made end with the
first that is not, and the failure tells of it. -/
def Ends (connect : Connector κ) (asked made : List Request) : Except Failure α → Prop
  | .ok _ => (∀ request ∈ asked, Granted connect request) ∧ made = asked
  | .error failure => ∃ before request after, asked = before ++ request :: after ∧
      (∀ earlier ∈ before, Granted connect earlier) ∧
      Refused connect request failure ∧ made = before ++ [request]

section

variable {connect : Connector κ} {asked made : List Request}

/-- No request follows one that is not granted. -/
theorem Ends.stop {failure : Failure}
    (first : Ends connect asked made (.error failure : Except Failure α)) (more : List Request) :
    Ends connect (asked ++ more) made (.error failure : Except Failure β) := by
  obtain ⟨before, request, after, rfl, earlier, refused, last⟩ := first
  refine ⟨before, request, after ++ more, ?_, earlier, refused, last⟩
  rw [List.append_assoc, List.cons_append]

/-- Requests that are granted are followed by others. -/
theorem Ends.append {more later : List Request} {value : α} {result : Except Failure β}
    (first : Ends connect asked made (.ok value : Except Failure α))
    (second : Ends connect more later result) :
    Ends connect (asked ++ more) (made ++ later) result := by
  obtain ⟨granted, rfl⟩ := first
  cases result with
  | ok value =>
      obtain ⟨moreGranted, rfl⟩ := second
      exact ⟨List.forall_mem_append.mpr ⟨granted, moreGranted⟩, rfl⟩
  | error failure =>
      obtain ⟨before, request, after, rfl, earlier, refused, rfl⟩ := second
      exact ⟨made ++ before, request, after, (List.append_assoc _ _ _).symm,
        List.forall_mem_append.mpr ⟨granted, earlier⟩, refused, (List.append_assoc _ _ _).symm⟩

end

namespace Dialog

variable {connect : Connector κ}

/-- What comes of a dialog. -/
def run (connect : Connector κ) : Dialog κ α → Except Failure α
  | done result => result
  | reserve count next =>
      if CanReserve connect.bytes count then next.run connect else .error (.panic .capacity)
  | ask call next => (next (connect call.1 call.2)).run connect

/-- The requests that are made in a dialog. -/
def requests (connect : Connector κ) : Dialog κ α → List Request
  | done _ => []
  | reserve count next =>
      .room count :: if CanReserve connect.bytes count then next.requests connect else []
  | ask call next => .call call :: (next (connect call.1 call.2)).requests connect

/-- The calls that are made in a dialog. -/
def calls (connect : Connector κ) (dialog : Dialog κ α) : List Call :=
  (dialog.requests connect).filterMap Request.call?

/-- Go on with what comes of a dialog, if it does not fail. -/
def andThen (dialog : Dialog κ α) (further : α → Dialog κ β) : Dialog κ β :=
  match dialog with
  | done (.ok value) => further value
  | done (.error failure) => done (.error failure)
  | reserve count next => reserve count (next.andThen further)
  | ask call next => ask call fun answer => (next answer).andThen further

/-- Make one call.  If it is refused, the dialog fails. -/
def request (call : Call) : Dialog κ κ :=
  ask call fun
    | .ok connection => done (.ok connection)
    | .error cause => done (.error (.error (refusal call.1 cause)))

theorem run_request (call : Call) :
    (request call).run connect =
      (connect call.1 call.2).mapError fun cause => .error (refusal call.1 cause) := by
  rw [request, run]
  cases connect call.1 call.2 with
  | error cause => rfl
  | ok connection => rfl

theorem run_andThen (dialog : Dialog κ α) (further : α → Dialog κ β) :
    (dialog.andThen further).run connect =
      match dialog.run connect with
      | .ok value => (further value).run connect
      | .error failure => .error failure := by
  induction dialog with
  | done result =>
      cases result with
      | error failure => rfl
      | ok value => rfl
  | reserve count next ih =>
      rw [andThen, run, run]
      split
      · exact ih
      · rfl
  | ask call next ih => exact ih _

theorem requests_andThen (dialog : Dialog κ α) (further : α → Dialog κ β) :
    (dialog.andThen further).requests connect = dialog.requests connect ++
      match dialog.run connect with
      | .ok value => (further value).requests connect
      | .error _ => [] := by
  induction dialog with
  | done result =>
      cases result with
      | error failure => rfl
      | ok value => rfl
  | reserve count next ih =>
      rw [andThen, requests, requests, run, List.cons_append]
      split
      · rw [ih]
      · rfl
  | ask call next ih => exact congrArg (Request.call call :: ·) (ih _)

theorem calls_reserve {count : Nat} (room : CanReserve connect.bytes count) (next : Dialog κ α) :
    (reserve count next).calls connect = next.calls connect := by
  rw [calls, requests, if_pos room]
  rfl

theorem calls_ask (call : Call) (next : Except Error κ → Dialog κ α) :
    (ask call next).calls connect = call :: (next (connect call.1 call.2)).calls connect := by
  rw [calls, requests]
  rfl

/-- What comes of a dialog depends on the room that a connection takes and on the calls that are
made only. -/
theorem run_congr {other : Connector κ} {dialog : Dialog κ α}
    (bytes : other.bytes = connect.bytes)
    (same : ∀ call ∈ dialog.calls connect, other call.1 call.2 = connect call.1 call.2) :
    dialog.run other = dialog.run connect := by
  induction dialog with
  | done result => rfl
  | reserve count next ih =>
      rw [run, run, bytes]
      split
      · next room =>
        rw [calls_reserve room] at same
        exact ih same
      · rfl
  | ask call next ih =>
      rw [calls_ask, List.forall_mem_cons] at same
      rw [run, run, same.1]
      exact ih _ same.2

/-- A dialog makes all of some requests, or it fails with the first of them that is not granted. -/
def Asks (connect : Connector κ) (asked : List Request) (dialog : Dialog κ α) : Prop :=
  Ends connect asked (dialog.requests connect) (dialog.run connect)

theorem asks_done (connect : Connector κ) (value : α) :
    (done (.ok value) : Dialog κ α).Asks connect [] :=
  ⟨List.forall_mem_nil _, rfl⟩

theorem asks_request (connect : Connector κ) (call : Call) :
    (request call).Asks connect [.call call] := by
  rw [Asks, run_request, request, requests]
  cases given : connect call.1 call.2 with
  | error cause => exact ⟨[], .call call, [], rfl, List.forall_mem_nil _, ⟨cause, given, rfl⟩, rfl⟩
  | ok connection => exact ⟨List.forall_mem_singleton.mpr ⟨connection, given⟩, rfl⟩

/-- A dialog that asks for room goes on once there is room. -/
theorem Asks.reserve {dialog : Dialog κ α} {asked : List Request} (next : dialog.Asks connect asked)
    (count : Nat) : (dialog.reserve count).Asks connect (.room count :: asked) := by
  rw [Asks, run, requests]
  split
  · next room =>
    have granted : Ends connect [.room count] [.room count] (.ok () : Except Failure Unit) :=
      ⟨List.forall_mem_singleton.mpr room, rfl⟩
    exact granted.append next
  · next lack => exact ⟨[], .room count, asked, rfl, List.forall_mem_nil _, ⟨lack, rfl⟩, rfl⟩

/-- A dialog makes the requests of its first part, and those of its second part once these are
granted. -/
theorem Asks.andThen {dialog : Dialog κ α} {further : α → Dialog κ β} {asked more : List Request}
    (first : dialog.Asks connect asked) (second : ∀ value, (further value).Asks connect more) :
    (dialog.andThen further).Asks connect (asked ++ more) := by
  rw [Asks] at first
  rw [Asks, run_andThen, requests_andThen]
  cases ended : dialog.run connect with
  | error failure =>
      rw [ended] at first
      rw [List.append_nil]
      exact first.stop more
  | ok value =>
      rw [ended] at first
      exact first.append (second value)

end Dialog

/-! ## Layouts -/

/-- A pool as parallel lists: all connections, and for each segment its descriptor, how many
connections it has, where they begin and how many selections were made there. -/
structure Layout (κ : Type) where
  connections : List κ
  descriptors : List Descriptor
  lengths : List Nat
  begins : List Nat
  turns : List UInt64
  rounds : UInt64

namespace Layout

/-- A pool without segments. -/
def empty : Layout κ :=
  { connections := [], descriptors := [], lengths := [], begins := [], turns := [], rounds := 0 }

/-- A pool with one more segment. -/
def push (layout : Layout κ) (descriptor : Descriptor) (connections : List κ) : Layout κ where
  connections := layout.connections ++ connections
  descriptors := layout.descriptors ++ [descriptor]
  lengths := layout.lengths ++ [connections.length]
  begins := layout.begins ++ [layout.connections.length]
  turns := layout.turns ++ [0]
  rounds := layout.rounds

/-- A pool with more segments. -/
def pushAll (layout : Layout κ) (segments : List (Segment κ)) : Layout κ :=
  segments.foldl (fun layout segment => layout.push segment.descriptor segment.connections) layout

/-- The positions where some segments begin in the list of all connections. -/
def beginsOf (segments : List (Segment κ)) : List Nat :=
  (List.range segments.length).map fun position =>
    ((segments.take position).flatMap Segment.connections).length

/-- One more segment begins where those before it end. -/
theorem beginsOf_concat (segments : List (Segment κ)) (last : Segment κ) :
    beginsOf (segments ++ [last]) =
      beginsOf segments ++ [(segments.flatMap Segment.connections).length] := by
  rw [beginsOf, List.length_append, List.length_singleton, List.range_succ, List.map_append,
    List.map_singleton, List.take_left, beginsOf]
  congr 1
  apply List.map_congr_left
  intro position inside
  rw [List.take_append_of_le_length (Nat.le_of_lt (List.mem_range.mp inside))]

/-- A pool that is filled segment by segment. -/
theorem pushAll_empty (segments : List (Segment κ)) :
    empty.pushAll segments =
      { connections := segments.flatMap Segment.connections
        descriptors := segments.map Segment.descriptor
        lengths := segments.map fun segment => segment.connections.length
        begins := beginsOf segments
        turns := List.replicate segments.length 0
        rounds := 0 } := by
  induction segments using List.reverseRecOn with
  | nil => rfl
  | append_singleton before last ih =>
      rw [pushAll] at ih
      rw [pushAll, List.foldl_append, ih, beginsOf_concat]
      simp [push, List.replicate_succ']

end Layout

/-- The layout of a pool. -/
def layout (pool : Pool κ) : Layout κ where
  connections := pool.connections
  descriptors := pool.segments.map Segment.descriptor
  lengths := (List.range pool.segmentCount).map pool.segmentLength
  begins := (List.range pool.segmentCount).map pool.segmentBegin
  turns := pool.segments.map Segment.turns
  rounds := pool.turns

/-! ## The dialog that makes a pool -/

/-- Connect so many replicas of a cluster from a first one on. -/
def connecting (descriptor : Descriptor) : (count first : Nat) → Dialog κ (List κ)
  | 0, _ => .done (.ok [])
  | count + 1, first => (Dialog.request (descriptor, first)).andThen fun connection =>
      (connecting descriptor count (first + 1)).andThen fun connections =>
        .done (.ok (connection :: connections))

/-- Add a segment to a pool for each of some clusters. -/
def filling (layout : Layout κ) : List Descriptor → Dialog κ (Layout κ)
  | [] => .done (.ok layout)
  | descriptor :: rest =>
      (Dialog.reserve (normalize descriptor).replicas
        (connecting (normalize descriptor) (normalize descriptor).replicas 0)).andThen
          fun connections => filling (layout.push (normalize descriptor) connections) rest

/-- Make the pool of a specification. -/
def making (spec : Spec) : Dialog κ (Layout κ) :=
  if spec.clusters = [] then .done (.error (.error .noDescriptor))
  else filling .empty spec.clusters

/-- The calls for a cluster. -/
def callsFor (descriptor : Descriptor) : List Call :=
  (List.range (max 1 descriptor.replicas)).map fun replica => (normalize descriptor, replica)

/-- The calls for a specification: every replica of every cluster, and at least one. -/
def asked (spec : Spec) : List Call :=
  spec.clusters.flatMap callsFor

/-- The requests for a cluster: room for all its connections, and then its calls. -/
def requestsFor (descriptor : Descriptor) : List Request :=
  .room (max 1 descriptor.replicas) :: (callsFor descriptor).map .call

/-- The requests for a specification. -/
def requested (spec : Spec) : List Request :=
  spec.clusters.flatMap requestsFor

variable {connect : Connector κ}

theorem run_connecting (descriptor : Descriptor) (count first : Nat) :
    (connecting descriptor count first).run connect =
      (connectFrom connect descriptor count first).mapError .error := by
  induction count generalizing first with
  | zero => rfl
  | succ count ih =>
      rw [connecting, Dialog.run_andThen, Dialog.run_request, connectFrom]
      cases connect descriptor first with
      | error cause => rfl
      | ok connection =>
          dsimp only [Except.mapError]
          rw [Dialog.run_andThen, ih]
          cases connectFrom connect descriptor count (first + 1) with
          | error cause => rfl
          | ok connections => rfl

theorem asks_connecting (descriptor : Descriptor) (count first : Nat) :
    (connecting descriptor count first).Asks connect
      ((List.range' first count).map fun replica => .call (descriptor, replica)) := by
  induction count generalizing first with
  | zero => exact Dialog.asks_done connect []
  | succ count ih =>
      have asks := (Dialog.asks_request connect (descriptor, first)).andThen fun connection =>
        (ih (first + 1)).andThen fun connections =>
          Dialog.asks_done connect (connection :: connections)
      rwa [List.append_nil, List.singleton_append] at asks

theorem callsFor_eq (descriptor : Descriptor) :
    callsFor descriptor = (List.range' 0 (normalize descriptor).replicas).map
      fun replica => (normalize descriptor, replica) := by
  rw [callsFor, List.range_eq_range', normalize, Nat.max_comm]

theorem requestsFor_eq (descriptor : Descriptor) :
    requestsFor descriptor = .room (normalize descriptor).replicas ::
      (List.range' 0 (normalize descriptor).replicas).map
        fun replica => .call (normalize descriptor, replica) := by
  rw [requestsFor, callsFor_eq, List.map_map, normalize, Nat.max_comm]
  rfl

/-- The calls among the requests for a specification. -/
theorem filterMap_requested (spec : Spec) :
    (requested spec).filterMap Request.call? = asked spec := by
  rw [requested, asked, List.filterMap_flatMap]
  apply List.flatMap_congr
  intro cluster _
  rw [requestsFor, List.filterMap_cons, List.filterMap_map]
  exact List.filterMap_some

theorem asks_filling (layout : Layout κ) (clusters : List Descriptor) :
    (filling layout clusters).Asks connect (clusters.flatMap requestsFor) := by
  induction clusters generalizing layout with
  | nil => exact Dialog.asks_done connect layout
  | cons cluster rest ih =>
      rw [List.flatMap_cons, requestsFor_eq]
      exact ((asks_connecting _ _ 0).reserve _).andThen fun connections => ih _

/-- Connecting the segment of a cluster is connecting its replicas, if there is room for them. -/
theorem connectSegment_eq (connect : Connector κ) (descriptor : Descriptor) :
    (connectSegment connect descriptor).map Segment.connections =
      (Dialog.reserve (normalize descriptor).replicas
        (connecting (normalize descriptor) (normalize descriptor).replicas 0)).run connect := by
  rw [connectSegment, Dialog.run, run_connecting]
  split
  · split
    · next failed => exact (congrArg (Except.mapError Failure.error) failed).symm
    · next connected => exact (congrArg (Except.mapError Failure.error) connected).symm
  · rfl

/-- The segment of a cluster has the connections that the connector gives for its replicas. -/
structure Connects (connect : Connector κ) (cluster : Descriptor) (segment : Segment κ) :
    Prop where
  descriptor : segment.descriptor = normalize cluster
  connections : segment.connections.map .ok =
    (callsFor cluster).map fun call => connect call.1 call.2

theorem answers_of_connectFrom {descriptor : Descriptor} {count first : Nat}
    {connections : List κ}
    (connected : connectFrom connect descriptor count first = .ok connections) :
    connections.map .ok = (List.range' first count).map (connect descriptor) := by
  induction count generalizing first connections with
  | zero =>
      cases connected
      rfl
  | succ count ih =>
      rw [connectFrom] at connected
      split at connected
      · contradiction
      · next connection given =>
        split at connected
        · contradiction
        · next later =>
          cases connected
          rw [List.map_cons, List.range'_succ, List.map_cons, given, ih later]

theorem connects_of_connectAll {clusters : List Descriptor} {segments : List (Segment κ)}
    (connected : connectAll connect clusters = .ok segments) :
    List.Forall₂ (Connects connect) clusters segments := by
  induction clusters generalizing segments with
  | nil =>
      cases connected
      exact .nil
  | cons cluster rest ih =>
      rw [connectAll] at connected
      split at connected
      · contradiction
      · next here =>
        split at connected
        · contradiction
        · next later =>
          cases connected
          obtain ⟨answered, described, -⟩ := eq_of_connectSegment here
          refine .cons ⟨described, ?_⟩ (ih later)
          rw [callsFor_eq, List.map_map, answers_of_connectFrom answered]
          rfl

theorem run_filling (layout : Layout κ) (clusters : List Descriptor) :
    (filling layout clusters).run connect =
      (connectAll connect clusters).map layout.pushAll := by
  induction clusters generalizing layout with
  | nil => rfl
  | cons cluster rest ih =>
      rw [filling, Dialog.run_andThen, ← connectSegment_eq, connectAll]
      cases here : connectSegment connect cluster with
      | error failure => rfl
      | ok segment =>
          have described : segment.descriptor = normalize cluster :=
            (eq_of_connectSegment here).2.1
          dsimp only [Except.map]
          rw [ih, ← described]
          cases connectAll connect rest with
          | error failure => rfl
          | ok segments => rfl

theorem map_segmentLength (pool : Pool κ) :
    (List.range pool.segmentCount).map pool.segmentLength =
      pool.segments.map fun segment => segment.connections.length := by
  apply List.ext_getElem
  · rw [List.length_map, List.length_map, List.length_range]
    rfl
  · intro position inside inSegments
    rw [List.length_map] at inSegments
    rw [List.getElem_map, List.getElem_map, List.getElem_range]
    exact segmentLength_of_getElem? (List.getElem?_eq_getElem inSegments)

/-- Segments are told apart by their parallel lists. -/
theorem segments_ext {segments others : List (Segment κ)}
    (connections : segments.flatMap Segment.connections = others.flatMap Segment.connections)
    (descriptors : segments.map Segment.descriptor = others.map Segment.descriptor)
    (lengths : (segments.map fun segment => segment.connections.length) =
      others.map fun segment => segment.connections.length)
    (turns : segments.map Segment.turns = others.map Segment.turns) : segments = others := by
  induction segments generalizing others with
  | nil => exact (List.map_eq_nil_iff.mp descriptors.symm).symm
  | cons segment rest ih =>
      cases others with
      | nil => contradiction
      | cons other more =>
          rcases segment with ⟨descriptor, held, turn, nonempty⟩
          rcases other with ⟨otherDescriptor, otherHeld, otherTurn, otherNonempty⟩
          obtain ⟨sameDescriptor, restDescriptors⟩ := List.cons.inj descriptors
          obtain ⟨sameLength, restLengths⟩ := List.cons.inj lengths
          obtain ⟨sameTurn, restTurns⟩ := List.cons.inj turns
          rw [List.flatMap_cons, List.flatMap_cons] at connections
          obtain ⟨sameHeld, restConnections⟩ := List.append_inj connections sameLength
          cases sameDescriptor
          cases sameTurn
          cases sameHeld
          rw [ih restConnections restDescriptors restLengths restTurns]

/-- A pool is determined by its layout. -/
theorem layout_injective : Function.Injective (layout : Pool κ → Layout κ) := by
  intro pool other same
  have lengths : pool.layout.lengths = other.layout.lengths := congrArg Layout.lengths same
  rw [layout, layout, map_segmentLength, map_segmentLength] at lengths
  have segments : pool.segments = other.segments :=
    segments_ext (congrArg Layout.connections same) (congrArg Layout.descriptors same) lengths
      (congrArg Layout.turns same)
  have turns : pool.turns = other.turns := congrArg Layout.rounds same
  cases pool
  cases other
  cases segments
  cases turns
  rfl

/-- A pool in which no selection was made is filled segment by segment. -/
theorem layout_eq_pushAll (pool : Pool κ) (unturned : pool.turns = 0)
    (fresh : ∀ segment ∈ pool.segments, segment.turns = 0) :
    pool.layout = Layout.empty.pushAll pool.segments := by
  have turns : pool.segments.map Segment.turns = List.replicate pool.segments.length 0 := by
    rw [List.eq_replicate_iff, List.length_map]
    refine ⟨rfl, fun turn member => ?_⟩
    obtain ⟨segment, listed, rfl⟩ := List.mem_map.mp member
    exact fresh segment listed
  rw [Layout.pushAll_empty, layout, map_segmentLength, turns, unturned]
  rfl

/-- Making the pool of a specification gives the layout of its pool. -/
theorem run_making (spec : Spec) (connect : Connector κ) :
    (making spec).run connect = (ofSpec spec connect).map layout := by
  rw [making, ofSpec]
  split
  · next none =>
    rw [none]
    rfl
  · next some =>
    rw [run_filling]
    cases connected : connectAll connect spec.clusters with
    | error cause => rfl
    | ok segments =>
        have fresh := turns_of_connectAll connected
        cases segments with
        | nil =>
            exact absurd (List.forall₂_nil_right_iff.mp (connects_of_connectAll connected)) some
        | cons first rest =>
            let pool : Pool κ := { segments := first :: rest, nonempty := List.cons_ne_nil _ _ }
            exact congrArg Except.ok (pool.layout_eq_pushAll rfl fresh).symm

/-- The requests for a specification are made in turn, up to the first that is not granted. -/
theorem asks_making {spec : Spec} (some : spec.clusters ≠ []) (connect : Connector κ) :
    (making spec).Asks connect (requested spec) := by
  rw [making, if_neg some]
  exact asks_filling _ _

/-! ## Complete pools -/

/-- The spans of the segments are the positions of all connections, in order. -/
theorem spans_tile (pool : Pool κ) :
    (List.range pool.segmentCount).flatMap (fun position =>
        List.range' (pool.segmentBegin position) (pool.segmentLength position)) =
      List.range pool.connections.length := by
  rcases pool with ⟨segments, turns, nonempty⟩
  rw [segmentCount, connections]
  unfold segmentBegin segmentLength
  dsimp only
  clear nonempty
  induction segments using List.reverseRecOn with
  | nil => rfl
  | append_singleton before last ih =>
      rw [List.length_append, List.length_singleton, List.range_succ, List.flatMap_append,
        List.flatMap_singleton, List.flatMap_append, List.flatMap_singleton, List.length_append,
        List.range_add, ← ih]
      congr 1
      · apply List.flatMap_congr
        intro position member
        have inside := List.mem_range.mp member
        rw [List.take_append_of_le_length (Nat.le_of_lt inside), List.getElem?_append_left inside]
      · rw [List.take_left, List.getElem?_concat_length, List.range'_eq_map_range]
        rfl

/-- A pool that has what the connector gives for every replica of every cluster of a
specification, cluster after cluster, and divides it into one segment for each cluster. -/
structure Complete (connect : Connector κ) (spec : Spec) (pool : Pool κ) : Prop where
  descriptors : pool.segments.map Segment.descriptor = spec.clusters.map normalize
  connections : pool.connections.map .ok = (asked spec).map fun call => connect call.1 call.2
  lengths : ∀ position cluster, spec.clusters[position]? = some cluster →
    pool.segmentLength position = max 1 cluster.replicas
  placed : ∀ position cluster, spec.clusters[position]? = some cluster →
    ∀ replica < max 1 cluster.replicas,
      pool.connections[pool.segmentBegin position + replica]?.map .ok =
        some (connect (normalize cluster) replica)
  tiled : (List.range pool.segmentCount).flatMap (fun position =>
      List.range' (pool.segmentBegin position) (pool.segmentLength position)) =
    List.range pool.connections.length

theorem length_callsFor (cluster : Descriptor) :
    (callsFor cluster).length = max 1 cluster.replicas := by
  rw [callsFor, List.length_map, List.length_range]

theorem descriptors_of_connects {clusters : List Descriptor} {segments : List (Segment κ)}
    (connects : List.Forall₂ (Connects connect) clusters segments) :
    segments.map Segment.descriptor = clusters.map normalize := by
  induction connects with
  | nil => rfl
  | cons first _ ih => rw [List.map_cons, List.map_cons, first.descriptor, ih]

theorem answers_of_connects {clusters : List Descriptor} {segments : List (Segment κ)}
    (connects : List.Forall₂ (Connects connect) clusters segments) :
    (segments.flatMap Segment.connections).map .ok =
      (clusters.flatMap callsFor).map fun call => connect call.1 call.2 := by
  induction connects with
  | nil => rfl
  | cons first _ ih =>
      rw [List.flatMap_cons, List.flatMap_cons, List.map_append, List.map_append,
        first.connections, ih]

theorem complete_of_connects {spec : Spec} {pool : Pool κ}
    (connects : List.Forall₂ (Connects connect) spec.clusters pool.segments) :
    pool.Complete connect spec := by
  have exists_segment (position : Nat) (cluster : Descriptor)
      (here : spec.clusters[position]? = some cluster) :
      ∃ segment, pool.segments[position]? = some segment ∧ Connects connect cluster segment := by
    obtain ⟨inside, rfl⟩ := List.getElem?_eq_some_iff.mp here
    obtain ⟨same, each⟩ := List.forall₂_iff_get.mp connects
    exact ⟨_, List.getElem?_eq_getElem (same ▸ inside), each _ inside (same ▸ inside)⟩
  have length_connections {cluster : Descriptor} {segment : Segment κ}
      (segmentConnects : Connects connect cluster segment) :
      segment.connections.length = max 1 cluster.replicas := by
    rw [← List.length_map Except.ok, segmentConnects.connections, List.length_map,
      length_callsFor]
  constructor
  · exact descriptors_of_connects connects
  · exact answers_of_connects connects
  · intro position cluster here
    obtain ⟨segment, there, segmentConnects⟩ := exists_segment position cluster here
    rw [segmentLength_of_getElem? there, length_connections segmentConnects]
  · intro position cluster here replica inside
    obtain ⟨segment, there, segmentConnects⟩ := exists_segment position cluster here
    have known : replica < segment.connections.length := by
      rwa [length_connections segmentConnects]
    have placed := connectionAt?_of_lt there known
    rw [connectionAt?] at placed
    rw [placed, ← List.getElem?_map, segmentConnects.connections]
    simp [callsFor, inside]
  · exact pool.spans_tile

/-! ## What comes of the making -/

theorem forall_requested_iff {spec : Spec} :
    (∀ request ∈ requested spec, Granted connect request) ↔
      ∀ cluster ∈ spec.clusters, CanReserve connect.bytes (max 1 cluster.replicas) ∧
        ∀ replica < max 1 cluster.replicas,
          ∃ connection, connect (normalize cluster) replica = .ok connection := by
  simp only [requested, List.mem_flatMap, requestsFor, callsFor]
  constructor
  · intro granted cluster listed
    constructor
    · exact granted (.room _) ⟨cluster, listed, List.mem_cons_self⟩
    · intro replica inside
      apply granted (.call (normalize cluster, replica))
      refine ⟨cluster, listed, List.mem_cons_of_mem _ ?_⟩
      exact List.mem_map_of_mem (List.mem_map_of_mem (List.mem_range.mpr inside))
  · rintro each request ⟨cluster, listed, member⟩
    obtain ⟨room, answered⟩ := each cluster listed
    rcases List.mem_cons.mp member with rfl | member
    · exact room
    · obtain ⟨call, made, rfl⟩ := List.mem_map.mp member
      obtain ⟨replica, inside, rfl⟩ := List.mem_map.mp made
      exact answered replica (List.mem_range.mp inside)

theorem connects_of_ofSpec {spec : Spec} {pool : Pool κ}
    (connected : ofSpec spec connect = .ok pool) :
    List.Forall₂ (Connects connect) spec.clusters pool.segments := by
  rw [ofSpec] at connected
  split at connected
  · contradiction
  · contradiction
  · next segments =>
    cases connected
    exact connects_of_connectAll segments

theorem ofSpec_of_nil {spec : Spec} (none : spec.clusters = []) (connect : Connector κ) :
    ofSpec spec connect = .error (.error .noDescriptor) := by
  rw [ofSpec, none]
  rfl

theorem kind_refusal (descriptor : Descriptor) (cause : Error) :
    (refusal descriptor cause).kind = .transportFailure := by
  rw [refusal]
  split
  · next failure => exact failure
  · rfl

theorem message_refusal {cause : Error} (other : cause.kind ≠ .transportFailure)
    (descriptor : Descriptor) :
    (refusal descriptor cause).message = descriptor.display ++ ": " ++ cause.message := by
  rw [refusal, if_neg other]
  rfl

/-- What comes of a specification depends on the room that a connection takes and on the calls
that are made only. -/
theorem ofSpec_congr {spec : Spec} {other : Connector κ} (bytes : other.bytes = connect.bytes)
    (same : ∀ call ∈ (making spec).calls connect,
      other call.1 call.2 = connect call.1 call.2) :
    ofSpec spec other = ofSpec spec connect := by
  have runs := Dialog.run_congr bytes same
  rw [run_making, run_making] at runs
  cases left : ofSpec spec other with
  | error failure =>
      cases right : ofSpec spec connect with
      | error otherFailure =>
          rw [left, right] at runs
          exact congrArg Except.error (Except.error.inj runs)
      | ok pool =>
          rw [left, right] at runs
          contradiction
  | ok pool =>
      cases right : ofSpec spec connect with
      | error failure =>
          rw [left, right] at runs
          contradiction
      | ok otherPool =>
          rw [left, right] at runs
          exact congrArg Except.ok (layout_injective (Except.ok.inj runs))

/-- A call is refused with an error of the kind of a failed transport: its own if it is one, and
otherwise one that names the cluster. -/
theorem Refused.report {call : Call} {failure : Failure}
    (refused : Refused connect (.call call) failure) :
    ∃ cause given, failure = .error cause ∧ cause.kind = .transportFailure ∧
      connect call.1 call.2 = .error given ∧
      (given.kind = .transportFailure → cause = given) ∧
      (given.kind ≠ .transportFailure →
        cause.message = call.1.display ++ ": " ++ given.message) := by
  obtain ⟨given, answer, rfl⟩ := refused
  exact ⟨_, given, rfl, kind_refusal _ _, answer, fun same => if_pos same,
    fun other => message_refusal other _⟩

/-- A pool comes of a specification exactly if it has a cluster, there is room for the connections
of every cluster and every replica of every cluster is connected, and the pool is complete then.
Otherwise the first request that is not granted is the last one: a refused call is reported as a
failure of the transport, and where there is no room for the connections of a cluster the making
panics before the first of them is asked for. -/
theorem ofSpec_complete_or_refused (spec : Spec) (connect : Connector κ) :
    (making spec).run connect = (ofSpec spec connect).map layout ∧
    (∀ other : Connector κ, other.bytes = connect.bytes →
      (∀ call ∈ (making spec).calls connect, other call.1 call.2 = connect call.1 call.2) →
        ofSpec spec other = ofSpec spec connect) ∧
    ((∃ pool, ofSpec spec connect = .ok pool) ↔
      spec.clusters ≠ [] ∧ ∀ cluster ∈ spec.clusters,
        CanReserve connect.bytes (max 1 cluster.replicas) ∧
        ∀ replica < max 1 cluster.replicas,
          ∃ connection, connect (normalize cluster) replica = .ok connection) ∧
    match ofSpec spec connect with
    | .ok pool => pool.Complete connect spec ∧ (making spec).calls connect = asked spec
    | .error failure =>
        (spec.clusters = [] ∧ failure = .error .noDescriptor ∧
          (making spec).calls connect = []) ∨
        ∃ before request after, requested spec = before ++ request :: after ∧
          (∀ earlier ∈ before, Granted connect earlier) ∧
          (making spec).calls connect = (before ++ [request]).filterMap Request.call? ∧
          match request with
          | .room count => ¬ CanReserve connect.bytes count ∧ failure = .panic .capacity
          | .call call => ∃ cause refused, failure = .error cause ∧
              cause.kind = .transportFailure ∧ connect call.1 call.2 = .error refused ∧
              (refused.kind = .transportFailure → cause = refused) ∧
              (refused.kind ≠ .transportFailure →
                cause.message = call.1.display ++ ": " ++ refused.message) := by
  have run := run_making spec connect
  refine ⟨run, fun other => ofSpec_congr, ?_⟩
  by_cases none : spec.clusters = []
  · rw [ofSpec_of_nil none]
    refine ⟨iff_of_false nofun fun all => all.1 none, Or.inl ⟨none, rfl, ?_⟩⟩
    rw [making, if_pos none]
    rfl
  · have asks := asks_making none connect
    rw [Dialog.Asks, run] at asks
    rw [← forall_requested_iff, Dialog.calls]
    cases connected : ofSpec spec connect with
    | ok pool =>
        rw [connected] at asks
        obtain ⟨granted, made⟩ := asks
        rw [made, filterMap_requested]
        exact ⟨iff_of_true ⟨pool, rfl⟩ ⟨none, granted⟩,
          complete_of_connects (connects_of_ofSpec connected), rfl⟩
    | error failure =>
        rw [connected] at asks
        obtain ⟨before, request, after, all, earlier, refused, made⟩ := asks
        have member : request ∈ requested spec := all ▸ List.mem_append_right _ List.mem_cons_self
        refine ⟨iff_of_false nofun fun each => refused.not_granted (each.2 request member),
          Or.inr ⟨before, request, after, all, earlier, congrArg _ made, ?_⟩⟩
        cases request with
        | room count => exact refused
        | call call => exact refused.report

/-- A second cluster that refuses its first call is the last that is called.  One that would
refuse it too panics if there is no room for its connections. -/
theorem refused_by_second_cluster :
    let connect : Connector (String × Nat) :=
      { make := fun descriptor replica =>
          if descriptor.address = "down" then .error (.reported .io "refused")
          else .ok (descriptor.address, replica)
        bytes := 32 }
    let other : Connector (String × Nat) :=
      { connect with
        make := fun descriptor replica =>
          if descriptor.address = "late" then .error .noCluster else connect descriptor replica }
    let up : Descriptor := { address := "up", replicas := 2 }
    let down : Descriptor := { address := "down", replicas := 0 }
    let wide : Descriptor := { address := "down", replicas := 2 ^ 64 - 1 }
    let spec : Spec := ⟨[up, down, { address := "late" }]⟩
    (making spec).calls connect = [(up, 0), (up, 1), (normalize down, 0)] ∧
      ofSpec spec other = ofSpec spec connect ∧
      (∃ cause, ofSpec spec connect = .error (.error cause) ∧ cause.kind = .transportFailure ∧
        cause.message = "down[1]: refused") ∧
      ofSpec ⟨[wide]⟩ connect = .error (.panic .capacity) := by
  intro connect other up down wide spec
  have calls : (making spec).calls connect = [(up, 0), (up, 1), (normalize down, 0)] := rfl
  have failed : ofSpec spec connect =
      .error (.error (.connectionRefused (normalize down).display (.reported .io "refused"))) :=
    rfl
  have early : ∀ call ∈ (making spec).calls connect, call.1.address ≠ "late" := by
    rw [calls]
    decide
  have lack : ¬ CanReserve connect.bytes (normalize wide).replicas := by decide +kernel
  obtain ⟨-, independent, -⟩ := ofSpec_complete_or_refused spec connect
  refine ⟨calls, independent other rfl fun call made => if_neg (early call made),
    ⟨_, failed, rfl, by decide +kernel⟩, ?_⟩
  rw [ofSpec, connectAll, connectSegment, if_neg lack]

end Polystore.Pool
