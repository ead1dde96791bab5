import Mathlib.Data.List.Sort
import Polystore.Memory.Pool
import Polystore.Proofs.Cluster.Connection

/-!
# Sharded caches

Every call about a key reads and changes what its node keeps under that key, and nothing
else.  A key is always routed to the same node, so a pool of any number of segments keeps
under every key what a single node would keep, and answers as that node does.
-/

namespace Polystore

/-! ## Calls about one key -/

/-- A call that depends on what a node keeps under one key, and changes nothing under other
keys. -/
structure MemoryNode.Confined {α : Type} (key : String)
    (action : MemoryNode → Outcome MemoryNode α) : Prop where
  reads : ∀ {left right : MemoryNode}, left.cells.get? key = right.cells.get? key →
    (action left).1 = (action right).1 ∧
      (action left).2.cells.get? key = (action right).2.cells.get? key
  others : ∀ (node : MemoryNode) {other : String}, other ≠ key →
    (action node).2.cells.get? other = node.cells.get? other
  ordered : ∀ {node : MemoryNode}, node.cells.Sorted → (action node).2.cells.Sorted

namespace MemoryNode

variable {key : String}

theorem confined_set (key value : String) (expires : Option Nat) :
    Confined key fun node => (.ok (), node.set key value expires) where
  reads _ := by
    simp only [set, Keyed.get?_insert_self, and_self]
  others node other differ := Keyed.get?_insert_of_ne _ _ differ
  ordered sorted := Keyed.sorted_insert sorted _ _

theorem confined_delete (key : String) :
    Confined key fun node => (.ok (), node.delete key) where
  reads _ := by
    simp only [delete, Keyed.get?_erase, if_true, and_self]
  others node other differ := by
    simp only [delete, Keyed.get?_erase, if_neg differ]
  ordered sorted := Keyed.sorted_erase sorted key

theorem confined_get (key : String) (now : Nat) : Confined key (get key now) where
  reads {left right} same := by
    rw [get, get, ← same]
    cases found : left.cells.get? key with
    | none => exact ⟨rfl, found.trans (found.symm.trans same)⟩
    | some cell =>
        dsimp only
        split
        · exact ⟨rfl, same⟩
        · simp only [Keyed.get?_erase, if_true, and_self]
  others node other differ := by
    rw [get]
    split
    · rfl
    · split
      · rfl
      · simp only [Keyed.get?_erase, if_neg differ]
  ordered {node} sorted := by
    rw [get]
    split
    · exact sorted
    · split
      · exact sorted
      · exact Keyed.sorted_erase sorted key

/-- A counter starts from what is kept under its key. -/
theorem counter_congr {left right : MemoryNode}
    (same : left.cells.get? key = right.cells.get? key) (now : Nat) :
    left.counter key now = right.counter key now := by
  rw [counter, counter, same]

/-- A counter operation keeps one cell under the key. -/
theorem exists_add (key : String) (delta : Int) (now : Nat) (node : MemoryNode) :
    ∃ cell, (add key delta now node).2 =
      { node with cells := Keyed.insert key cell node.cells } := by
  rw [add]
  dsimp only
  split
  · exact ⟨_, rfl⟩
  · split <;> exact ⟨_, rfl⟩

theorem confined_add (key : String) (delta : Int) (now : Nat) :
    Confined key (add key delta now) where
  reads {left right} same := by
    rw [add, add, counter_congr same]
    dsimp only
    split
    · simp only [Keyed.get?_insert_self, and_self]
    · split
      · simp only [Keyed.get?_insert_self, and_self]
      · simp only [Keyed.get?_insert_self, and_self]
  others node other differ := by
    obtain ⟨cell, kept⟩ := exists_add key delta now node
    rw [kept]
    exact Keyed.get?_insert_of_ne _ _ differ
  ordered {node} sorted := by
    obtain ⟨cell, kept⟩ := exists_add key delta now node
    rw [kept]
    exact Keyed.sorted_insert sorted _ _

/-- The keys that a node finds are those with a value that is there. -/
theorem mem_live_iff {node : MemoryNode} (sorted : node.cells.Sorted) (now : Nat) (key : String) :
    key ∈ (node.live now).names ↔
      ∃ cell, node.cells.get? key = some cell ∧ cell.isLive now = true := by
  rw [Keyed.names, List.mem_map]
  constructor
  · rintro ⟨⟨name, cell⟩, member, rfl⟩
    obtain ⟨held, live⟩ := List.mem_filter.mp member
    exact ⟨cell, (Keyed.mem_iff_get?_eq_some sorted name cell).mp held, live⟩
  · rintro ⟨cell, found, live⟩
    have held := (Keyed.mem_iff_get?_eq_some sorted key cell).mpr found
    exact ⟨(key, cell), List.mem_filter.mpr ⟨held, live⟩, rfl⟩

/-- A value is read exactly if it is there. -/
theorem get_eq_ok_iff (key : String) (now : Nat) (node : MemoryNode) (value : String) :
    (get key now node).1 = .ok value ↔
      ∃ cell, node.cells.get? key = some cell ∧ cell.isLive now = true ∧ cell.value = value := by
  rw [get]
  cases node.cells.get? key with
  | none => simp
  | some cell =>
      dsimp only
      split
      · next live => simp [live]
      · next gone => simp [gone]

end MemoryNode

/-! ## Pools -/

namespace MemoryPool

/-- Every key lies on the node that it is routed to, and nowhere else. -/
structure Spread (pool : MemoryPool) : Prop where
  nonempty : pool.segments ≠ []
  ordered : ∀ name, (pool.node name).cells.Sorted
  routed : ∀ {name key : String} {cell : Cell}, (pool.node name).cells.get? key = some cell →
    pool.target? .byKey key = some name

/-- What a pool keeps under a key. -/
def cell? (pool : MemoryPool) (key : String) : Option Cell :=
  (pool.target? .byKey key).bind fun name => (pool.node name).cells.get? key

theorem exists_target {pool : MemoryPool} (nonempty : pool.segments ≠ []) (key : String) :
    ∃ name ∈ pool.segments, pool.target? .byKey key = some name := by
  have inside : pool.segmentOf key < pool.segments.length :=
    Nat.mod_lt _ (List.length_pos_iff.mpr nonempty)
  exact ⟨_, List.getElem_mem inside, List.getElem?_eq_getElem inside⟩

theorem node_setNode (pool : MemoryPool) (name other : String) (node : MemoryNode) :
    (pool.setNode name node).node other = if other = name then node else pool.node other := by
  simp only [setNode, MemoryPool.node, Keyed.get?_insert]
  split <;> rfl

section Calls

variable {α : Type} {key : String} {action : MemoryNode → Outcome MemoryNode α}

/-- Spread keys stay spread under a call about one key. -/
theorem Spread.call {pool : MemoryPool} (spread : pool.Spread)
    (confined : MemoryNode.Confined key action) : (pool.call .byKey key action).2.Spread := by
  obtain ⟨target, -, routed⟩ := exists_target spread.nonempty key
  rw [MemoryPool.call, routed]
  dsimp only
  refine ⟨spread.nonempty, ?_, ?_⟩
  · intro name
    rw [node_setNode]
    split
    · exact confined.ordered (spread.ordered target)
    · exact spread.ordered name
  · intro name other cell found
    rw [node_setNode] at found
    split at found
    · next same =>
      by_cases here : other = key
      · rw [here, same]
        exact routed
      · rw [confined.others _ here] at found
        rw [same]
        exact spread.routed found
    · exact spread.routed found

/-- A call about a key is answered by what the pool keeps under the key, and leaves what it
keeps under other keys. -/
theorem call_eq (action : MemoryNode → Outcome MemoryNode α) {pool : MemoryPool}
    {target : String} (routed : pool.target? .byKey key = some target) :
    (pool.call .byKey key action).1 = (action (pool.node target)).1 ∧
      (pool.call .byKey key action).2.cell? key =
        (action (pool.node target)).2.cells.get? key := by
  have same : (pool.call .byKey key action).2.target? .byKey key = some target := by
    rw [MemoryPool.call, routed]
    exact routed
  rw [cell?, same, MemoryPool.call, routed]
  refine ⟨rfl, ?_⟩
  dsimp only
  rw [Option.bind_some, node_setNode, if_pos rfl]

theorem cell?_call_of_ne {pool : MemoryPool} (spread : pool.Spread)
    (confined : MemoryNode.Confined key action) {other : String} (differ : other ≠ key) :
    (pool.call .byKey key action).2.cell? other = pool.cell? other := by
  obtain ⟨target, -, routed⟩ := exists_target spread.nonempty key
  obtain ⟨home, -, owner⟩ := exists_target spread.nonempty other
  have same : (pool.call .byKey key action).2.target? .byKey other = some home := by
    rw [MemoryPool.call, routed]
    exact owner
  rw [cell?, cell?, same, owner, Option.bind_some, Option.bind_some, MemoryPool.call, routed]
  dsimp only
  rw [node_setNode]
  split
  · next here => rw [confined.others _ differ, here]
  · rfl

end Calls

/-! ## Pools that keep the same -/

/-- Two pools that keep the same under every key. -/
structure Agree (left right : MemoryPool) : Prop where
  leftSpread : left.Spread
  rightSpread : right.Spread
  cells : ∀ key, left.cell? key = right.cell? key

variable {left right : MemoryPool}

/-- A call about one key is answered alike by pools that keep the same, and they keep the
same afterwards. -/
theorem Agree.call (agree : Agree left right) {α : Type} {key : String}
    {action : MemoryNode → Outcome MemoryNode α} (confined : MemoryNode.Confined key action) :
    (left.call .byKey key action).1 = (right.call .byKey key action).1 ∧
      Agree (left.call .byKey key action).2 (right.call .byKey key action).2 := by
  obtain ⟨leftTarget, -, leftRouted⟩ := exists_target agree.leftSpread.nonempty key
  obtain ⟨rightTarget, -, rightRouted⟩ := exists_target agree.rightSpread.nonempty key
  have same := agree.cells key
  rw [cell?, cell?, leftRouted, rightRouted, Option.bind_some, Option.bind_some] at same
  obtain ⟨answers, kept⟩ := confined.reads same
  obtain ⟨leftAnswer, leftCell⟩ := call_eq action leftRouted
  obtain ⟨rightAnswer, rightCell⟩ := call_eq action rightRouted
  refine ⟨?_, agree.leftSpread.call confined, agree.rightSpread.call confined, ?_⟩
  · rw [leftAnswer, rightAnswer, answers]
  · intro other
    by_cases here : other = key
    · rw [here, leftCell, rightCell, kept]
    · rw [cell?_call_of_ne agree.leftSpread confined here,
        cell?_call_of_ne agree.rightSpread confined here, agree.cells]

/-! ## Finding keys -/

/-- Keys are added to those that were found before. -/
theorem get?_foldl_insert (found : List String) (names : Keyed Unit) (key : String) :
    (found.foldl (fun names key => Keyed.insert key () names) names).get? key = some () ↔
      key ∈ found ∨ names.get? key = some () := by
  induction found generalizing names with
  | nil => simp
  | cons first rest ih =>
      rw [List.foldl_cons, ih, Keyed.get?_insert, List.mem_cons]
      by_cases here : key = first
      · simp [here]
      · simp [here]

theorem sorted_foldl_insert (found : List String) {names : Keyed Unit} (sorted : names.Sorted) :
    (found.foldl (fun names key => Keyed.insert key () names) names).Sorted := by
  induction found generalizing names with
  | nil => exact sorted
  | cons first rest ih => exact ih (Keyed.sorted_insert sorted first ())

/-- A node has a value that is there under a key that a pattern matches. -/
def Finds (pool : MemoryPool) (pattern : Pattern) (now : Nat) (name key : String) : Prop :=
  (∃ cell, (pool.node name).cells.get? key = some cell ∧ cell.isLive now = true) ∧
    pattern.isIn key = true

/-- The keys found on some nodes are those with a value on one of them. -/
theorem exists_keysFrom {pool : MemoryPool} (spread : pool.Spread) {written : String}
    {pattern : Pattern} (compiled : Glob.toPattern written = .ok pattern) (now : Nat)
    (names : List String) :
    ∃ found, pool.keysFrom written now names = .ok found ∧ found.Sorted ∧
      ∀ key, found.get? key = some () ↔ ∃ name ∈ names, pool.Finds pattern now name key := by
  induction names with
  | nil => exact ⟨[], rfl, Keyed.sorted_nil, fun key => by simp⟩
  | cons first rest ih =>
      obtain ⟨more, rested, sorted, known⟩ := ih
      refine ⟨_, by rw [keysFrom, MemoryNode.keys, compiled, Except.map, rested],
        sorted_foldl_insert _ sorted, ?_⟩
      intro key
      rw [get?_foldl_insert, known, List.mem_filter, MemoryNode.mem_live_iff (spread.ordered first),
        List.exists_mem_cons_iff]
      rfl

/-- A pattern that cannot be compiled finds no keys. -/
theorem findKeys_of_error {pool : MemoryPool} (spread : pool.Spread) {written : String}
    {cause : Error} (refused : Glob.toPattern written = .error cause) (now : Nat) :
    pool.findKeys written now = .error cause := by
  obtain ⟨first, rest, segments⟩ := List.exists_cons_of_ne_nil spread.nonempty
  rw [findKeys, segments, keysFrom, MemoryNode.keys, refused]
  rfl

/-- A pool finds the keys that the pattern matches and whose values are there, in ascending
order. -/
theorem exists_findKeys {pool : MemoryPool} (spread : pool.Spread) {written : String}
    {pattern : Pattern} (compiled : Glob.toPattern written = .ok pattern) (now : Nat) :
    ∃ names, pool.findKeys written now = .ok names ∧ names.Pairwise (· < ·) ∧
      ∀ key, key ∈ names ↔
        (∃ cell, pool.cell? key = some cell ∧ cell.isLive now = true) ∧
          pattern.isIn key = true := by
  obtain ⟨found, answer, sorted, known⟩ := exists_keysFrom spread compiled now pool.segments
  refine ⟨found.names, by rw [findKeys, answer]; rfl, List.pairwise_map.mpr sorted, ?_⟩
  intro key
  have named : key ∈ found.names ↔ found.get? key = some () := by
    rw [← Keyed.mem_iff_get?_eq_some sorted, Keyed.names, List.mem_map]
    constructor
    · rintro ⟨entry, member, rfl⟩
      exact member
    · exact fun member => ⟨_, member, rfl⟩
  obtain ⟨target, listed, routed⟩ := exists_target spread.nonempty key
  rw [named, known, cell?, routed, Option.bind_some]
  constructor
  · -- What any node keeps lies on the node that its key is routed to.
    rintro ⟨name, -, ⟨cell, held, live⟩, passes⟩
    have owner := spread.routed held
    rw [routed] at owner
    cases owner
    exact ⟨⟨cell, held, live⟩, passes⟩
  · exact fun finds => ⟨target, listed, finds⟩

/-- What can be read under a key is what the pool keeps there. -/
theorem exists_get_iff {pool : MemoryPool} (spread : pool.Spread) (key : String) (now : Nat) :
    (∃ value, (pool.get .byKey key now).1 = .ok value) ↔
      ∃ cell, pool.cell? key = some cell ∧ cell.isLive now = true := by
  obtain ⟨target, -, routed⟩ := exists_target spread.nonempty key
  rw [get, (call_eq (MemoryNode.get key now) routed).1, cell?, routed, Option.bind_some]
  simp only [MemoryNode.get_eq_ok_iff]
  constructor
  · rintro ⟨value, cell, held, live, -⟩
    exact ⟨cell, held, live⟩
  · rintro ⟨cell, held, live⟩
    exact ⟨cell.value, cell, held, live, rfl⟩

/-- Pools that keep the same find the same keys. -/
theorem Agree.findKeys (agree : Agree left right) (written : String) (now : Nat) :
    left.findKeys written now = right.findKeys written now := by
  cases compiled : Glob.toPattern written with
  | error cause =>
      rw [findKeys_of_error agree.leftSpread compiled, findKeys_of_error agree.rightSpread compiled]
  | ok pattern =>
      obtain ⟨leftNames, leftFound, leftOrdered, leftKnown⟩ :=
        exists_findKeys agree.leftSpread compiled now
      obtain ⟨rightNames, rightFound, rightOrdered, rightKnown⟩ :=
        exists_findKeys agree.rightSpread compiled now
      have same : leftNames = rightNames := by
        refine leftOrdered.eq_of_mem_iff rightOrdered fun key => ?_
        rw [leftKnown, rightKnown, agree.cells]
      rw [leftFound, rightFound, same]

end MemoryPool

/-! ## Runs -/

/-- What is asked of a cache pool; every key goes to the segment that it is routed to.
Counting up or down by one adds one or minus one. -/
inductive CacheStep where
  | set (key value : String) (ttl : Option Nat)
  | setInteger (key : String) (value : Int) (ttl : Option Nat)
  | add (key : String) (delta : Int)
  | subtract (key : String) (amount : Int)
  | get (key : String)
  | getInteger (key : String)
  | delete (key : String)
  | findKeys (pattern : String)

/-- What a cache pool answers. -/
inductive CacheReply where
  | done (result : Except Failure Unit)
  | text (result : Except Error String)
  | integer (result : Except Error Int)
  | keys (result : Except Error (List String))

namespace MemoryPool

/-- The answer to a step at a reading of the clock, and the pool that it leaves. -/
def run (now : Nat) (pool : MemoryPool) : CacheStep → CacheReply × MemoryPool
  | .set key value ttl => (pool.set .byKey key value ttl now).map .done id
  | .setInteger key value ttl => (pool.setInteger .byKey key value ttl now).map .done id
  | .add key delta => (pool.add .byKey key delta now).map .integer id
  | .subtract key amount => (pool.subtract .byKey key amount now).map .integer id
  | .get key => (pool.get .byKey key now).map .text id
  | .getInteger key => (pool.getInteger .byKey key now).map .integer id
  | .delete key => (pool.delete .byKey key).map (fun result => .done (result.mapError .error)) id
  | .findKeys pattern => (.keys (pool.findKeys pattern now), pool)

/-- The answers to steps at their readings of the clock, and the pool that they leave. -/
def runAll : List (Nat × CacheStep) → MemoryPool → List CacheReply × MemoryPool
  | [], pool => ([], pool)
  | (now, step) :: rest, pool =>
      let (reply, pool) := pool.run now step
      let (replies, pool) := runAll rest pool
      (reply :: replies, pool)

theorem runAll_cons (now : Nat) (step : CacheStep) (rest : List (Nat × CacheStep))
    (pool : MemoryPool) :
    runAll ((now, step) :: rest) pool =
      ((pool.run now step).1 :: (runAll rest (pool.run now step).2).1,
        (runAll rest (pool.run now step).2).2) :=
  rfl

/-- Every step is answered alike by pools that keep the same. -/
theorem Agree.run (agree : Agree left right) (now : Nat) (step : CacheStep) :
    (left.run now step).1 = (right.run now step).1 ∧
      Agree (left.run now step).2 (right.run now step).2 := by
  have answered {α : Type} (reply : Except Error α → CacheReply) {key : String}
      {action : MemoryNode → Outcome MemoryNode α} (confined : MemoryNode.Confined key action) :
      reply (left.call .byKey key action).1 = reply (right.call .byKey key action).1 ∧
        Agree (left.call .byKey key action).2 (right.call .byKey key action).2 := by
    obtain ⟨same, after⟩ := agree.call confined
    exact ⟨congrArg reply same, after⟩
  let tell (result : Except Error Unit) : CacheReply := .done (result.mapError .error)
  have stored (key value : String) (ttl : Option Nat) :
      CacheReply.done (left.set .byKey key value ttl now).1 =
          .done (right.set .byKey key value ttl now).1 ∧
        Agree (left.set .byKey key value ttl now).2 (right.set .byKey key value ttl now).2 := by
    rw [MemoryPool.set, MemoryPool.set]
    cases MemoryNode.expiry ttl now with
    | error cause => exact ⟨rfl, agree⟩
    | ok expires => exact answered tell (MemoryNode.confined_set key value expires)
  cases step with
  | set key value ttl => exact stored key value ttl
  | setInteger key value ttl => exact stored key _ ttl
  | add key delta => exact answered .integer (MemoryNode.confined_add key delta now)
  | subtract key amount =>
      rw [MemoryPool.run, MemoryPool.run, subtract, subtract]
      split
      · exact answered .integer (MemoryNode.confined_add key (-amount) now)
      · exact ⟨rfl, agree⟩
  | get key => exact answered .text (MemoryNode.confined_get key now)
  | getInteger key =>
      exact answered (fun found => .integer (found.bind (MemoryNode.readInteger key)))
        (MemoryNode.confined_get key now)
  | delete key => exact answered tell (MemoryNode.confined_delete key)
  | findKeys pattern => exact ⟨congrArg CacheReply.keys (agree.findKeys pattern now), agree⟩

/-- Pools that keep the same answer alike throughout a run. -/
theorem Agree.runAll (agree : Agree left right) (steps : List (Nat × CacheStep)) :
    (MemoryPool.runAll steps left).1 = (MemoryPool.runAll steps right).1 ∧
      Agree (MemoryPool.runAll steps left).2 (MemoryPool.runAll steps right).2 := by
  induction steps generalizing left right with
  | nil => exact ⟨rfl, agree⟩
  | cons first rest ih =>
      obtain ⟨now, step⟩ := first
      obtain ⟨reply, after⟩ := agree.run now step
      obtain ⟨replies, last⟩ := ih after
      rw [runAll_cons, runAll_cons, reply, replies]
      exact ⟨rfl, last⟩

theorem spread_new {segments : List String} (nonempty : segments ≠ []) :
    Spread { segments := segments } where
  nonempty := nonempty
  ordered _ := Keyed.sorted_nil
  routed found := nomatch found

theorem cell?_new (segments : List String) (key : String) :
    cell? { segments := segments } key = none := by
  rw [cell?]
  cases target? { segments := segments } .byKey key with
  | none => rfl
  | some name => rfl

/-- New pools keep the same. -/
theorem agree_new {first second : List String} (firstSome : first ≠ []) (secondSome : second ≠ []) :
    Agree { segments := first } { segments := second } where
  leftSpread := spread_new firstSome
  rightSpread := spread_new secondSome
  cells key := (cell?_new first key).trans (cell?_new second key).symm

/-! ## Pools of connection strings -/

theorem connector_eq_byAddress : Cluster.connector (fun _ => true) = byAddress := by
  rw [Cluster.connector, byAddress, Pool.Connector.mk.injEq]
  refine ⟨?_, rfl⟩
  funext descriptor number
  split <;> rfl

/-- The pool of a connection string is made of connections that are made once. -/
theorem exists_registry {raw : String} {pool : MemoryPool} (connected : connect raw = .ok pool) :
    ∃ registry, Pool.init raw byAddress = .ok registry ∧
      pool = { segments := registry.segments.map fun segment => segment.connectionAt 0 } := by
  rw [connect] at connected
  cases started : Pool.init raw byAddress with
  | error cause =>
      rw [started] at connected
      contradiction
  | ok registry =>
      rw [started] at connected
      cases connected
      exact ⟨registry, rfl, rfl⟩

/-- Whatever turns the replicas of a segment take, they are one node. -/
theorem connectionAt_of_init {raw : String} {registry : Pool String}
    (started : Pool.init raw byAddress = .ok registry) (turn : Nat) :
    (registry.segments.map fun segment => segment.connectionAt turn) =
      registry.segments.map fun segment => segment.connectionAt 0 := by
  rw [Pool.init] at started
  split at started
  · contradiction
  · rw [← connector_eq_byAddress] at started
    rw [Cluster.addresses_of_ofSpec started turn, Cluster.addresses_of_ofSpec started 0]

/-- A pool of any connection string answers every run of calls as one node does, at whatever
readings of the clock; all replicas of a segment are the node that it calls.  At every time it
finds the keys that the pattern matches and that can be read then, in ascending order. -/
theorem sharded_answers_eq_single {raw : String} {pool : MemoryPool}
    (connected : connect raw = .ok pool) (steps : List (Nat × CacheStep)) :
    (∃ registry, Pool.init raw byAddress = .ok registry ∧ ∀ turn : Nat,
      (registry.segments.map fun segment => segment.connectionAt turn) = pool.segments) ∧
    (runAll steps pool).1 = (runAll steps single).1 ∧
    ∀ (written : String) (now : Nat),
      match Glob.toPattern written with
      | .error cause => findKeys written now (runAll steps pool).2 = .error cause
      | .ok pattern => ∃ names, findKeys written now (runAll steps pool).2 = .ok names ∧
          names.Pairwise (· < ·) ∧ ∀ key, key ∈ names ↔
            (∃ value, (get .byKey key now (runAll steps pool).2).1 = .ok value) ∧
              pattern.isIn key = true := by
  obtain ⟨registry, started, rfl⟩ := exists_registry connected
  have segments : (registry.segments.map fun segment => segment.connectionAt 0) ≠ [] := by
    rw [ne_eq, List.map_eq_nil_iff]
    exact registry.nonempty
  have agree : Agree _ single := agree_new segments (List.cons_ne_nil "local" [])
  obtain ⟨replies, after⟩ := agree.runAll steps
  refine ⟨⟨registry, started, connectionAt_of_init started⟩, replies, ?_⟩
  intro written now
  split
  · next cause refused => exact findKeys_of_error after.leftSpread refused now
  · next pattern compiled =>
    obtain ⟨names, found, ascending, known⟩ := exists_findKeys after.leftSpread compiled now
    refine ⟨names, found, ascending, ?_⟩
    intro key
    rw [known, exists_get_iff after.leftSpread]

/-- Two descriptors of one address and a third one behave as one node: a value past its time
is gone, a counter keeps counting, and found keys are told once. -/
theorem answers_over_shared_address :
    ∃ pool, connect "left[2],right,left/1" = .ok pool ∧
      let steps : List (Nat × CacheStep) := [
        (1, .set "a" "x" (some 3)), (2, .add "b" 5), (2, .findKeys "*"), (4, .get "a"),
        (5, .subtract "b" 2), (6, .findKeys "*"), (7, .getInteger "b")]
      (runAll steps pool).1 = (runAll steps single).1 := by
  obtain ⟨pool, connected⟩ : ∃ pool, connect "left[2],right,left/1" = .ok pool := ⟨_, rfl⟩
  refine ⟨pool, connected, ?_⟩
  intro steps
  exact (sharded_answers_eq_single connected steps).2.1

end MemoryPool

end Polystore
