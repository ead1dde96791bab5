import Polystore.Proofs.Pool.Turns

/-!
# Selections from a pool

Whichever way connections are selected, a selection uses the segment that it must use and
gives the connection whose turn it is there.  Consecutive turns go evenly over the
connections of a segment, so no connection falls behind another by more than one selection;
and consecutive rounds go evenly over the segments, so round robin reaches every connection.
-/

namespace Polystore

/-- A call that selects a connection. -/
inductive Selection where
  | first
  | id (number : Nat)
  | robin
  | shading (key : String)

namespace Selection

variable {κ : Type}

/-- Select a connection. -/
def run (selection : Selection) (pool : Pool κ) : κ × Pool κ :=
  match selection with
  | first => pool.first
  | id number => pool.selectId number
  | robin => pool.selectRobin
  | shading key => pool.selectShading key

/-- Select connections one after the other. -/
def runAll : List Selection → Pool κ → List κ × Pool κ
  | [], pool => ([], pool)
  | selection :: rest, pool =>
      let (connection, pool) := selection.run pool
      let (connections, pool) := runAll rest pool
      (connection :: connections, pool)

/-- The segment that a selection must use, after so many rounds. -/
def segment (pool : Pool κ) (rounds : Nat) : Selection → Nat
  | first => 0
  | id number => number % pool.segmentCount
  | robin => (rounds + 1) % pool.segmentCount
  | shading key => pool.segmentOf key

/-- The rounds after a selection. -/
def countRound (rounds : Nat) : Selection → Nat
  | robin => rounds + 1
  | _ => rounds

theorem countRound_le (selection : Selection) (rounds : Nat) :
    selection.countRound rounds ≤ rounds + 1 := by
  cases selection with
  | robin => exact Nat.le_refl _
  | first => exact Nat.le_succ _
  | id number => exact Nat.le_succ _
  | shading key => exact Nat.le_succ _

/-- The segments that selections must use, after so many rounds. -/
def segments (pool : Pool κ) : (rounds : Nat) → List Selection → List Nat
  | _, [] => []
  | rounds, selection :: rest =>
      selection.segment pool rounds :: segments pool (selection.countRound rounds) rest

/-- The places of the connections that a new pool is to give. -/
def places (pool : Pool κ) (selections : List Selection) : List (Nat × Nat) :=
  pool.takeTurns (fun _ => 0) (segments pool 0 selections)

variable {pool other : Pool κ}

theorem segments_congr (same : other.shape = pool.shape) :
    segments other = segments pool := by
  have counts : other.segmentCount = pool.segmentCount := by
    rw [Pool.segmentCount_eq, Pool.segmentCount_eq, same]
  funext rounds selections
  induction selections generalizing rounds with
  | nil => rfl
  | cons selection rest ih =>
      rw [segments, segments, ih]
      cases selection with
      | first => rfl
      | id number => rw [segment, segment, counts]
      | robin => rw [segment, segment, counts]
      | shading key => rw [segment, segment, Pool.segmentOf, Pool.segmentOf, counts]

theorem segments_append (pool : Pool κ) (rounds : Nat) (selections more : List Selection) :
    segments pool rounds (selections ++ more) = segments pool rounds selections ++
      segments pool (selections.foldl countRound rounds) more := by
  induction selections generalizing rounds with
  | nil => rfl
  | cons selection rest ih =>
      rw [List.cons_append, segments, segments, ih, List.cons_append, List.foldl_cons]

theorem length_segments (pool : Pool κ) (rounds : Nat) (selections : List Selection) :
    (segments pool rounds selections).length = selections.length := by
  induction selections generalizing rounds with
  | nil => rfl
  | cons selection rest ih => rw [segments, List.length_cons, ih, List.length_cons]

theorem segment_lt (selection : Selection) (pool : Pool κ) (rounds : Nat) :
    selection.segment pool rounds < pool.segmentCount := by
  cases selection with
  | first => exact pool.segmentCount_pos
  | id number => exact Nat.mod_lt _ pool.segmentCount_pos
  | robin => exact Nat.mod_lt _ pool.segmentCount_pos
  | shading key => exact Nat.mod_lt _ pool.segmentCount_pos

theorem lt_of_mem_segments (pool : Pool κ) (rounds : Nat) (selections : List Selection) :
    ∀ segment ∈ segments pool rounds selections, segment < pool.segmentCount := by
  induction selections generalizing rounds with
  | nil =>
      intro segment member
      contradiction
  | cons selection rest ih =>
      exact List.forall_mem_cons.mpr ⟨selection.segment_lt pool rounds, ih _⟩

/-- A selection gives the next connection of the segment that it must use. -/
theorem exists_run {count : Nat} (turns : pool.HasTurns (count + 1)) (selection : Selection) :
    ∃ found, pool.segments[selection.segment pool pool.turns.toNat]? = some found ∧
      (selection.run pool).1 = found.next ∧
      (selection.run pool).2.segments =
        pool.segments.set (selection.segment pool pool.turns.toNat) found.advance ∧
      (selection.run pool).2.turns.toNat = selection.countRound pool.turns.toNat := by
  cases selection with
  | first =>
      obtain ⟨found, here, next, moved⟩ := pool.exists_select 0 pool.segmentCount_pos
      exact ⟨found, here, next, moved, rfl⟩
  | id number =>
      obtain ⟨found, here, next, moved⟩ :=
        pool.exists_select (number % pool.segmentCount) (Nat.mod_lt _ pool.segmentCount_pos)
      exact ⟨found, here, next, moved, rfl⟩
  | robin =>
      have small := turns.rounds
      have round : (pool.turns + 1).toNat = pool.turns.toNat + 1 := toNat_succ (by omega)
      let moved : Pool κ := { pool with turns := pool.turns + 1 }
      obtain ⟨found, here, next, advanced⟩ :=
        moved.exists_select (moved.turns.toNat % moved.segmentCount)
          (Nat.mod_lt _ moved.segmentCount_pos)
      have target : moved.turns.toNat % moved.segmentCount =
          robin.segment pool pool.turns.toNat := congrArg (· % pool.segmentCount) round
      rw [target] at here
      rw [show moved.segments = pool.segments from rfl] at advanced
      exact ⟨found, here, next, advanced.trans (congrArg (pool.segments.set · _) target), round⟩
  | shading key =>
      obtain ⟨found, here, next, moved⟩ :=
        pool.exists_select (pool.segmentOf key) (Nat.mod_lt _ pool.segmentCount_pos)
      exact ⟨found, here, next, moved, rfl⟩

/-- The next connection of a segment is the one whose turn it is. -/
theorem next_eq_connectionAt? {count segment : Nat} (turns : pool.HasTurns (count + 1))
    {found : Segment κ} (here : pool.segments[segment]? = some found) :
    some found.next =
      pool.connectionAt? (segment, (pool.turnsOf segment + 1) % pool.segmentLength segment) := by
  have small := turns.turns segment
  rw [Pool.turnsOf_of_getElem? here] at small
  have turn : (found.turns + 1).toNat = pool.turnsOf segment + 1 := by
    rw [Pool.turnsOf_of_getElem? here]
    exact toNat_succ (by omega)
  have inside := found.position_lt (found.turns + 1).toNat
  have placed := Pool.connectionAt?_of_lt here inside
  rw [List.getElem?_eq_getElem inside] at placed
  rw [← turn, Pool.segmentLength_of_getElem? here]
  exact placed.symm

/-- Selections give the connections whose turns they are. -/
theorem runAll_eq (selections : List Selection) (turns : pool.HasTurns selections.length) :
    (runAll selections pool).1.map some =
      (pool.takeTurns pool.turnsOf (segments pool pool.turns.toNat selections)).map
        pool.connectionAt? := by
  induction selections generalizing pool with
  | nil => rfl
  | cons selection rest ih =>
      obtain ⟨found, here, next, moved, rounds⟩ := exists_run turns selection
      have advances := Pool.advances_of_set here moved
      have later := advances.turnsOf turns
      have less : (selection.run pool).2.HasTurns rest.length := by
        have small := turns.rounds
        rw [List.length_cons] at small turns
        constructor
        · rw [rounds]
          have most := selection.countRound_le pool.turns.toNat
          omega
        · intro other
          have few := turns.turns other
          rw [later]
          split
          · omega
          · omega
      rw [runAll, segments, Pool.takeTurns, List.map_cons, List.map_cons,
        ← next_eq_connectionAt? turns here, next]
      have rest := ih less
      rw [segments_congr advances.shape, Pool.takeTurns_congr advances.shape,
        Pool.connectionAt?_congr advances.shape, rounds, funext later] at rest
      rw [rest]

theorem runAll_append (selections more : List Selection) (pool : Pool κ) :
    (runAll (selections ++ more) pool).1 =
      (runAll selections pool).1 ++ (runAll more (runAll selections pool).2).1 := by
  induction selections generalizing pool with
  | nil => rfl
  | cons selection rest ih => exact congrArg (_ :: ·) (ih (selection.run pool).2)

theorem length_runAll (selections : List Selection) (pool : Pool κ) :
    (runAll selections pool).1.length = selections.length := by
  induction selections generalizing pool with
  | nil => rfl
  | cons selection rest ih => rw [runAll, List.length_cons, ih, List.length_cons]

/-- What is to be given after earlier selections. -/
theorem drop_places (pool : Pool κ) (earlier more : List Selection) :
    (places pool (earlier ++ more)).drop earlier.length =
      pool.takeTurns (segments pool 0 earlier).count
        (segments pool (earlier.foldl countRound 0) more) := by
  rw [places, segments_append, Pool.takeTurns_append]
  simp only [Nat.zero_add]
  apply List.drop_left'
  rw [Pool.length_takeTurns, length_segments]

/-- Round robin goes from segment to segment. -/
theorem count_segments_robin (pool : Pool κ) (rounds count segment : Nat) :
    (segments pool rounds (List.replicate count robin)).count segment =
      Nat.count (fun round => (rounds + round + 1) % pool.segmentCount = segment) count := by
  induction count generalizing rounds with
  | zero => rfl
  | succ count ih =>
      have later (round : Nat) : rounds + 1 + round + 1 = rounds + (round + 1) + 1 := by omega
      rw [List.replicate_succ, segments, List.count_cons, countRound, ih, Nat.count_succ']
      simp [later, Selection.segment]

end Selection

/-! ## New pools -/

namespace Pool

variable {κ : Type} {connect : Connector κ} {pool : Pool κ}

/-- Pools as they are made, with connections by some connector. -/
inductive Made (connect : Connector κ) : Pool κ → Prop where
  | ofSpec {spec : Connection.Spec} {pool : Pool κ}
      (connected : Pool.ofSpec spec connect = .ok pool) : Made connect pool
  | init {raw : String} {pool : Pool κ}
      (connected : Pool.init raw connect = .ok pool) : Made connect pool
  | single (descriptor : Connection.Descriptor) (connection : κ) :
      Made connect (Pool.single descriptor connection)

theorem turns_of_connectAll {descriptors : List Connection.Descriptor}
    {segments : List (Segment κ)} (connected : connectAll connect descriptors = .ok segments) :
    ∀ segment ∈ segments, segment.turns = 0 := by
  induction descriptors generalizing segments with
  | nil =>
      cases connected
      intro segment member
      contradiction
  | cons descriptor rest ih =>
      rw [connectAll] at connected
      split at connected
      · contradiction
      · next first here =>
        split at connected
        · contradiction
        · next later =>
          cases connected
          exact List.forall_mem_cons.mpr ⟨(eq_of_connectSegment here).2.2, ih later⟩

theorem turnsOf_eq_zero (fresh : ∀ segment ∈ pool.segments, segment.turns = 0) (segment : Nat) :
    pool.turnsOf segment = 0 := by
  rw [turnsOf]
  cases found : pool.segments[segment]? with
  | none => rfl
  | some here => simp [fresh here (List.mem_of_getElem? found)]

theorem turns_of_ofSpec {spec : Connection.Spec} (connected : ofSpec spec connect = .ok pool) :
    pool.turns = 0 ∧ ∀ segment, pool.turnsOf segment = 0 := by
  rw [ofSpec] at connected
  split at connected
  · contradiction
  · contradiction
  · next segments =>
    cases connected
    exact ⟨rfl, turnsOf_eq_zero (turns_of_connectAll segments)⟩

/-- No turn was taken in a new pool. -/
theorem Made.turns (made : pool.Made connect) :
    pool.turns = 0 ∧ ∀ segment, pool.turnsOf segment = 0 := by
  cases made with
  | ofSpec connected => exact turns_of_ofSpec connected
  | init connected =>
      rw [Pool.init] at connected
      split at connected
      · contradiction
      · exact turns_of_ofSpec connected
  | single descriptor connection =>
      exact ⟨rfl, turnsOf_eq_zero (by simp [Pool.single])⟩

theorem Made.hasTurns (made : pool.Made connect) {count : Nat} (few : count < 2 ^ 64) :
    pool.HasTurns count where
  rounds := by
    rw [made.turns.1]
    simpa using few
  turns segment := by
    rw [made.turns.2]
    simpa using few

/-- A new pool gives the connections at the places whose turns come. -/
theorem Made.runAll_eq (made : pool.Made connect) {selections : List Selection}
    (few : selections.length < 2 ^ 64) :
    (Selection.runAll selections pool).1.map some =
      (Selection.places pool selections).map pool.connectionAt? := by
  have given := Selection.runAll_eq selections (made.hasTurns few)
  rw [made.turns.1, funext made.turns.2] at given
  exact given

/-- What a new pool gives after earlier selections. -/
theorem Made.runAll_after_eq (made : pool.Made connect) {earlier more : List Selection}
    (few : (earlier ++ more).length < 2 ^ 64) :
    (Selection.runAll more (Selection.runAll earlier pool).2).1.map some =
      ((Selection.places pool (earlier ++ more)).drop earlier.length).map pool.connectionAt? := by
  have all := congrArg (List.drop earlier.length) (made.runAll_eq few)
  rw [← List.map_drop, ← List.map_drop, Selection.runAll_append,
    List.drop_left' (Selection.length_runAll earlier pool)] at all
  exact all

/-- The number of connections in the longest segment. -/
def longest (pool : Pool κ) : Nat :=
  (pool.segments.map fun segment => segment.connections.length).foldr max 0

theorem segmentLength_le_longest (pool : Pool κ) (segment : Nat) :
    pool.segmentLength segment ≤ pool.longest := by
  have most (lengths : List Nat) (position : Nat) :
      lengths[position]?.getD 0 ≤ lengths.foldr max 0 := by
    induction lengths generalizing position with
    | nil => exact Nat.le_refl 0
    | cons length rest ih =>
        cases position with
        | zero => exact Nat.le_max_left _ _
        | succ position => exact Nat.le_trans (ih position) (Nat.le_max_right _ _)
  have bound := most (pool.segments.map fun segment => segment.connections.length) segment
  rwa [List.getElem?_map] at bound

/-- Every selection gives a connection of the segment that it must use, and none of a segment
falls behind another one of it by more than one selection. -/
theorem selections_take_turns (made : pool.Made connect) (selections : List Selection)
    (few : selections.length < 2 ^ 64) :
    let places := Selection.places pool selections
    (Selection.runAll selections pool).1.map some = places.map pool.connectionAt? ∧
      places.map Prod.fst = Selection.segments pool 0 selections ∧
      (∀ place ∈ places,
        place.1 < pool.segmentCount ∧ place.2 < pool.segmentLength place.1) ∧
      ∀ count segment position other, position < pool.segmentLength segment →
        other < pool.segmentLength segment →
        (places.take count).count (segment, position) ≤
          (places.take count).count (segment, other) + 1 := by
  intro places
  constructor
  · exact made.runAll_eq few
  constructor
  · exact pool.map_fst_takeTurns _ _
  constructor
  · exact pool.inside_of_mem_takeTurns _ _ (Selection.lt_of_mem_segments pool 0 selections)
  · intro count segment position other inside otherInside
    change ((pool.takeTurns _ _).take count).count _ ≤ ((pool.takeTurns _ _).take count).count _ + 1
    rw [take_takeTurns, count_takeTurns, count_takeTurns]
    exact count_turns_le inside otherInside _ _

/-- Three clusters, the second of which asks for no replica, under all kinds of selections. -/
theorem turns_over_three_clusters :
    let connect : Connector (String × Nat) :=
      { make := fun descriptor replica => .ok (descriptor.address, replica), bytes := 32 }
    let spec : Connection.Spec := ⟨[{ address := "a", replicas := 3 },
      { address := "b", replicas := 0 }, { address := "c", replicas := 2 }]⟩
    let selections : List Selection := [.first, .robin, .shading "k", .id 5, .robin, .first, .robin]
    ∃ pool, Pool.ofSpec spec connect = .ok pool ∧ selections.length < 2 ^ 64 ∧
      (Selection.runAll selections pool).1 =
        [("a", 1), ("b", 0), ("c", 1), ("c", 0), ("c", 1), ("a", 2), ("a", 0)] ∧
      Selection.segments pool 0 selections = [0, 1, 2, 2, 2, 0, 0] ∧
      ∀ count segment position other, position < pool.segmentLength segment →
        other < pool.segmentLength segment →
        ((Selection.places pool selections).take count).count (segment, position) ≤
          ((Selection.places pool selections).take count).count (segment, other) + 1 := by
  intro connect spec selections
  refine ⟨_, rfl, by decide, ?_, ?_, ?_⟩
  · decide +kernel
  · decide +kernel
  · exact (selections_take_turns (@Made.ofSpec _ connect spec _ rfl) selections (by decide)).2.2.2

/-- After any selections, round robin through as many rounds as the longest segment has
connections uses every segment so often, and reaches every connection. -/
theorem robin_reaches_every_connection (made : pool.Made connect) (earlier : List Selection)
    (few : earlier.length + pool.segmentCount * pool.longest < 2 ^ 64) :
    let calls := List.replicate (pool.segmentCount * pool.longest) Selection.robin
    let replies := (Selection.runAll calls (Selection.runAll earlier pool).2).1
    let places := (Selection.places pool (earlier ++ calls)).drop earlier.length
    replies.map some = places.map pool.connectionAt? ∧
      (∀ segment position, position < pool.segmentLength segment →
        (segment, position) ∈ places) ∧
      (∀ connection ∈ pool.connections, connection ∈ replies) ∧
      ∀ segment < pool.segmentCount, (places.map Prod.fst).count segment = pool.longest := by
  intro calls replies places
  let visits := Selection.segments pool (earlier.foldl Selection.countRound 0) calls
  have later : places = pool.takeTurns (Selection.segments pool 0 earlier).count visits :=
    Selection.drop_places pool earlier calls
  have share (segment : Nat) (inside : segment < pool.segmentCount) :
      visits.count segment = pool.longest := by
    rw [Selection.count_segments_robin, count_turns_mul inside]
  have used (segment : Nat) (inside : segment < pool.segmentCount) :
      (places.map Prod.fst).count segment = pool.longest := by
    rw [later, map_fst_takeTurns, share segment inside]
  have reached (segment position : Nat) (inside : position < pool.segmentLength segment) :
      (segment, position) ∈ places := by
    rw [← List.count_pos_iff, later, count_takeTurns,
      share segment (pool.lt_of_lt_segmentLength inside)]
    exact count_turns_pos inside _ (pool.segmentLength_le_longest segment)
  have given : replies.map some = places.map pool.connectionAt? := by
    apply made.runAll_after_eq
    rwa [List.length_append, List.length_replicate]
  refine ⟨given, reached, ?_, used⟩
  intro connection member
  obtain ⟨place, inside, here⟩ := pool.exists_place member
  have placed : some connection ∈ replies.map some := by
    rw [given, ← here]
    exact List.mem_map_of_mem (reached place.1 place.2 inside)
  simpa using placed

/-- After two selections, six rounds reach the four connections of two clusters. -/
theorem robin_reaches_two_clusters :
    let connect : Connector (String × Nat) :=
      { make := fun descriptor replica => .ok (descriptor.address, replica), bytes := 32 }
    let spec : Connection.Spec := ⟨[{ address := "a", replicas := 3 }, { address := "b" }]⟩
    let earlier : List Selection := [.first, .robin]
    let calls := List.replicate 6 Selection.robin
    ∃ pool, Pool.ofSpec spec connect = .ok pool ∧
      earlier.length + pool.segmentCount * pool.longest < 2 ^ 64 ∧
      pool.connections = [("a", 0), ("a", 1), ("a", 2), ("b", 0)] ∧
      ∀ connection ∈ pool.connections,
        connection ∈ (Selection.runAll calls (Selection.runAll earlier pool).2).1 := by
  intro connect spec earlier calls
  refine ⟨_, rfl, by decide, rfl, ?_⟩
  exact (robin_reaches_every_connection (@Made.ofSpec _ connect spec _ rfl) earlier (by decide)).2.2.1

end Pool

end Polystore
