import Mathlib.Data.Int.CardIntervalMod
import Polystore.Pool

/-!
# Turns of a pool

A connection has a place in its pool: a segment and a position in it.  When segments take turns,
the connections of each come up one after the other, so a connection is selected whenever the
number of its turn in the segment leaves its position as remainder.  Of consecutive turns every
remainder gets its even share, up to one.
-/

namespace Polystore

/-! ## Counting turns -/

section

variable {length position : Nat}

/-- Of consecutive turns, each position has its even share, or one more. -/
theorem count_turns (inside : position < length) (start count : Nat) :
    Nat.count (fun turn => (start + turn + 1) % length = position) count =
      count / length +
        if (position + (length - 1) * (start + 1)) % length < count % length then 1 else 0 := by
  have positive : 0 < length := Nat.zero_lt_of_lt inside
  rw [← Nat.count_modEq_card count positive]
  congr 1
  funext turn
  -- The turns of a position are those that are congruent to one number.
  have around : position + (length - 1) * (start + 1) + (start + 1) =
      position + length * (start + 1) := by
    rw [Nat.add_assoc, ← Nat.succ_mul, Nat.succ_eq_add_one, Nat.sub_add_cancel positive]
  have same : turn ≡ position + (length - 1) * (start + 1) [MOD length] ↔
      start + turn + 1 ≡ position [MOD length] := by
    have shifted : turn + (start + 1) = start + turn + 1 := by omega
    rw [← Nat.ModEq.add_iff_right (Nat.ModEq.refl (start + 1)), shifted, around]
    simp [Nat.ModEq]
  rw [same, Nat.ModEq, Nat.mod_eq_of_lt inside]

/-- No position has two turns more than another one. -/
theorem count_turns_le {other : Nat} (inside : position < length) (otherInside : other < length)
    (start count : Nat) :
    Nat.count (fun turn => (start + turn + 1) % length = position) count ≤
      Nat.count (fun turn => (start + turn + 1) % length = other) count + 1 := by
  rw [count_turns inside, count_turns otherInside]
  split
  · split <;> omega
  · split <;> omega

/-- Whole rounds give every position as many turns. -/
theorem count_turns_mul (inside : position < length) (start rounds : Nat) :
    Nat.count (fun turn => (start + turn + 1) % length = position) (length * rounds) = rounds := by
  rw [count_turns inside, Nat.mul_mod_right, if_neg (Nat.not_lt_zero _), Nat.add_zero,
    Nat.mul_div_cancel_left rounds (Nat.zero_lt_of_lt inside)]

/-- A whole round gives every position a turn. -/
theorem count_turns_pos (inside : position < length) (start : Nat) {count : Nat}
    (round : length ≤ count) :
    0 < Nat.count (fun turn => (start + turn + 1) % length = position) count := by
  rw [count_turns inside]
  exact Nat.add_pos_left (Nat.div_pos round (Nat.zero_lt_of_lt inside)) _

end

/-- Counting in words goes on until the words are used up. -/
theorem toNat_succ {turns : UInt64} (room : turns.toNat + 1 < 2 ^ 64) :
    (turns + 1).toNat = turns.toNat + 1 := by
  rw [UInt64.toNat_add]
  exact Nat.mod_eq_of_lt room

/-! ## Shapes of pools -/

namespace Pool

variable {κ : Type}

/-- The connections of the segments, which no selection changes. -/
def shape (pool : Pool κ) : List (List κ) :=
  pool.segments.map Segment.connections

/-- How many selections were made in a segment. -/
def turnsOf (pool : Pool κ) (segment : Nat) : Nat :=
  (pool.segments[segment]?.map fun found => found.turns.toNat).getD 0

/-- The connection at a place, which is a segment and a position in it. -/
def connectionAt? (pool : Pool κ) (place : Nat × Nat) : Option κ :=
  pool.connections[pool.segmentBegin place.1 + place.2]?

section

variable {pool other : Pool κ}

theorem segmentCount_eq (pool : Pool κ) : pool.segmentCount = pool.shape.length :=
  (List.length_map _).symm

theorem connections_eq (pool : Pool κ) : pool.connections = pool.shape.flatten :=
  List.flatMap_def

theorem segmentLength_eq (pool : Pool κ) (segment : Nat) :
    pool.segmentLength segment = (pool.shape[segment]?.map List.length).getD 0 := by
  simp [segmentLength, shape, Function.comp_def]

theorem segmentBegin_eq (pool : Pool κ) (segment : Nat) :
    pool.segmentBegin segment = (pool.shape.take segment).flatten.length := by
  rw [segmentBegin, shape, ← List.map_take, List.flatMap_def]

theorem connectionAt?_congr (same : pool.shape = other.shape) :
    pool.connectionAt? = other.connectionAt? := by
  funext place
  rw [connectionAt?, connectionAt?, connections_eq, connections_eq, segmentBegin_eq,
    segmentBegin_eq, same]

/-- The connections of a segment lie one after the other behind its first one. -/
theorem connectionAt?_of_lt {segment position : Nat} {found : Segment κ}
    (here : pool.segments[segment]? = some found) (inside : position < found.connections.length) :
    pool.connectionAt? (segment, position) = found.connections[position]? := by
  have shaped : pool.shape[segment]? = some found.connections := by
    simp [shape, here]
  obtain ⟨less, same⟩ := List.getElem?_eq_some_iff.mp shaped
  have cut : pool.shape.flatten = (pool.shape.take segment).flatten ++
      (found.connections ++ (pool.shape.drop (segment + 1)).flatten) := by
    rw [← same, ← List.flatten_cons, ← List.drop_eq_getElem_cons less, ← List.flatten_append,
      List.take_append_drop]
  rw [connectionAt?, connections_eq, segmentBegin_eq, cut]
  simp [List.getElem?_append_right, List.getElem?_append_left inside]

theorem segmentLength_of_getElem? {segment : Nat} {found : Segment κ}
    (here : pool.segments[segment]? = some found) :
    pool.segmentLength segment = found.connections.length := by
  simp [segmentLength, here]

theorem lt_of_lt_segmentLength (pool : Pool κ) {segment position : Nat}
    (inside : position < pool.segmentLength segment) : segment < pool.segmentCount := by
  by_contra past
  have none : pool.segments[segment]? = none := List.getElem?_eq_none (Nat.le_of_not_lt past)
  rw [segmentLength, none] at inside
  exact Nat.not_lt_zero _ inside

/-- Every connection has a place. -/
theorem exists_place (pool : Pool κ) {connection : κ} (member : connection ∈ pool.connections) :
    ∃ place : Nat × Nat, place.2 < pool.segmentLength place.1 ∧
      pool.connectionAt? place = some connection := by
  obtain ⟨found, listed, held⟩ := List.mem_flatMap.mp member
  obtain ⟨segment, here⟩ := List.getElem?_of_mem listed
  obtain ⟨position, inside, same⟩ := List.getElem_of_mem held
  refine ⟨(segment, position), ?_, ?_⟩
  · rw [segmentLength_of_getElem? here]
    exact inside
  · rw [connectionAt?_of_lt here inside, List.getElem?_eq_getElem inside, same]

theorem turnsOf_of_getElem? {segment : Nat} {found : Segment κ}
    (here : pool.segments[segment]? = some found) :
    pool.turnsOf segment = found.turns.toNat := by
  simp [turnsOf, here]

end

/-! ## Selecting -/

variable {pool after : Pool κ}

/-- No counter starts again within so many selections. -/
structure HasTurns (pool : Pool κ) (count : Nat) : Prop where
  rounds : pool.turns.toNat + count < 2 ^ 64
  turns : ∀ segment, pool.turnsOf segment + count < 2 ^ 64

/-- Selecting from a segment gives its next connection, and moves its turn on. -/
theorem exists_select (pool : Pool κ) (segment : Nat) (inside : segment < pool.segmentCount) :
    ∃ found, pool.segments[segment]? = some found ∧ (pool.select segment inside).1 = found.next ∧
      (pool.select segment inside).2.segments = pool.segments.set segment found.advance :=
  ⟨_, List.getElem?_eq_getElem inside, rfl, rfl⟩

/-- One more turn was taken in a segment. -/
structure Advances (segment : Nat) (pool after : Pool κ) : Prop where
  shape : after.shape = pool.shape
  turnsOf : ∀ {count : Nat}, pool.HasTurns (count + 1) → ∀ other,
    after.turnsOf other = if other = segment then pool.turnsOf other + 1 else pool.turnsOf other

theorem advances_of_set {segment : Nat} {found : Segment κ}
    (here : pool.segments[segment]? = some found)
    (moved : after.segments = pool.segments.set segment found.advance) :
    Advances segment pool after := by
  obtain ⟨inside, -⟩ := List.getElem?_eq_some_iff.mp here
  constructor
  · apply List.ext_getElem?
    intro position
    rw [Pool.shape, Pool.shape, moved, List.getElem?_map, List.getElem?_map, List.getElem?_set]
    split
    · next same =>
      subst same
      rw [here]
      rfl
    · rfl
  · intro count turns other
    have small := turns.turns segment
    rw [turnsOf_of_getElem? here] at small
    by_cases same : other = segment
    · subst same
      have next : after.segments[other]? = some found.advance := by
        rw [moved, List.getElem?_set_self inside]
      rw [if_pos rfl, turnsOf_of_getElem? here, turnsOf_of_getElem? next]
      exact toNat_succ (by omega)
    · rw [if_neg same, Pool.turnsOf, Pool.turnsOf, moved, List.getElem?_set_ne (Ne.symm same)]

/-! ## Places -/

/-- The places of the connections whose turn it is in some segments, each of which has taken so
many turns before: the connections of a segment take turns one after the other. -/
def takeTurns (pool : Pool κ) : (turns : Nat → Nat) → (segments : List Nat) → List (Nat × Nat)
  | _, [] => []
  | turns, segment :: rest =>
      (segment, (turns segment + 1) % pool.segmentLength segment) ::
        takeTurns pool (fun other => if other = segment then turns other + 1 else turns other) rest

section

variable (pool : Pool κ) (turns : Nat → Nat) (segments : List Nat)

theorem map_fst_takeTurns : (pool.takeTurns turns segments).map Prod.fst = segments := by
  induction segments generalizing turns with
  | nil => rfl
  | cons segment rest ih => rw [takeTurns, List.map_cons, ih]

theorem takeTurns_append (more : List Nat) :
    pool.takeTurns turns (segments ++ more) = pool.takeTurns turns segments ++
      pool.takeTurns (fun segment => turns segment + segments.count segment) more := by
  induction segments generalizing turns with
  | nil => rfl
  | cons segment rest ih =>
      have later : (fun other =>
          (if other = segment then turns other + 1 else turns other) + rest.count other) =
            fun other => turns other + (segment :: rest).count other := by
        funext other
        by_cases same : other = segment
        · subst same
          simp
          omega
        · simp [same, Ne.symm same]
      rw [List.cons_append, takeTurns, takeTurns, ih, later, List.cons_append]

theorem length_takeTurns : (pool.takeTurns turns segments).length = segments.length := by
  rw [← List.length_map Prod.fst, map_fst_takeTurns]

theorem take_takeTurns (count : Nat) :
    (pool.takeTurns turns segments).take count = pool.takeTurns turns (segments.take count) := by
  induction segments generalizing turns count with
  | nil => simp [takeTurns]
  | cons segment rest ih =>
      cases count with
      | zero => rfl
      | succ count => rw [takeTurns, List.take_succ_cons, List.take_succ_cons, takeTurns, ih]

/-- A connection is selected as often as its turn comes in its segment. -/
theorem count_takeTurns (segment position : Nat) :
    (pool.takeTurns turns segments).count (segment, position) =
      Nat.count (fun turn => (turns segment + turn + 1) % pool.segmentLength segment = position)
        (segments.count segment) := by
  induction segments generalizing turns with
  | nil => rfl
  | cons first rest ih =>
      rw [takeTurns, List.count_cons, ih, List.count_cons]
      by_cases same : first = segment
      · subst same
        have later (turn : Nat) : turns first + 1 + turn + 1 = turns first + (turn + 1) + 1 := by
          omega
        simp [Nat.count_succ', later]
      · simp [same, Ne.symm same]

/-- Turns are taken by connections that the pool has. -/
theorem inside_of_mem_takeTurns (inside : ∀ segment ∈ segments, segment < pool.segmentCount) :
    ∀ place ∈ pool.takeTurns turns segments,
      place.1 < pool.segmentCount ∧ place.2 < pool.segmentLength place.1 := by
  induction segments generalizing turns with
  | nil =>
      intro place member
      contradiction
  | cons segment rest ih =>
      rw [List.forall_mem_cons] at inside
      rw [takeTurns, List.forall_mem_cons]
      constructor
      · obtain ⟨found, here⟩ : ∃ found, pool.segments[segment]? = some found :=
          ⟨_, List.getElem?_eq_getElem inside.1⟩
        refine ⟨inside.1, Nat.mod_lt _ ?_⟩
        rw [segmentLength_of_getElem? here]
        exact List.length_pos_iff.mpr found.nonempty
      · exact ih _ inside.2

theorem takeTurns_congr {pool other : Pool κ} (same : other.shape = pool.shape) :
    other.takeTurns = pool.takeTurns := by
  have lengths : other.segmentLength = pool.segmentLength := by
    funext segment
    rw [segmentLength_eq, segmentLength_eq, same]
  funext turns segments
  induction segments generalizing turns with
  | nil => rfl
  | cons segment rest ih => rw [takeTurns, takeTurns, ih, lengths]

end

end Pool

end Polystore
