import Polystore.Pattern.Class
import Polystore.Pattern.Extent.Basic
import Polystore.Text.Utf8
import Std.Data.HashMap

/-!
# Classes in an automaton

A class of ASCII is one state with a table of its ranges.  Other classes are read
byte by byte, with states shared between characters: those that read the same
last bytes when texts are read forwards, and those that read the same first bytes
when they are read backwards.

States are shared through a table with a limited number of slots, which are found
by a hash.  A newer state takes over the slot of an older one, which is then no
longer shared.
-/

namespace Polystore.Pattern

open Text.Utf8 (Range)

/-- Mix numbers into a hash. -/
def mixHash (numbers : List Nat) : UInt64 :=
  numbers.foldl (fun hash number => (hash ^^^ number.toUInt64) * 1099511628211)
    14695981039346656037

/-- The states that are shared, by the slot of what they were made for. -/
structure Slots (Key : Type) where
  count : Nat
  taken : Std.HashMap Nat (Key × Nat) := {}

namespace Slots

variable {Key : Type} [DecidableEq Key]

/-- The slot of a hash. -/
def slotOf (slots : Slots Key) (hash : UInt64) : Nat :=
  hash.toNat % slots.count

/-- The state that was made for a key. -/
def get? (slots : Slots Key) (slot : Nat) (key : Key) : Option Nat :=
  match slots.taken[slot]? with
  | some (owner, state) => if owner = key then some state else none
  | none => none

/-- Give a slot to a key and its state. -/
def set (slots : Slots Key) (slot : Nat) (key : Key) (state : Nat) : Slots Key :=
  { slots with taken := slots.taken.insert slot (key, state) }

end Slots

/-- A transition on a range of bytes to a state. -/
structure Arc where
  range : Range
  target : Nat
deriving DecidableEq

/-- A state that may get more transitions: those that are finished, the latest
first, and the range of one that is not. -/
structure OpenState where
  arcs : List Arc := []
  pending : Option Range := none

/-- The transitions of a state, with the pending one leading to a target. -/
def OpenState.close (state : OpenState) (target : Nat) : List Arc :=
  match state.pending with
  | some range => ⟨range, target⟩ :: state.arcs
  | none => state.arcs

/-- A class that is being added to an automaton that reads forwards. -/
structure ForwardClass where
  extent : Extent
  slots : Slots (List Arc) := { count := 10000 }
  /-- The state after the class. -/
  goal : Nat
  /-- The states on the way of the latest product of ranges, the first one
  first. -/
  way : List OpenState := [{}]

namespace ForwardClass

/-- A state with some transitions, which are given from the last to the first. -/
def share (building : ForwardClass) (arcs : List Arc) : ForwardClass × Nat :=
  let key := arcs.reverse
  let hash := mixHash (key.flatMap fun arc => [arc.range.1, arc.range.2, arc.target])
  let slot := building.slots.slotOf hash
  match building.slots.get? slot key with
  | some state => (building, state)
  | none =>
      let state := building.extent.states
      ({ building with
          extent := building.extent.state 0 key.length
          slots := building.slots.set slot key state }, state)

/-- Finish states that lead to each other and at last to the goal. -/
def finish (building : ForwardClass) : List OpenState → ForwardClass × Nat
  | [] => (building, building.goal)
  | state :: rest =>
      let (building, target) := building.finish rest
      building.share (state.close target)

/-- Finish the states after the first `count + 1` ones of the way. -/
def finishAfter (building : ForwardClass) (count : Nat) : ForwardClass :=
  let (finished, target) := building.finish (building.way.drop (count + 1))
  let way := match building.way.drop count with
    | state :: _ => building.way.take count ++ [{ arcs := state.close target }]
    | [] => building.way
  { finished with way }

/-- Add a product of ranges, which comes after those added earlier. -/
def add (building : ForwardClass) (product : List Range) : ForwardClass :=
  let common := ((product.zip building.way).takeWhile fun (range, state) =>
    state.pending = some range).length
  let building := building.finishAfter common
  match product.drop common with
  | [] => building
  | range :: rest =>
      let way := building.way.take common ++
        (building.way.drop common).map ({ · with pending := some range }) ++
        rest.map fun range => { pending := some range }
      { building with way }

end ForwardClass

/-- Add the products of a class to an automaton that reads forwards. -/
def growForwards (products : List (List Range)) (extent : Extent) : Extent :=
  let start : ForwardClass := { extent := extent.plain, goal := extent.states }
  let added := (products.foldl ForwardClass.add start).finishAfter 0
  (added.finish added.way).1.extent

/-- A class that is being added to an automaton that reads backwards. -/
structure BackwardClass where
  extent : Extent
  slots : Slots (Nat × Range) := { count := 1000 }

namespace BackwardClass

/-- Read a range of bytes before a state. -/
def read (building : BackwardClass) (source : Nat) (range : Range) : BackwardClass × Nat :=
  let slot := building.slots.slotOf (mixHash [source, range.1, range.2])
  match building.slots.get? slot (source, range) with
  | some state => (building, state)
  | none =>
      let state := building.extent.states
      (⟨building.extent.plain, building.slots.set slot (source, range) state⟩, state)

/-- Add a product of ranges as a further way out of the class. -/
def add (goal : Nat) (building : BackwardClass) (product : List Range) : BackwardClass :=
  let (read, _) := product.foldl (fun (building, source) range => building.read source range)
    (building, goal)
  { read with extent := read.extent.ways 1 }

end BackwardClass

/-- Add the products of a class to an automaton that reads backwards. -/
def growBackwards (products : List (List Range)) (extent : Extent) : Extent :=
  let start : BackwardClass := { extent := extent.plain.plain }
  (products.foldl (BackwardClass.add (extent.states + 1)) start).extent

/-- Add a class, given with the products of its ranges, to an automaton. -/
def growClass (backwards : Bool) (kind : CharClass) (products : List (List Range))
    (extent : Extent) : Extent :=
  if kind.isAscii then extent.plain.state 0 kind.ranges.length
  else if backwards then growBackwards products extent
  else growForwards products extent

end Polystore.Pattern
