/-!
# Extent of an automaton

A pattern stands for an automaton that reads texts byte by byte.  Its extent is
what the automaton takes up so far: the number of states, which is also the
number of the next state, and the bytes of all of them.

A state takes 32 bytes, each further transition 8 bytes, and each way out of a
state that branches 4 bytes.
-/

namespace Polystore.Pattern

/-- What an automaton takes up so far. -/
structure Extent where
  states : Nat := 0
  bytes : Nat := 0
  /-- Whether the latest part ends in a state that branches, so that leading on
  from it takes room. -/
  branching : Bool := false
deriving DecidableEq, Repr

namespace Extent

/-- The bytes that an automaton may take. -/
def limit : Nat := 10485760

/-- Whether the automaton has become too large. -/
def isOver (extent : Extent) : Bool :=
  limit < extent.bytes

/-- One more state with some ways out and some transitions in a table. -/
def state (extent : Extent) (ways : Nat) (transitions : Nat) : Extent :=
  { states := extent.states + 1, bytes := extent.bytes + 32 + 4 * ways + 8 * transitions }

/-- One more state with nothing but a way to the next one. -/
def plain (extent : Extent) : Extent :=
  extent.state 0 0

/-- So many states that each read one byte. -/
def readers (extent : Extent) (count : Nat) : Extent :=
  { states := extent.states + count, bytes := extent.bytes + 32 * count }

/-- More ways out of earlier states. -/
def ways (extent : Extent) (count : Nat) : Extent :=
  { extent with bytes := extent.bytes + 4 * count }

/-- Lead on from the end of the latest part. -/
def link (extent : Extent) : Extent :=
  { extent with
    bytes := extent.bytes + (if extent.branching then 4 else 0), branching := false }

/-- Say that the latest part ends in a state that branches. -/
def endBranching (extent : Extent) : Extent :=
  { extent with branching := true }

end Extent

/-- A part of an automaton, by what it adds to an extent; `none` if the automaton
becomes too large. -/
abbrev Growth := Extent → Option Extent

namespace Growth

/-- A part that adds some states, refused if that is too much. -/
def ofExtent (grow : Extent → Extent) : Growth := fun extent =>
  let grown := grow extent
  if grown.isOver then none else some grown

/-- One part after another. -/
def andThen (first second : Growth) : Growth := fun extent =>
  match first extent with
  | some grown => second grown.link
  | none => none

/-- So many copies of a part, each led to from what is before it. -/
def copies (part : Growth) : Nat → Growth
  | 0, extent => some extent
  | count + 1, extent =>
      match part extent.link with
      | some grown => copies part count grown
      | none => none

/-- Exactly so many copies of a part; no copy at all takes a state. -/
def exactly (part : Growth) (count : Nat) : Growth := fun extent =>
  if count = 0 then some extent.plain else copies part count extent

end Growth

end Polystore.Pattern
