import Polystore.Failure
import Polystore.Glob
import Polystore.Text.Blank
import Polystore.Text.Integer

/-!
# Nodes of a cache

A cache node keeps texts under keys, each perhaps until some time.  What is past
its time is gone for every reader, but it is only removed when it is read or
written again.  A counter is a text that denotes a signed word.
-/

namespace Polystore

/-- What is kept under a key. -/
structure Cell where
  value : String
  /-- When the value ceases to be there. -/
  expires : Option Nat := none
deriving DecidableEq, Repr

/-- Whether a value is still there at a time. -/
def Cell.isLive (cell : Cell) (now : Nat) : Bool :=
  match cell.expires with
  | none => true
  | some time => time > now

/-- The values of a cache node. -/
structure MemoryNode where
  cells : Keyed Cell := []
deriving Repr

namespace MemoryNode

/-- What a counter starts from. -/
def zero : Cell := { value := "0" }

/-- The cells that are still there at a time. -/
def live (node : MemoryNode) (now : Nat) : Keyed Cell :=
  node.cells.filter fun entry => entry.2.isLive now

/-- Read the value of a key.  A value past its time is removed. -/
def get (key : String) (now : Nat) (node : MemoryNode) : Outcome MemoryNode String :=
  match node.cells.get? key with
  | none => (.error (.keyMissing key), node)
  | some cell =>
      if cell.isLive now then (.ok cell.value, node)
      else (.error (.keyExpired key), { node with cells := node.cells.erase key })

/-- The nanoseconds that the clock can tell apart: it counts seconds in a signed word. -/
def clockRange : Nat := Text.signedRange * 1000000000

/-- When a value ceases to be there that is set at a time, forever or for a time. -/
def expiry (ttl : Option Nat) (now : Nat) : Except Panic (Option Nat) :=
  match ttl with
  | none => .ok none
  | some ttl => if now + ttl < clockRange then .ok (some (now + ttl)) else .error .instant

/-- Keep a value under a key, forever or until some time. -/
def set (key value : String) (expires : Option Nat) (node : MemoryNode) : MemoryNode :=
  { node with cells := Keyed.insert key ⟨value, expires⟩ node.cells }

/-- What a counter operation starts from: the value that is there, and zero if
there is none. -/
def counter (key : String) (now : Nat) (node : MemoryNode) : Cell :=
  match node.cells.get? key with
  | some cell => if cell.isLive now then cell else zero
  | none => zero

/-- Add to the counter under a key, whose time stays the same. -/
def add (key : String) (delta : Int) (now : Nat) (node : MemoryNode) :
    Outcome MemoryNode Int :=
  let cell := node.counter key now
  let kept (cell : Cell) : MemoryNode :=
    { node with cells := Keyed.insert key cell node.cells }
  match Text.readSigned? cell.value.toList with
  | none => (.error (.notACounter key), kept cell)
  | some value =>
      if Text.fitsSigned (value + delta) then
        (.ok (value + delta),
          kept { cell with value := String.ofList (Text.ofInt (value + delta)) })
      else (.error (.counterOverflow key), kept cell)

/-- Remove what is kept under a key, if anything is. -/
def delete (key : String) (node : MemoryNode) : MemoryNode :=
  { node with cells := node.cells.erase key }

/-- The keys of a wildcard pattern whose values are there, in ascending order. -/
def keys (pattern : String) (now : Nat) (node : MemoryNode) : Except Error (List String) :=
  (Glob.toPattern pattern).map fun compiled =>
    (node.live now).names.filter fun key => compiled.isIn key

/-- The integer that a value denotes; blanks around it do not count. -/
def readInteger (key value : String) : Except Error Int :=
  match Text.readSigned? (Text.trim value.toList) with
  | some number => .ok number
  | none => .error (.notAnInteger key value)

/-- How many values are there. -/
def size (now : Nat) (node : MemoryNode) : Nat :=
  (node.live now).length

end MemoryNode

end Polystore
