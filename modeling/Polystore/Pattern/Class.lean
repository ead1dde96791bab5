/-!
# Character classes

A class is a set of characters, kept as ascending ranges of code points that do
not touch each other.  The code points of surrogates are no characters: a range
may run across them, and the neighbour of the last character before them is the
first one after them.

`contains` gives the meaning of a class.  The operations work range by range, so
that a class is known by its ranges and two equal classes are equal ranges.
-/

namespace Polystore.Pattern

/-- A set of characters. -/
structure CharClass where
  ranges : List (Nat × Nat)
deriving DecidableEq, Repr

namespace CharClass

/-- The last code point. -/
def last : Nat := 0x10FFFF

/-- Whether a code point lies in a range. -/
def isWithin (code : Nat) (range : Nat × Nat) : Bool :=
  decide (range.1 ≤ code) && decide (code ≤ range.2)

/-- Whether a code point is in a class. -/
def contains (kind : CharClass) (code : Nat) : Bool :=
  kind.ranges.any (isWithin code)

/-- No character. -/
def none : CharClass := ⟨[]⟩

/-- The characters from one code point to another. -/
def range (first last : Nat) : CharClass := ⟨[(first, last)]⟩

/-- The class of one character. -/
def one (c : Char) : CharClass := range c.toNat c.toNat

/-- Every character. -/
def every : CharClass := range 0 last

/-- Add a range to ascending ranges, given from the last to the first, none of
which begins after it.  Ranges that overlap or touch become one. -/
def extend (ranges : List (Nat × Nat)) (range : Nat × Nat) : List (Nat × Nat) :=
  match ranges with
  | [] => [range]
  | latest :: before =>
      if range.1 ≤ latest.2 + 1 then (latest.1, max latest.2 range.2) :: before
      else range :: latest :: before

/-- The class of the characters in some ranges. -/
def ofRanges (ranges : List (Nat × Nat)) : CharClass :=
  let sorted := ranges.mergeSort fun left right => left.1 ≤ right.1
  ⟨(sorted.foldl extend []).reverse⟩

/-- The union of some classes. -/
def anyOf (classes : List CharClass) : CharClass :=
  ofRanges (classes.flatMap ranges)

/-- The characters of one of two classes. -/
def union (left right : CharClass) : CharClass :=
  anyOf [left, right]

/-- The code point of the character after one. -/
def next (code : Nat) : Nat :=
  if code = 0xD7FF then 0xE000 else code + 1

/-- The code point of the character before one. -/
def previous (code : Nat) : Nat :=
  if code = 0xE000 then 0xD7FF else code - 1

/-- What lies between some ranges and after them, from a code point on. -/
def gapsFrom (start : Nat) : List (Nat × Nat) → List (Nat × Nat)
  | [] => if start ≤ last then [(start, last)] else []
  | range :: rest => (start, previous range.1) :: gapsFrom (next range.2) rest

/-- What lies before, between and after the ranges of a class. -/
def gaps (kind : CharClass) : List (Nat × Nat) :=
  match kind.ranges with
  | [] => [(0, last)]
  | range :: rest =>
      (if range.1 = 0 then [] else [(0, previous range.1)]) ++ gapsFrom (next range.2) rest

/-- The characters outside a class.  Two ranges with nothing but surrogates
between them leave the two characters beside the surrogates. -/
def complement (kind : CharClass) : CharClass :=
  ⟨kind.gaps.map fun gap => (min gap.1 gap.2, max gap.1 gap.2)⟩

/-- The common parts of ascending ranges. -/
def commonParts : List (Nat × Nat) → List (Nat × Nat) → List (Nat × Nat)
  | [], _ => []
  | _ :: _, [] => []
  | left :: lefts, right :: rights =>
      let part := (max left.1 right.1, min left.2 right.2)
      let rest :=
        if left.2 < right.2 then commonParts lefts (right :: rights)
        else commonParts (left :: lefts) rights
      if part.1 ≤ part.2 then part :: rest else rest
termination_by lefts rights => lefts.length + rights.length

/-- The characters of both of two classes. -/
def intersection (left right : CharClass) : CharClass :=
  ⟨commonParts left.ranges right.ranges⟩

/-- The characters of a class that are not in another. -/
def difference (left right : CharClass) : CharClass :=
  ⟨commonParts left.ranges (right.gaps.filter fun gap => gap.1 ≤ gap.2)⟩

/-- The characters of exactly one of two classes. -/
def symmetricDifference (left right : CharClass) : CharClass :=
  difference (union left right) (intersection left right)

/-- Whether a class holds no character. -/
def isEmpty (kind : CharClass) : Bool :=
  kind.ranges.isEmpty

/-- Whether all characters of a class are of ASCII. -/
def isAscii (kind : CharClass) : Bool :=
  kind.ranges.all fun range => range.2 < 128

/-- The character of a class that has no other. -/
def single? (kind : CharClass) : Option Char :=
  match kind.ranges with
  | [(first, last)] => if first = last then some (Char.ofNat first) else Option.none
  | _ => Option.none

/-- The code points that differ only in case from a code point, for the letters
of ASCII. -/
def foldAscii (kind : CharClass) : CharClass :=
  let shifted (first last : Nat) (shift : Nat → Nat) :=
    (kind.intersection (range first last)).ranges.map fun (low, high) => (shift low, shift high)
  ofRanges (kind.ranges ++ shifted 65 90 (· + 32) ++ shifted 97 122 (· - 32))

@[simp]
theorem contains_range (first last code : Nat) :
    (range first last).contains code = decide (first ≤ code ∧ code ≤ last) := by
  simp [contains, range, isWithin]

@[simp]
theorem contains_one (c : Char) (code : Nat) :
    (one c).contains code = decide (code = c.toNat) := by
  simp only [one, contains_range, decide_eq_decide]
  omega

end CharClass

end Polystore.Pattern
