import Polystore.Pattern.Escape
import Polystore.Pattern.Property.Ascii

/-!
# Classes in brackets

A class in brackets is made of characters, ranges, escapes, named classes and
further classes in brackets, and of operations between such parts.  A closing
bracket or hyphens at the beginning stand for themselves.
-/

namespace Polystore.Pattern

/-- A part of a class as it is read. -/
structure ClassPiece where
  inner : CharClass
  depth : Nat := 0

/-- A part with the variants in case of its characters if case is ignored, or
what is outside it.  Without Unicode no part may go beyond ASCII. -/
def ClassPiece.finish? (piece : ClassPiece) (flags : Flags) (negated : Bool) :
    Option ClassPiece := do
  let folded := flags.fold piece.inner
  let inner ← flags.allow? (if negated then flags.negate folded else folded)
  some { piece with inner }

/-- The operations between the parts of a class. -/
inductive ClassOperation where
  | intersection
  | difference
  | symmetricDifference

/-- The class of an operation. -/
def ClassOperation.apply : ClassOperation → CharClass → CharClass → CharClass
  | intersection => .intersection
  | difference => .difference
  | symmetricDifference => .symmetricDifference

/-- The parts of a class gathered into one part; the latest part comes first in
the list. -/
def gatherPieces (pieces : List ClassPiece) : ClassPiece :=
  match pieces with
  | [] => ⟨.none, 0⟩
  | [only] => only
  | several =>
      ⟨.anyOf (several.map (·.inner)), 1 + (several.map (·.depth)).foldl max 0⟩

/-- Finish the right side of an operation that is pending. -/
def closeOperation (flags : Flags) (pending : Option (ClassOperation × ClassPiece))
    (right : ClassPiece) : ClassPiece :=
  match pending with
  | none => right
  | some (operation, left) =>
      ⟨operation.apply (flags.fold left.inner) (flags.fold right.inner),
        1 + max left.depth right.depth⟩

/-- A part inside a class: an escape, or a character that stands for itself. -/
def readClassItem (flags : Flags) (text : List Char) : Option (Escape × List Char) :=
  match text with
  | [] => none
  | '\\' :: rest => readEscape flags rest
  | c :: rest => some (.literal c false, rest)

/-- The character after the next one, with what the flags leave out skipped. -/
def peekPastBlanks (flags : Flags) (rest : List Char) : Option Char :=
  if flags.ignoreBlanks then
    let next := rest.dropWhile Text.isBlank
    match next with
    | '#' :: more =>
        match more.dropWhile Text.isBlank with
        | [] => rest.head?
        | c :: _ => some c
    | [] => rest.head?
    | c :: _ => some c
  else rest.head?

/-- A part of a class or a range between two parts. -/
def readClassRange (flags : Flags) (text : List Char) : Option (CharClass × List Char) := do
  let (first, rest) ← readClassItem flags text
  let rest := flags.skip rest
  match rest with
  | [] => none
  | c :: more =>
      let next := peekPastBlanks flags more
      if c ≠ '-' ∨ next = some ']' ∨ next = some '-' then
        let inner ← first.toClass? flags
        some (inner, rest)
      else
        let (last, rest) ← readClassItem flags (flags.skip more)
        match first, last with
        | .literal low _, .literal high _ =>
            if low.toNat > high.toNat then none
            else if flags.unicode || decide (high.toNat < 128) then
              some (.range low.toNat high.toNat, rest)
            else none
        | _, _ => none

/-- The name in `[:name:]` after `[:`, whether it is negated, and the text after
it. -/
def readAsciiClass? (text : List Char) : Option (CharClass × Bool × List Char) := do
  let (negated, rest) := match text with
    | '^' :: rest => (true, rest)
    | other => (false, other)
  let (name, rest) ← Text.cutFirst ':' rest
  match rest with
  | ']' :: rest =>
      let inner ← Property.ascii? (String.ofList name)
      some (inner, negated, rest)
  | _ => none

/-- The hyphens at the beginning of a class, which stand for themselves. -/
def readHyphens (flags : Flags) : (fuel : Nat) → List ClassPiece → List Char →
    List ClassPiece × List Char
  | 0, pieces, text => (pieces, text)
  | fuel + 1, pieces, text =>
      match text with
      | '-' :: rest => readHyphens flags fuel (⟨.one '-', 0⟩ :: pieces) (flags.skip rest)
      | other => (pieces, other)

/-- The beginning of a class after its bracket: whether it is negated, and the
hyphens and the closing bracket that stand for themselves there. -/
def readClassOpening (flags : Flags) (text : List Char) :
    Bool × List ClassPiece × List Char :=
  let text := flags.skip text
  let (negated, text) := match text with
    | '^' :: rest => (true, flags.skip rest)
    | other => (false, other)
  let (pieces, text) := readHyphens flags (text.length + 1) [] text
  match pieces, text with
  | [], ']' :: rest => (negated, [⟨.one ']', 0⟩], flags.skip rest)
  | pieces, text => (negated, pieces, text)

/-- The rest of a class: `pending` is an operation that waits for its right
side, `pieces` are the parts read since.  The answer is the class without its
negation.  The fuel bounds the number of steps. -/
def readClassBody (flags : Flags) : (fuel : Nat) →
    (pending : Option (ClassOperation × ClassPiece)) → (pieces : List ClassPiece) →
    List Char → Option (ClassPiece × List Char)
  | 0, _, _, _ => none
  | fuel + 1, pending, pieces, text =>
      let operation (operation : ClassOperation) (rest : List Char) :=
        let left := closeOperation flags pending (gatherPieces pieces)
        readClassBody flags fuel (some (operation, left)) [] rest
      let part (text : List Char) := do
        let (inner, rest) ← readClassRange flags text
        readClassBody flags fuel pending (⟨inner, 0⟩ :: pieces) rest
      match flags.skip text with
      | [] => none
      | ']' :: rest => some (closeOperation flags pending (gatherPieces pieces), rest)
      | '&' :: '&' :: rest => operation .intersection rest
      | '-' :: '-' :: rest => operation .difference rest
      | '~' :: '~' :: rest => operation .symmetricDifference rest
      | '[' :: rest =>
          let ascii := match rest with
            | ':' :: name => readAsciiClass? name
            | _ => none
          match ascii with
          | some (inner, negated, rest) => do
              let piece ← (ClassPiece.mk inner 0).finish? flags negated
              readClassBody flags fuel pending (piece :: pieces) rest
          | none => do
              let (negated, opening, rest) := readClassOpening flags rest
              let (inner, rest) ← readClassBody flags fuel none opening rest
              let piece ← (ClassPiece.mk inner.inner (inner.depth + 1)).finish? flags negated
              readClassBody flags fuel pending (piece :: pieces) rest
      | text => part text

/-- A class after its opening bracket. -/
def readClass (flags : Flags) (text : List Char) : Option (ClassPiece × List Char) := do
  let (negated, opening, rest) := readClassOpening flags text
  let (inner, rest) ← readClassBody flags (text.length + 1) none opening rest
  let whole ← (ClassPiece.mk inner.inner (inner.depth + 1)).finish? flags negated
  some (whole, rest)

end Polystore.Pattern
