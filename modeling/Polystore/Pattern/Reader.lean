import Polystore.Pattern.Bracket
import Polystore.Pattern.Expression
import Polystore.Pattern.Group

/-!
# The notation of patterns

A pattern is written with `.`, `^`, `$`, `|`, groups, classes in brackets,
counts and escapes.  There are no back-references and no look-around, so every
written pattern is matched in time linear in the text.

A text that does not follow the notation is refused; which of several faults it
has does not matter, so reading answers with an option.  Besides the notation
itself, groups and classes may nest at most 250 deep.
-/

namespace Polystore.Pattern

/-- A part of a pattern as it is read. -/
structure Piece where
  pattern : Pattern
  /-- How deep the notation nests inside the part. -/
  depth : Nat := 0
  /-- Whether the part only sets flags; such a part cannot be repeated. -/
  directive : Bool := false

/-- The class of a dot. -/
def dot? (flags : Flags) : Option CharClass :=
  if !flags.unicode then none
  else if flags.dotMatchesLine then some .every
  else if flags.returnEndsLine then some (CharClass.ofRanges [(10, 10), (13, 13)]).complement
  else some (CharClass.one '\n').complement

/-- The assertion of `^`. -/
def lineStartLook (flags : Flags) : Look :=
  if flags.multiLine then
    if flags.returnEndsLine then .returnLineStart else .lineStart
  else .textStart

/-- The assertion of `$`. -/
def lineEndLook (flags : Flags) : Look :=
  if flags.multiLine then
    if flags.returnEndsLine then .returnLineEnd else .lineEnd
  else .textEnd

/-- A character, a dot, an assertion or an escape. -/
def readPrimitive (flags : Flags) (c : Char) (rest : List Char) :
    Option (Pattern × List Char) :=
  match c with
  | '\\' => do
      let (escape, rest) ← readEscape flags rest
      let pattern ← escape.toPattern? flags
      some (pattern, rest)
  | '.' => (dot? flags).map fun kind => (.one kind, rest)
  | '^' => some (.look (lineStartLook flags), rest)
  | '$' => some (.look (lineEndLook flags), rest)
  | other => some (flags.toPattern other, rest)

/-- Pieces one after the other; the latest comes first in the list. -/
def inSequence (pieces : List Piece) : Piece :=
  match pieces with
  | [] => { pattern := .empty }
  | [only] => { pattern := only.pattern, depth := only.depth }
  | several =>
      { pattern := .ofList (several.reverse.map (·.pattern)),
        depth := 1 + (several.map (·.depth)).foldl max 0 }

/-- Pieces of which one is to match; the latest comes first in the list. -/
def inChoice (pieces : List Piece) : Piece :=
  match pieces with
  | [only] => { pattern := only.pattern, depth := only.depth }
  | several =>
      { pattern := .oneOf (several.reverse.map (·.pattern)),
        depth := 1 + (several.map (·.depth)).foldl max 0 }

/-- Repeat the latest piece. -/
def repeatLatest (least : Nat) (most : Option Nat) (greedy : Bool) :
    List Piece → Option (List Piece)
  | [] => none
  | latest :: rest =>
      if latest.directive then none
      else some ({ pattern := latest.pattern.times least most greedy,
                   depth := latest.depth + 1 } :: rest)

/-- The mark that makes a repetition reluctant: whether the repetition is greedy,
and the text after the mark. -/
def readGreed (flags : Flags) : List Char → Bool × List Char
  | '?' :: rest => (flags.swapGreed, rest)
  | other => (!flags.swapGreed, other)

/-- The branches of a group up to its end: `branches` are those read, `pieces`
the pieces of the present one.  Answers the pattern, the capturing groups seen
and the text from the closing parenthesis on.  The fuel bounds the number of
steps. -/
def readBranches : (fuel : Nat) → (flags : Flags) → Captures →
    (branches pieces : List Piece) → List Char → Option (Piece × Captures × List Char)
  | 0, _, _, _, _, _ => none
  | fuel + 1, flags, captures, branches, pieces, text =>
      let finish (rest : List Char) :=
        some (inChoice (inSequence pieces :: branches), captures, rest)
      let repetition (least : Nat) (most : Option Nat) (rest : List Char) := do
        let (greedy, rest) := readGreed flags rest
        let pieces ← repeatLatest least most greedy pieces
        readBranches fuel flags captures branches pieces rest
      match flags.skip text with
      | [] => finish []
      | ')' :: rest => finish (')' :: rest)
      | '|' :: rest => readBranches fuel flags captures (inSequence pieces :: branches) [] rest
      | '?' :: rest => repetition 0 (some 1) rest
      | '*' :: rest => repetition 0 none rest
      | '+' :: rest => repetition 1 none rest
      | '\x7b' :: rest => do
          let (least, most, rest) ← readBounds flags rest
          repetition least most (flags.skip rest)
      | '[' :: rest => do
          let (inner, rest) ← readClass flags rest
          let piece := { pattern := .ofClass inner.inner, depth := inner.depth }
          readBranches fuel flags captures branches (piece :: pieces) rest
      | '(' :: rest => do
          let (opening, captures, rest) ← readOpening flags captures rest
          match opening with
          | .directive flags =>
              let piece := { pattern := .empty, directive := true }
              readBranches fuel flags captures branches (piece :: pieces) rest
          | .group inner number =>
              let (whole, captures, rest) ← readBranches fuel inner captures [] [] rest
              match rest with
              | ')' :: rest =>
                  let pattern := match number with
                    | some number => .group number whole.pattern
                    | none => whole.pattern
                  let piece := { pattern, depth := whole.depth + 1 }
                  readBranches fuel flags captures branches (piece :: pieces) rest
              | _ => none
      | c :: rest => do
          let (pattern, rest) ← readPrimitive flags c rest
          readBranches fuel flags captures branches ({ pattern } :: pieces) rest

/-- Groups, classes and repetitions may nest this deep. -/
def nestingLimit : Nat := 250

/-- The pattern that a text denotes, however large it is. -/
def parse? (text : List Char) : Option Pattern :=
  match readBranches (text.length + 1) {} {} [] [] text with
  | some (piece, _, []) => if piece.depth ≤ nestingLimit then some piece.pattern else none
  | _ => none

end Polystore.Pattern
