import Polystore.Pattern.Expression
import Polystore.Pattern.Extent.Class
import Polystore.Pattern.Extent.Words

/-!
# Patterns that fit

A pattern is accepted if the automata that it stands for are not too large: the
one that reads texts forwards, which also notes where groups begin and end, and
the one that reads them backwards.  `fits` counts their states as they would be
made and stops as soon as there are too many.  The count is an estimate of what
a compiler of patterns makes of them, and no result is to depend on it.
-/

namespace Polystore.Pattern

/-- The words of a choice between texts. -/
def words? : Pattern → Option (List (List Char))
  | literal text => some [text]
  | alt (literal text) right => right.words?.map (text :: ·)
  | _ => none

namespace Growth

/-- A part whose beginning and end are noted. -/
def noted (part : Growth) : Growth :=
  andThen (andThen (ofExtent (·.plain)) part) (ofExtent (·.plain))

/-- One copy or none. -/
def optional (part : Growth) : Growth := fun extent =>
  match part (extent.state 2 0) with
  | some grown => ofExtent (·.plain) grown.link
  | none => none

/-- Any number of copies of a part that reads some text. -/
def loop (part : Growth) : Growth := fun extent =>
  match part (extent.state 1 0) with
  | some grown => some grown.link.endBranching
  | none => none

/-- Any number of copies of a part that may read no text: at least one, or
none. -/
def emptyLoop (part : Growth) : Growth := fun extent =>
  match part extent with
  | some grown => ofExtent (fun grown => ((grown.state 2 0).state 2 0).plain) grown.link
  | none => none

/-- At least `count + 1` copies. -/
def manyAfter (part : Growth) (count : Nat) : Growth := fun extent =>
  match copies part (count + 1) extent with
  | some grown => some (grown.link.state 1 0).endBranching
  | none => none

/-- Copies that are each optional, with one way out of all of them. -/
def optionals (part : Growth) (count : Nat) : Growth :=
  copies (fun extent => part (extent.state 2 0)) count

/-- At least `least` copies and at most `more` further ones. -/
def bounded (part : Growth) (least more : Nat) : Growth := fun extent =>
  match exactly part least extent with
  | none => none
  | some grown =>
      if more = 0 then some grown
      else
        match optionals part more { grown.plain with branching := grown.branching } with
        | some grown => some grown.link
        | none => none

/-- A choice between some parts.  The states around them come after the second
one. -/
def choice (parts : List Growth) : Growth := fun extent =>
  let each (extent : Option Extent) (part : Growth) : Option Extent :=
    match extent with
    | some extent => (part extent).map (·.link)
    | none => none
  match (parts.take 2).foldl each (some extent) with
  | some grown => (parts.drop 2).foldl each (some (grown.state parts.length 0).plain)
  | none => none

end Growth

/-- What a pattern adds to an automaton, and what each of its branches does. -/
def growths (backwards : Bool) : Pattern → Growth × List Growth
  | empty => ofBranch (Growth.ofExtent (·.plain))
  | look _ => ofBranch (Growth.ofExtent (·.plain))
  | literal text =>
      let bytes := (Text.Utf8.encodeText text).length
      ofBranch (Growth.ofExtent (·.readers bytes))
  | one kind =>
      let products := kind.ranges.flatMap Text.Utf8.products
      ofBranch (Growth.ofExtent (growClass backwards kind products))
  | group _ inner =>
      let part := (growths backwards inner).1
      ofBranch <|
        if backwards then part else Growth.noted part
  | repeated inner least most _ =>
      let part := (growths backwards inner).1
      ofBranch <|
        match least, most with
        | 0, some 1 => Growth.optional part
        | 0, none =>
            match inner.leastLength? with
            | some (_ + 1) => Growth.loop part
            | _ => Growth.emptyLoop part
        | count + 1, none => Growth.manyAfter part count
        | least, some most => Growth.bounded part least (most - least)
  | seq first second =>
      let left := (growths backwards first).1
      let right := (growths backwards second).1
      ofBranch (if backwards then Growth.andThen right left else Growth.andThen left right)
  | alt left right =>
      let parts := (growths backwards left).1 :: (growths backwards right).2
      let words (_ : Unit) := (alt left right).words?
      (fun extent =>
        match words () with
        | some words =>
            let encoded := words.map fun word =>
              let bytes := Text.Utf8.encodeText word
              if backwards then bytes.reverse else bytes
            Growth.ofExtent (Words.grow encoded) extent
        | none => Growth.choice parts extent, parts)
where
  /-- A pattern that is its own only branch. -/
  ofBranch (growth : Growth) : Growth × List Growth := (growth, [growth])

/-- The assertions that hold before whatever a pattern matches, or after it, and
whether it matches the empty text only. -/
def outerLooks (backwards : Bool) : Pattern → List Look × Bool
  | empty => ([], true)
  | look asked => ([asked], true)
  | literal text => ([], text.isEmpty)
  | one _ => ([], false)
  | group _ inner => inner.outerLooks backwards
  | repeated inner least most _ =>
      let (looks, isEmpty) := inner.outerLooks backwards
      (if least = 0 then [] else looks, isEmpty && most.isSome)
  | seq first second =>
      let (left, leftIsEmpty) := first.outerLooks backwards
      let (right, rightIsEmpty) := second.outerLooks backwards
      let looks := if backwards then
          if rightIsEmpty then left ++ right else right
        else if leftIsEmpty then left ++ right else left
      (looks, leftIsEmpty && rightIsEmpty)
  | alt left right =>
      let (lefts, leftIsEmpty) := left.outerLooks backwards
      let (rights, rightIsEmpty) := right.outerLooks backwards
      (lefts.filter rights.contains, leftIsEmpty && rightIsEmpty)

/-- Whether a pattern matches at the start of a text only, or at its end. -/
def isAnchored (backwards : Bool) (pattern : Pattern) : Bool :=
  (pattern.outerLooks backwards).1.contains (if backwards then .textEnd else .textStart)

/-- The extent of an automaton for a pattern; it reads what comes before a match
unless the pattern is anchored. -/
def extent? (backwards : Bool) (pattern : Pattern) : Option Extent :=
  let start : Extent :=
    if pattern.isAnchored backwards then Extent.plain {}
    else (((Extent.state {} 2 0).plain).state 0 1)
  let part := (growths backwards pattern).1
  let noted := if backwards then part else Growth.noted part
  Growth.andThen noted (Growth.ofExtent (·.plain)) start

/-- Whether the automata of a pattern are not too large. -/
def fits (pattern : Pattern) : Bool :=
  let isWithin (extent : Option Extent) := extent.any fun extent => !extent.isOver
  isWithin (pattern.extent? false) && isWithin (pattern.extent? true)

end Polystore.Pattern
