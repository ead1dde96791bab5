import Polystore.Pattern.Property.Ascii
import Polystore.Pattern.Property.Name

/-!
# Patterns

A pattern is an expression over texts, character classes and assertions.  An
assertion looks at the characters beside a position and matches the empty text
there, so a match depends on what stands before and after the matched text as
well as on the text itself.

`Matches` gives the meaning by one rule per construction.  Patterns are put
together by `ofClass`, `times`, `ofList` and `oneOf`, which keep them in a
simple form: no empty parts in a sequence, texts that follow each other as one
text, and what all branches of a choice begin with once in front of it.
-/

namespace Polystore

namespace Pattern

/-- What an assertion asks of the characters before and after a position;
`unicode` tells whether words are those of Unicode or of ASCII. -/
inductive Look where
  | textStart
  | textEnd
  | lineStart
  | lineEnd
  /-- Like `lineStart`, with a carriage return, alone or with a line feed, as
  line end too. -/
  | returnLineStart
  /-- Like `lineEnd`, with a carriage return, alone or with a line feed, as line
  end too. -/
  | returnLineEnd
  | wordBoundary (unicode : Bool)
  | notWordBoundary (unicode : Bool)
  | wordStart (unicode : Bool)
  | wordEnd (unicode : Bool)
  /-- No word character before. -/
  | wordStartHalf (unicode : Bool)
  /-- No word character after. -/
  | wordEndHalf (unicode : Bool)
deriving DecidableEq, Repr

/-- Whether a character beside a position is there and makes up words. -/
def isWord (unicode : Bool) : Option Char → Bool
  | none => false
  | some c =>
      if unicode then Property.word.contains c.toNat
      else Property.asciiWord.contains c.toNat

/-- Whether an assertion holds between two characters; `none` stands for the
start or the end of the text. -/
def Look.holds (look : Look) (before after : Option Char) : Bool :=
  match look with
  | textStart => before.isNone
  | textEnd => after.isNone
  | lineStart => before.isNone || before == some '\n'
  | lineEnd => after.isNone || after == some '\n'
  | returnLineStart =>
      before.isNone || before == some '\n' ||
        (before == some '\r' && after != some '\n')
  | returnLineEnd =>
      after.isNone || after == some '\r' ||
        (after == some '\n' && before != some '\r')
  | wordBoundary unicode => isWord unicode before != isWord unicode after
  | notWordBoundary unicode => isWord unicode before == isWord unicode after
  | wordStart unicode => !isWord unicode before && isWord unicode after
  | wordEnd unicode => isWord unicode before && !isWord unicode after
  | wordStartHalf unicode => !isWord unicode before
  | wordEndHalf unicode => !isWord unicode after

end Pattern

open Pattern

/-- A pattern. -/
inductive Pattern where
  /-- The empty text. -/
  | empty
  /-- An assertion about the position. -/
  | look (asked : Look)
  /-- A text that stands for itself. -/
  | literal (text : List Char)
  /-- One character of a class. -/
  | one (kind : CharClass)
  /-- A group whose text is captured under a number. -/
  | group (number : Nat) (inner : Pattern)
  /-- At least and at most so many copies of a pattern one after the other; a
  greedy repetition prefers more copies to fewer. -/
  | repeated (inner : Pattern) (least : Nat) (most : Option Nat) (greedy : Bool)
  | seq (first second : Pattern)
  | alt (left right : Pattern)
deriving DecidableEq, Repr

namespace Pattern

/-- The character after a text: its own first character, or the one that
follows it. -/
def firstOr : List Char → Option Char → Option Char
  | [], after => after
  | c :: _, _ => some c

/-- The character before what follows a text: its own last character, or the
one that precedes it. -/
def lastOr (before : Option Char) (text : List Char) : Option Char :=
  text.getLast?.or before

/-- The texts that a pattern matches between two characters. -/
inductive Matches : Pattern → Option Char → List Char → Option Char → Prop where
  | empty (before after : Option Char) : Matches .empty before [] after
  | look {asked : Look} {before after : Option Char} (holds : asked.holds before after = true) :
      Matches (.look asked) before [] after
  | literal (text : List Char) (before after : Option Char) :
      Matches (.literal text) before text after
  | one {kind : CharClass} {c : Char} (before after : Option Char)
      (contains : kind.contains c.toNat = true) :
      Matches (.one kind) before [c] after
  | group {number : Nat} {inner : Pattern} {before after : Option Char} {text : List Char}
      (ofInner : Matches inner before text after) :
      Matches (.group number inner) before text after
  | seq {first second : Pattern} {before after : Option Char} {left right : List Char}
      (ofFirst : Matches first before left (firstOr right after))
      (ofSecond : Matches second (lastOr before left) right after) :
      Matches (.seq first second) before (left ++ right) after
  | left {left right : Pattern} {before after : Option Char} {text : List Char}
      (ofLeft : Matches left before text after) : Matches (.alt left right) before text after
  | right {left right : Pattern} {before after : Option Char} {text : List Char}
      (ofRight : Matches right before text after) : Matches (.alt left right) before text after
  | done {inner : Pattern} {most : Option Nat} {greedy : Bool} (before after : Option Char) :
      Matches (.repeated inner 0 most greedy) before [] after
  | more {inner : Pattern} {least : Nat} {most : Option Nat} {greedy : Bool}
      {before after : Option Char} {first rest : List Char} (room : most ≠ some 0)
      (ofInner : Matches inner before first (firstOr rest after))
      (ofRest : Matches (.repeated inner (least - 1) (most.map (· - 1)) greedy)
        (lastOr before first) rest after) :
      Matches (.repeated inner least most greedy) before (first ++ rest) after

/-- Whether a pattern matches somewhere in a text. -/
def MatchesIn (pattern : Pattern) (text : List Char) : Prop :=
  ∃ left inner right, text = left ++ inner ++ right ∧
    Matches pattern left.getLast? inner right.head?

/-- The pattern of one character of a class; a class of one character is a
text. -/
def ofClass (kind : CharClass) : Pattern :=
  match kind.single? with
  | some c => literal [c]
  | none => one kind

/-- The least length of a text that a pattern matches; `none` once a part of the
pattern matches no text at all. -/
def leastLength? : Pattern → Option Nat
  | empty => some 0
  | look _ => some 0
  | literal text => some text.length
  | one kind => if kind.isEmpty then none else some 1
  | group _ inner => inner.leastLength?
  | repeated inner least _ _ => inner.leastLength?.map (· * least)
  | seq first second => do
      return (← first.leastLength?) + (← second.leastLength?)
  | alt left right => do
      return min (← left.leastLength?) (← right.leastLength?)

/-- The greatest length of a text that a pattern matches; `none` if there is no
bound, or once a part of the pattern matches no text at all. -/
def mostLength? : Pattern → Option Nat
  | empty => some 0
  | look _ => some 0
  | literal text => some text.length
  | one kind => if kind.isEmpty then none else some 1
  | group _ inner => inner.mostLength?
  | repeated inner _ most _ => do
      return (← inner.mostLength?) * (← most)
  | seq first second => do
      return (← first.mostLength?) + (← second.mostLength?)
  | alt left right => do
      return max (← left.mostLength?) (← right.mostLength?)

/-- Copies of a pattern one after the other.  Where only the empty text is
matched, one copy is as good as many. -/
def times (inner : Pattern) (least : Nat) (most : Option Nat) (greedy : Bool) : Pattern :=
  let (least, most) :=
    if inner.mostLength? = some 0 then (min least 1, some (min (most.getD 1) 1))
    else (least, most)
  if least = 0 ∧ most = some 0 then empty
  else if least = 1 ∧ most = some 1 then inner
  else repeated inner least most greedy

/-- The parts of a sequence. -/
def parts : Pattern → List Pattern
  | seq first second => first :: second.parts
  | other => [other]

/-- The branches of a choice. -/
def branches : Pattern → List Pattern
  | alt left right => left :: right.branches
  | other => [other]

/-- Put a part in front of the parts of a sequence. -/
def prepend (part : Pattern) (rest : List Pattern) : List Pattern :=
  match part, rest with
  | empty, rest => rest
  | literal text, literal more :: rest => literal (text ++ more) :: rest
  | part, rest => part :: rest

/-- The sequence of some parts as they are. -/
def chain : List Pattern → Pattern
  | [] => empty
  | [only] => only
  | first :: rest => seq first (chain rest)

/-- The patterns of a list one after the other. -/
def ofList (patterns : List Pattern) : Pattern :=
  chain ((patterns.flatMap parts).foldr prepend [])

/-- The choice between some branches as they are. -/
def choice : List Pattern → Pattern
  | [] => one .none
  | [only] => only
  | first :: rest => alt first (choice rest)

/-- The class of a pattern that matches one character, written as one. -/
def class? : Pattern → Option CharClass
  | one kind => some kind
  | _ => none

/-- The character of a pattern that stands for one character. -/
def char? : Pattern → Option CharClass
  | literal [c] => some (.one c)
  | _ => none

/-- The parts that two lists of parts begin with. -/
def commonStart : List Pattern → List Pattern → List Pattern
  | first :: rest, other :: others =>
      if first = other then first :: commonStart rest others else []
  | _, _ => []

/-- The parts that all of some sequences begin with; there are none if one of
them is no sequence. -/
def sharedStart : List Pattern → List Pattern
  | [] => []
  | first :: rest =>
      let sequence (pattern : Pattern) : List Pattern :=
        match pattern with
        | seq first second => first :: second.parts
        | _ => []
      rest.foldl (fun shared branch => commonStart shared (sequence branch)) (sequence first)

/-- One of the patterns of a list.  Characters and classes become one class, and
what all branches begin with is taken out as often as the fuel allows. -/
def oneOfWithin (fuel : Nat) (patterns : List Pattern) : Pattern :=
  match patterns.flatMap branches with
  | [] => one .none
  | [only] => only
  | first :: rest =>
      let several := first :: rest
      match several.mapM char? <|> several.mapM class? with
      | some kinds => ofClass (.anyOf kinds)
      | none =>
          match fuel, sharedStart several with
          | fuel + 1, part :: more =>
              let shared := part :: more
              let left := several.map fun branch =>
                ofList (branch.parts.drop shared.length)
              ofList (shared ++ [oneOfWithin fuel left])
          | _, _ => choice several

/-- The number of nodes of a pattern. -/
def weight : Pattern → Nat
  | group _ inner => inner.weight + 1
  | repeated inner _ _ _ => inner.weight + 1
  | seq first second => first.weight + second.weight + 1
  | alt left right => left.weight + right.weight + 1
  | _ => 1

/-- One of the patterns of a list. -/
def oneOf (patterns : List Pattern) : Pattern :=
  oneOfWithin (patterns.foldl (fun total pattern => total + pattern.weight) 0) patterns

end Pattern

end Polystore
