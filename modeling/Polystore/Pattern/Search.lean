import Polystore.Pattern.Expression

/-!
# Searching a text

A text is searched for a pattern by keeping marks in the pattern: a mark stands
at each class that may have read the latest character.  Reading a character
moves the marks on, and a match is found when a mark gets out of the pattern.

The marks of a pattern take no more room than the pattern itself, so a text is
searched in time linear in its length.  For this the copies that a repetition
asks for are written out, but never more of them than the text has characters:
of more copies some would match the empty text, and one such copy is as good as
many.
-/

namespace Polystore.Pattern

/-- A pattern in which all copies are written out. -/
inductive Plain where
  | empty
  | look (asked : Look)
  | one (kind : CharClass)
  | seq (first second : Plain)
  | alt (left right : Plain)
  /-- Any number of copies. -/
  | star (inner : Plain)

namespace Plain

/-- So many copies of a pattern before another. -/
def copies (inner : Plain) : Nat → Plain → Plain
  | 0, rest => rest
  | count + 1, rest => seq inner (copies inner count rest)

/-- At most so many copies of a pattern. -/
def upTo (inner : Plain) : Nat → Plain
  | 0 => empty
  | count + 1 => alt empty (seq inner (upTo inner count))

/-- The characters of a text one after the other. -/
def ofText : List Char → Plain
  | [] => empty
  | [c] => one (.one c)
  | c :: rest => seq (one (.one c)) (ofText rest)

/-- A pattern with no repetition of more than `limit` copies. -/
def ofPattern (limit : Nat) : Pattern → Plain
  | .empty => empty
  | .look asked => look asked
  | .literal text => ofText text
  | .one kind => one kind
  | .group _ inner => ofPattern limit inner
  | .repeated inner least most _ =>
      let inner := ofPattern limit inner
      let least := min least limit
      copies inner least <|
        match most with
        | none => star inner
        | some most => upTo inner (min most limit - least)
  | .seq first second => seq (ofPattern limit first) (ofPattern limit second)
  | .alt left right => alt (ofPattern limit left) (ofPattern limit right)

/-- Whether the empty text is matched between two characters. -/
def matchesEmpty (before after : Option Char) : Plain → Bool
  | empty => true
  | look asked => asked.holds before after
  | one _ => false
  | seq first second => first.matchesEmpty before after && second.matchesEmpty before after
  | alt left right => left.matchesEmpty before after || right.matchesEmpty before after
  | star _ => true

end Plain

/-- A pattern with marks at the classes that may have read the latest
character. -/
inductive Marked where
  /-- A pattern without marks. -/
  | idle (inner : Plain)
  /-- A class with a mark. -/
  | here (kind : CharClass)
  | seq (first second : Marked)
  | alt (left right : Marked)
  | star (inner : Marked)

namespace Marked

/-- A sequence, which has no marks if its parts have none. -/
def sequence : Marked → Marked → Marked
  | idle first, idle second => idle (.seq first second)
  | first, second => seq first second

/-- A choice, which has no marks if its branches have none. -/
def choice : Marked → Marked → Marked
  | idle left, idle right => idle (.alt left right)
  | left, right => alt left right

/-- Any number of copies, which have no marks if the pattern has none. -/
def copies : Marked → Marked
  | idle inner => idle (.star inner)
  | inner => star inner

/-- Whether the empty text is matched between two characters. -/
def matchesEmpty (before after : Option Char) : Marked → Bool
  | idle inner => inner.matchesEmpty before after
  | here _ => false
  | seq first second => first.matchesEmpty before after && second.matchesEmpty before after
  | alt left right => left.matchesEmpty before after || right.matchesEmpty before after
  | star _ => true

/-- Whether a mark gets out of the pattern between two characters. -/
def leaves (before after : Option Char) : Marked → Bool
  | idle _ => false
  | here _ => true
  | seq first second =>
      second.leaves before after ||
        (first.leaves before after && second.matchesEmpty before after)
  | alt left right => left.leaves before after || right.leaves before after
  | star inner => inner.leaves before after

/-- The marks of a pattern that begins with a character. -/
def enter (before : Option Char) (c : Char) : Plain → Marked
  | .empty => idle .empty
  | .look asked => idle (.look asked)
  | .one kind => if kind.contains c.toNat then here kind else idle (.one kind)
  | .seq first second =>
      sequence (enter before c first)
        (if first.matchesEmpty before (some c) then enter before c second else idle second)
  | .alt left right => choice (enter before c left) (enter before c right)
  | .star inner => copies (enter before c inner)

/-- The marks after a character; `entered` tells whether the pattern may begin
with it. -/
def read (before : Option Char) (c : Char) : (entered : Bool) → Marked → Marked
  | entered, idle inner => if entered then enter before c inner else idle inner
  | entered, here kind =>
      if entered && kind.contains c.toNat then here kind else idle (.one kind)
  | entered, seq first second =>
      let passed := first.leaves before (some c) ||
        (entered && first.matchesEmpty before (some c))
      sequence (first.read before c entered) (second.read before c passed)
  | entered, alt left right =>
      choice (left.read before c entered) (right.read before c entered)
  | entered, star inner =>
      copies (inner.read before c (entered || inner.leaves before (some c)))

/-- Whether a mark gets out of the pattern at the present position or later; the
pattern may begin at each of these positions. -/
def findIn (before : Option Char) (marked : Marked) : List Char → Bool
  | [] => marked.leaves before none || marked.matchesEmpty before none
  | c :: text =>
      marked.leaves before (some c) || marked.matchesEmpty before (some c) ||
        (marked.read before c true).findIn (some c) text

end Marked

/-- Whether a pattern matches somewhere in a text. -/
def matchesIn (pattern : Pattern) (text : List Char) : Bool :=
  (Marked.idle (.ofPattern (text.length + 1) pattern)).findIn none text

end Polystore.Pattern
