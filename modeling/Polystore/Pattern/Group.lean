import Polystore.Pattern.Flags
import Polystore.Pattern.Property.Derived
import Polystore.Text.Cut
import Polystore.Text.Integer

/-!
# Counts and the beginnings of groups

A count in braces says how often what stands before it is repeated.  A group may
begin with flags or with a name, and no name is given twice.
-/

namespace Polystore.Pattern

/-- A count: digits with blanks around them, below `2 ^ 32`. -/
def readCount (flags : Flags) (text : List Char) : Option (Nat × List Char) :=
  let text := text.dropWhile Text.isBlank
  let step (state : List Char × List Char) : List Char × List Char :=
    match state.2 with
    | c :: rest => if c.isDigit then (c :: state.1, flags.skip rest) else state
    | [] => state
  let (digits, rest) := (List.range text.length).foldl (fun state _ => step state) ([], text)
  let rest := flags.skip (rest.dropWhile Text.isBlank)
  match Text.readNatural? digits.reverse with
  | some count => if count < 0x100000000 then some (count, rest) else none
  | none => none

/-- The bounds between braces, after the opening one. -/
def readBounds (flags : Flags) (text : List Char) :
    Option (Nat × Option Nat × List Char) := do
  let text := flags.skip text
  let (least, rest) ← readCount flags text
  match rest with
  | ',' :: rest =>
      match flags.skip rest with
      | '\x7d' :: rest => some (least, none, rest)
      | other =>
          let (most, rest) ← readCount flags other
          match rest with
          | '\x7d' :: rest => if least ≤ most then some (least, some most, rest) else none
          | _ => none
  | '\x7d' :: rest => some (least, some least, rest)
  | _ => none

/-- The capturing groups seen so far: how many, and the names of those that have
one. -/
structure Captures where
  count : Nat := 0
  names : List (List Char) := []

/-- How a group begins. -/
inductive Opening where
  /-- Flags for what follows in the group around. -/
  | directive (flags : Flags)
  /-- A group with flags of its own, and its number if it is a capturing one. -/
  | group (flags : Flags) (number : Option Nat)

/-- Flags up to `:` or `)`, after the letters and hyphens seen so far; no flag
and no hyphen comes twice, and no hyphen comes last.  The answer tells whether
the flags end the group, and whether there were any. -/
def readFlags (flags : Flags) (seen : List Char) : List Char →
    Option (Flags × Bool × Bool × List Char)
  | [] => none
  | c :: rest =>
      if c = ':' ∨ c = ')' then
        if seen.head? = some '-' then none
        else some (flags, c == ')', seen ≠ [], rest)
      else if seen.contains c then none
      else if c = '-' then readFlags flags ('-' :: seen) rest
      else
        match flags.set? c (!seen.contains '-') with
        | some flags => readFlags flags (c :: seen) rest
        | none => none

/-- A character that may stand in a capture name. -/
def isNameChar (first : Bool) (c : Char) : Bool :=
  c == '_' || Property.nameStart.contains c.toNat ||
    (!first && (c == '.' || c == '[' || c == ']' || Property.nameNumber.contains c.toNat))

/-- A capture name up to `>`. -/
def readCaptureName (names : List (List Char)) (text : List Char) :
    Option (List Char × List Char) := do
  let (name, rest) ← Text.cutFirst '>' text
  match name with
  | [] => none
  | first :: more =>
      if isNameChar true first && more.all (isNameChar false) && !names.contains name then
        some (name, rest)
      else none

/-- The beginning of a group after its parenthesis, with the capturing groups
that have been seen then. -/
def readOpening (flags : Flags) (captures : Captures) (text : List Char) :
    Option (Opening × Captures × List Char) :=
  let number := captures.count + 1
  let capturing (names : List (List Char)) (rest : List Char) :=
    some (Opening.group flags (some number), ⟨number, names⟩, rest)
  let named (text : List Char) := do
    let (name, rest) ← readCaptureName captures.names text
    capturing (name :: captures.names) rest
  match flags.skip text with
  | '?' :: '=' :: _ => none
  | '?' :: '!' :: _ => none
  | '?' :: '<' :: '=' :: _ => none
  | '?' :: '<' :: '!' :: _ => none
  | '?' :: 'P' :: '<' :: rest => named rest
  | '?' :: '<' :: rest => named rest
  | '?' :: rest => do
      let (flags, closed, any, rest) ← readFlags flags [] rest
      if closed then
        if any then some (.directive flags, captures, rest) else none
      else some (.group flags none, captures, rest)
  | other => capturing captures.names other

end Polystore.Pattern
