import Polystore.Pattern.Property.Folding
import Polystore.Text.Blank

/-!
# Flags

The flags in force at a place of a written pattern decide how the text from
there on is read: whether case counts, what ends a line, whether classes are
those of Unicode and whether blanks are left out.
-/

namespace Polystore.Pattern

/-- The flags in force at a place of a pattern. -/
structure Flags where
  ignoreCase : Bool := false
  multiLine : Bool := false
  dotMatchesLine : Bool := false
  swapGreed : Bool := false
  unicode : Bool := true
  returnEndsLine : Bool := false
  /-- Blanks and comments are left out. -/
  ignoreBlanks : Bool := false
deriving DecidableEq, Repr

/-- Set one flag. -/
def Flags.set? (flags : Flags) (letter : Char) (value : Bool) : Option Flags :=
  match letter with
  | 'i' => some { flags with ignoreCase := value }
  | 'm' => some { flags with multiLine := value }
  | 's' => some { flags with dotMatchesLine := value }
  | 'U' => some { flags with swapGreed := value }
  | 'u' => some { flags with unicode := value }
  | 'R' => some { flags with returnEndsLine := value }
  | 'x' => some { flags with ignoreBlanks := value }
  | _ => none

/-- Skip blanks and comments; a comment runs from `#` to the end of the
line. -/
def skipBlanks : (inComment : Bool) → List Char → List Char
  | _, [] => []
  | true, c :: rest => skipBlanks (c ≠ '\n') rest
  | false, c :: rest =>
      if Text.isBlank c then skipBlanks false rest
      else if c = '#' then skipBlanks true rest
      else c :: rest

/-- Skip what the flags leave out. -/
def Flags.skip (flags : Flags) (text : List Char) : List Char :=
  if flags.ignoreBlanks then skipBlanks false text else text

/-- A class with the variants in case of its characters, if case is ignored. -/
def Flags.fold (flags : Flags) (inner : CharClass) : CharClass :=
  if flags.ignoreCase then
    if flags.unicode then Property.foldCase inner else inner.foldAscii
  else inner

/-- The characters outside a class; without Unicode these are byte values. -/
def Flags.negate (flags : Flags) (inner : CharClass) : CharClass :=
  if flags.unicode then inner.complement else .difference (.range 0 255) inner

end Polystore.Pattern
