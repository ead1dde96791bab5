import Polystore.Pattern.Expression
import Polystore.Pattern.Flags
import Polystore.Pattern.Property.Name
import Polystore.Text.Cut

/-!
# Escapes

What a backslash introduces: a character by its code point or its letter, a
class or a property, an assertion, or a character that stands for itself.
-/

namespace Polystore.Pattern

/-- What is read by an escape. -/
inductive Escape where
  /-- A character; `byte` says that it was written as two hexadecimal digits. -/
  | literal (c : Char) (byte : Bool)
  /-- A class, and whether it is one of the negated forms. -/
  | kind (inner : CharClass) (negated : Bool) (property : Bool)
  | look (asked : Look)

/-- The characters that have a meaning of their own. -/
def isMeta (c : Char) : Bool :=
  "\\.+*?()|[]\x7b\x7d^$#&-~".toList.contains c

/-- The characters that a backslash leaves as they are: those with a meaning,
and the characters of ASCII that are no letters, digits or angle brackets. -/
def isPlainWhenEscaped (c : Char) : Bool :=
  isMeta c ||
    (decide (c.toNat < 128) && !c.isAlphanum && c ≠ '<' && c ≠ '>')

/-- Whether a code point is that of a character. -/
def isScalar (code : Nat) : Bool :=
  decide (code < 0xD800 ∨ (0xE000 ≤ code ∧ code < 0x110000))

/-- The value of a hexadecimal digit. -/
def hexDigit? (c : Char) : Option Nat :=
  if c.isDigit then some (c.toNat - '0'.toNat)
  else if 'a' ≤ c ∧ c ≤ 'f' then some (c.toNat - 'a'.toNat + 10)
  else if 'A' ≤ c ∧ c ≤ 'F' then some (c.toNat - 'A'.toNat + 10)
  else none

/-- A fixed number of hexadecimal digits. -/
def readHexDigits (flags : Flags) : (count : Nat) → (value : Nat) → List Char →
    Option (Nat × List Char)
  | 0, value, text => some (value, text)
  | count + 1, value, text =>
      match text with
      | [] => none
      | c :: rest => do
          let digit ← hexDigit? c
          readHexDigits flags count (16 * value + digit) (flags.skip rest)

/-- Hexadecimal digits up to a closing brace.  The fuel bounds their number;
`count` is the number of those read. -/
def readHexBraces (flags : Flags) : (fuel : Nat) → (count value : Nat) → List Char →
    Option (Nat × List Char)
  | 0, _, _, _ => none
  | fuel + 1, count, value, text =>
      match text with
      | [] => none
      | c :: rest =>
          if c = '\x7d' then
            if count = 0 then none else some (value, flags.skip rest)
          else do
            let digit ← hexDigit? c
            readHexBraces flags fuel (count + 1) (16 * value + digit) (flags.skip rest)

/-- A character by its code point: digits in braces, or so many digits. -/
def readCodePoint (flags : Flags) (digits : Nat) (text : List Char) :
    Option (Escape × List Char) := do
  let text := flags.skip text
  match text with
  | [] => none
  | c :: rest =>
      if c = '\x7b' then
        let (code, rest) ← readHexBraces flags (text.length + 1) 0 0 (flags.skip rest)
        if isScalar code then some (.literal (Char.ofNat code) false, rest) else none
      else
        let (code, rest) ← readHexDigits flags digits 0 text
        if isScalar code then
          some (.literal (Char.ofNat code) (digits == 2), rest)
        else none

/-- The text up to a closing brace. -/
def readBraced (flags : Flags) : (fuel : Nat) → List Char → Option (List Char × List Char)
  | 0, _ => none
  | fuel + 1, text =>
      match text with
      | [] => none
      | c :: rest =>
          if c = '\x7d' then some ([], rest)
          else (readBraced flags fuel (flags.skip rest)).map fun (more, rest) =>
            (c :: more, rest)

/-- The class of a braced property: a name, or a name and a value with `!=`,
`:` or `=` between them.  The second part tells whether `!=` was written. -/
def propertyOf (written : List Char) : Option (CharClass × Bool) :=
  match Text.cutMark ['!', '='] written with
  | some (name, value) => (Property.valued? name value).map (·, true)
  | none =>
      match Text.cutFirst ':' written with
      | some (name, value) => (Property.valued? name value).map (·, false)
      | none =>
          match Text.cutFirst '=' written with
          | some (name, value) => (Property.valued? name value).map (·, false)
          | none => (Property.named? written).map (·, false)

/-- A property: one letter, or a text in braces. -/
def readProperty (flags : Flags) (negated : Bool) (text : List Char) :
    Option (Escape × List Char) := do
  let text := flags.skip text
  match text with
  | [] => none
  | c :: rest =>
      if c = '\x7b' then
        let (written, rest) ← readBraced flags (text.length + 1) (flags.skip rest)
        let (inner, unequal) ← propertyOf written
        some (.kind inner (negated != unequal) true, rest)
      else if c = '\\' then none
      else
        let inner ← Property.named? [c]
        some (.kind inner negated true, flags.skip rest)

/-- The letters and hyphens at the beginning of a text, with blanks skipped
after each. -/
def readBoundaryName (flags : Flags) : (fuel : Nat) → List Char → List Char × List Char
  | 0, text => ([], text)
  | fuel + 1, text =>
      match text with
      | [] => ([], [])
      | c :: rest =>
          if c.isAlpha || c == '-' then
            let (more, rest) := readBoundaryName flags fuel (flags.skip rest)
            (c :: more, rest)
          else ([], c :: rest)

/-- The word boundary after `\b`, which a name in braces may narrow.  Braces
that do not begin with a letter or a hyphen are left for a count. -/
def readBoundary (flags : Flags) (text : List Char) : Option (Escape × List Char) :=
  match text with
  | c :: rest =>
      if c = '\x7b' then
        match flags.skip rest with
        | [] => none
        | first :: more =>
            if first.isAlpha || first == '-' then
              let (name, rest) := readBoundaryName flags (rest.length + 1) (first :: more)
              match rest with
              | close :: rest =>
                  if close ≠ '\x7d' then none
                  else match String.ofList name with
                    | "start" => some (.look (.wordStart flags.unicode), rest)
                    | "end" => some (.look (.wordEnd flags.unicode), rest)
                    | "start-half" => some (.look (.wordStartHalf flags.unicode), rest)
                    | "end-half" => some (.look (.wordEndHalf flags.unicode), rest)
                    | _ => none
              | [] => none
            else some (.look (.wordBoundary flags.unicode), text)
      else some (.look (.wordBoundary flags.unicode), text)
  | [] => some (.look (.wordBoundary flags.unicode), [])

/-- What follows a backslash. -/
def readEscape (flags : Flags) (text : List Char) : Option (Escape × List Char) :=
  let literal (c : Char) (rest : List Char) := some (Escape.literal c false, rest)
  let kind (unicode ascii : CharClass) (negated : Bool) (rest : List Char) :=
    some (Escape.kind (if flags.unicode then unicode else ascii) negated false, rest)
  match text with
  | [] => none
  | c :: rest =>
      match c with
      | 'x' => readCodePoint flags 2 rest
      | 'u' => readCodePoint flags 4 rest
      | 'U' => readCodePoint flags 8 rest
      | 'p' => readProperty flags false rest
      | 'P' => readProperty flags true rest
      | 'd' => kind Property.digit Property.asciiDigits false rest
      | 'D' => kind Property.digit Property.asciiDigits true rest
      | 's' => kind Property.blank Property.asciiBlanks false rest
      | 'S' => kind Property.blank Property.asciiBlanks true rest
      | 'w' => kind Property.word Property.asciiWord false rest
      | 'W' => kind Property.word Property.asciiWord true rest
      | 'a' => literal '\x07' rest
      | 'f' => literal '\x0c' rest
      | 't' => literal '\t' rest
      | 'n' => literal '\n' rest
      | 'r' => literal '\r' rest
      | 'v' => literal '\x0b' rest
      | 'A' => some (.look .textStart, rest)
      | 'z' => some (.look .textEnd, rest)
      | 'b' => readBoundary flags rest
      | 'B' => some (.look (.notWordBoundary flags.unicode), rest)
      | '<' => some (.look (.wordStart flags.unicode), rest)
      | '>' => some (.look (.wordEnd flags.unicode), rest)
      | other => if isPlainWhenEscaped other then literal other rest else none

/-- A class that may be read: without Unicode it holds characters of ASCII
only. -/
def Flags.allow? (flags : Flags) (kind : CharClass) : Option CharClass :=
  if flags.unicode || kind.isAscii then some kind else none

/-- The class of a part inside a class.  Without Unicode only characters of
ASCII are classes. -/
def Escape.toClass? (flags : Flags) : Escape → Option CharClass
  | .literal c _ => flags.allow? (.one c)
  | .kind inner negated property =>
      if property && !flags.unicode then none
      else
        let folded := if property then flags.fold inner else inner
        flags.allow? (if negated then flags.negate folded else folded)
  | .look _ => none

/-- The pattern of a character, which stands for its variants in case too if case
is ignored. -/
def Flags.toPattern (flags : Flags) (c : Char) : Pattern :=
  .ofClass (flags.fold (.one c))

/-- The pattern of an escape outside a class. -/
def Escape.toPattern? (flags : Flags) : Escape → Option Pattern
  | .literal c byte =>
      if !flags.unicode && byte && decide (c.toNat ≥ 128) then none
      else some (flags.toPattern c)
  | .kind inner negated property =>
      ((Escape.kind inner negated property).toClass? flags).map .ofClass
  | .look asked => some (.look asked)

end Polystore.Pattern
