import Polystore.Json.Basic
import Polystore.Text.Integer

/-!
# Reading JSON text

A strict reader: one value with blanks around it and nothing else.  Arrays and
objects nest at most 127 deep, strings hold no raw control characters, and
escaped surrogates come in pairs.  Of fields with the same name the last one
counts.

A number without fraction and exponent is an exact integer when it fits a
64-bit word; every other number is binary64.  Its digits are gathered into a
significand below `2 ^ 64`, and the digits that do not fit only move the
decimal point.
-/

namespace Polystore.Json

/-- The blanks that JSON allows between tokens. -/
def isSpace (c : Char) : Bool :=
  c == ' ' || c == '\n' || c == '\t' || c == '\r'

/-- The text without the blanks at its beginning. -/
def skip (text : List Char) : List Char :=
  text.dropWhile isSpace

/-- The value of a hexadecimal digit. -/
def hexValue? (c : Char) : Option Nat :=
  if c.isDigit then some (c.toNat - '0'.toNat)
  else if 'a' ≤ c ∧ c ≤ 'f' then some (c.toNat - 'a'.toNat + 10)
  else if 'A' ≤ c ∧ c ≤ 'F' then some (c.toNat - 'A'.toNat + 10)
  else none

/-- The value of four hexadecimal digits and the text after them. -/
def hexUnit? : List Char → Option (Nat × List Char)
  | a :: b :: c :: d :: rest => do
      let a ← hexValue? a
      let b ← hexValue? b
      let c ← hexValue? c
      let d ← hexValue? d
      pure (((a * 16 + b) * 16 + c) * 16 + d, rest)
  | _ => none

/-- The character of one or two UTF-16 units after `\u`. -/
def unicodeEscape? (text : List Char) : Option (Char × List Char) := do
  let (first, rest) ← hexUnit? text
  if 0xDC00 ≤ first ∧ first ≤ 0xDFFF then none
  else if 0xD800 ≤ first ∧ first ≤ 0xDBFF then
    match rest with
    | '\\' :: 'u' :: more => do
        let (second, rest) ← hexUnit? more
        if 0xDC00 ≤ second ∧ second ≤ 0xDFFF then
          pure (Char.ofNat (0x10000 + (first - 0xD800) * 1024 + (second - 0xDC00)), rest)
        else none
    | _ => none
  else pure (Char.ofNat first, rest)

/-- The character that a backslash and the text after it stand for. -/
def escaped? : List Char → Option (Char × List Char)
  | '"' :: rest => some ('"', rest)
  | '\\' :: rest => some ('\\', rest)
  | '/' :: rest => some ('/', rest)
  | 'b' :: rest => some ('\x08', rest)
  | 'f' :: rest => some ('\x0c', rest)
  | 'n' :: rest => some ('\n', rest)
  | 'r' :: rest => some ('\r', rest)
  | 't' :: rest => some ('\t', rest)
  | 'u' :: rest => unicodeEscape? rest
  | _ => none

/-- The characters of a string up to its closing quote, and the text after it.
The fuel bounds the number of characters. -/
def readQuoted : (fuel : Nat) → List Char → Option (List Char × List Char)
  | 0, _ => none
  | _ + 1, [] => none
  | fuel + 1, c :: rest =>
      if c = '"' then some ([], rest)
      else if c = '\\' then
        match escaped? rest with
        | some (character, rest) =>
            (readQuoted fuel rest).map fun (more, rest) => (character :: more, rest)
        | none => none
      else if c.toNat < 32 then none
      else (readQuoted fuel rest).map fun (more, rest) => (c :: more, rest)

/-- A string after its opening quote. -/
def readString (text : List Char) : Option (String × List Char) :=
  (readQuoted (text.length + 1) text).map fun (value, rest) => (String.ofList value, rest)

/-- The parts of a number as written. -/
structure NumberText where
  negative : Bool
  whole : List Char
  fraction : Option (List Char)
  exponent : Option (Bool × List Char)

/-- The digits at the beginning of a text, and the text after them. -/
def takeDigits (text : List Char) : List Char × List Char :=
  (text.takeWhile Char.isDigit, text.dropWhile Char.isDigit)

/-- A fraction, if the text begins with one. -/
def takeFraction (text : List Char) : Option (Option (List Char) × List Char) :=
  match text with
  | '.' :: rest =>
      let (digits, rest) := takeDigits rest
      if digits = [] then none else some (some digits, rest)
  | other => some (none, other)

/-- An exponent, if the text begins with one: whether it is negative, and its
digits. -/
def takeExponent (text : List Char) :
    Option (Option (Bool × List Char) × List Char) :=
  match text with
  | c :: rest =>
      if c = 'e' ∨ c = 'E' then
        let (negative, rest) := match rest with
          | '-' :: rest => (true, rest)
          | '+' :: rest => (false, rest)
          | other => (false, other)
        let (digits, rest) := takeDigits rest
        if digits = [] then none else some (some (negative, digits), rest)
      else some (none, c :: rest)
  | [] => some (none, [])

/-- A number and the text after it.  The whole part has at least one digit and
no leading zero. -/
def takeNumber (text : List Char) : Option (NumberText × List Char) := do
  let (negative, rest) := match text with
    | '-' :: rest => (true, rest)
    | other => (false, other)
  let (whole, rest) := takeDigits rest
  match whole with
  | [] => none
  | '0' :: _ :: _ => none
  | _ => do
      let (fraction, rest) ← takeFraction rest
      let (exponent, rest) ← takeExponent rest
      pure (⟨negative, whole, fraction, exponent⟩, rest)

/-- Gather digits into a significand as long as it stays below a bound; the
digits left over are returned with it. -/
def gather (bound : Nat) (significand : Nat) : List Char → Nat × List Char
  | [] => (significand, [])
  | c :: rest =>
      let next := 10 * significand + (c.toNat - '0'.toNat)
      if next < bound then gather bound next rest else (significand, c :: rest)

/-- The value of an exponent; `none` stands for one beyond 31 bits. -/
def exponentValue (digits : List Char) : Option Nat :=
  match gather 0x80000000 0 digits with
  | (value, []) => some value
  | (_, _ :: _) => none

namespace NumberText

/-- The number that the parts denote; `none` if it is too large. -/
def value? (written : NumberText) : Option Number :=
  let (significand, left) := gather Text.wordRange 0 written.whole
  match written.fraction, written.exponent, left with
  | none, none, [] =>
      if written.negative then
        if 0 < significand ∧ significand ≤ Text.signedRange then
          some (.integer (-(significand : Int)))
        else some (.real ⟨true, Double.roundRatio significand 1⟩)
      else some (.integer significand)
  | fraction, exponent, _ =>
      let digits := fraction.getD []
      let (significand, unread) := gather Text.wordRange significand digits
      let power : Int := (left.length : Int) - (digits.length - unread.length : Nat)
      match exponent with
      | none => (Double.ofDecimal? written.negative significand power).map .real
      | some (small, digits) =>
          match exponentValue digits with
          | some value =>
              let power := if small then power - value else power + value
              (Double.ofDecimal? written.negative significand power).map .real
          | none =>
              if significand ≠ 0 ∧ !small then none
              else some (.real ⟨written.negative, 0⟩)

end NumberText

/-- A number and the text after it. -/
def readNumber (text : List Char) : Option (Json × List Char) := do
  let (written, rest) ← takeNumber text
  let value ← written.value?
  pure (number value, rest)

/-- Arrays and objects may not nest this deep. -/
def nestingLimit : Nat := 128

/-- How a field that was read joins the fields read before. -/
abbrev Joining := String → Json → List (String × Json) → List (String × Json)

mutual

/-- A value and the text after it.  `depth` is one more than the number of
brackets that may still open; the fuel bounds the number of steps. -/
def readValue (joining : Joining) : (fuel depth : Nat) → List Char →
    Option (Json × List Char)
  | 0, _, _ => none
  | fuel + 1, depth, text =>
      match skip text with
      | 'n' :: 'u' :: 'l' :: 'l' :: rest => some (null, rest)
      | 't' :: 'r' :: 'u' :: 'e' :: rest => some (bool true, rest)
      | 'f' :: 'a' :: 'l' :: 's' :: 'e' :: rest => some (bool false, rest)
      | '"' :: rest => (readString rest).map fun (value, rest) => (string value, rest)
      | '[' :: rest =>
          if depth ≤ 1 then none else
            match skip rest with
            | ']' :: rest => some (array [], rest)
            | other =>
                (readItems joining fuel (depth - 1) other).map fun (items, rest) =>
                  (array items, rest)
      | '{' :: rest =>
          if depth ≤ 1 then none else
            match skip rest with
            | '}' :: rest => some (object [], rest)
            | other =>
                (readFields joining fuel (depth - 1) [] other).map fun (fields, rest) =>
                  (object fields, rest)
      | other => readNumber other

/-- One or more items and the closing bracket. -/
def readItems (joining : Joining) : (fuel depth : Nat) → List Char →
    Option (List Json × List Char)
  | 0, _, _ => none
  | fuel + 1, depth, text =>
      match readValue joining fuel depth text with
      | none => none
      | some (item, rest) =>
          match skip rest with
          | ']' :: rest => some ([item], rest)
          | ',' :: rest =>
              (readItems joining fuel depth rest).map fun (items, rest) => (item :: items, rest)
          | _ => none

/-- One or more fields and the closing brace, after the fields read so far. -/
def readFields (joining : Joining) : (fuel depth : Nat) → List (String × Json) →
    List Char → Option (List (String × Json) × List Char)
  | 0, _, _, _ => none
  | fuel + 1, depth, fields, text =>
      match skip text with
      | '"' :: rest =>
          match readString rest with
          | none => none
          | some (name, rest) =>
              match skip rest with
              | ':' :: rest =>
                  match readValue joining fuel depth rest with
                  | none => none
                  | some (value, rest) =>
                      let fields := joining name value fields
                      match skip rest with
                      | '}' :: rest => some (fields, rest)
                      | ',' :: rest => readFields joining fuel depth fields rest
                      | _ => none
              | _ => none
      | _ => none

end

/-- A value at the beginning of a text and the text after it. -/
def readFirst (joining : Joining) (text : List Char) : Option (Json × List Char) :=
  readValue joining (2 * text.length + 2) nestingLimit text

/-- The value that a text denotes.  Of two fields of one name the second
counts. -/
def read? (text : List Char) : Option Json :=
  match readFirst Keyed.insert text with
  | some (value, rest) => if skip rest = [] then some value else none
  | none => none

/-- A value at the beginning of a text and the text after it, with all fields of
an object in the order in which they are written. -/
def readLiteral (text : List Char) : Option (Json × List Char) :=
  readFirst (fun name value fields => fields ++ [(name, value)]) text

/-- The value that bytes denote: UTF-8 text of a value. -/
def readBytes? (bytes : List UInt8) : Option Json :=
  (String.fromUTF8? ⟨bytes.toArray⟩).bind fun text => read? text.toList

end Polystore.Json
