import Polystore.Json.Basic
import Polystore.Double.Shortest

/-!
# Compact JSON text

The one text form that values are written in: no blanks, fields in the order in
which the object keeps them, the shortest text for binary64 numbers, and in
strings only the escapes that JSON requires.
-/

namespace Polystore

/-- The text of a number. -/
def Number.text : Number → List Char
  | .integer value => Text.ofInt value
  | .real value => value.text

namespace Json

/-- A lower-case hexadecimal digit. -/
def hexDigit (value : Nat) : Char :=
  if value < 10 then Char.ofNat ('0'.toNat + value)
  else Char.ofNat ('a'.toNat + (value - 10))

/-- A character inside a string: a quote, a backslash or a control character is
escaped, every other character stands for itself. -/
def escape (c : Char) : List Char :=
  if c = '"' then ['\\', '"']
  else if c = '\\' then ['\\', '\\']
  else if c = '\x08' then ['\\', 'b']
  else if c = '\x0c' then ['\\', 'f']
  else if c = '\n' then ['\\', 'n']
  else if c = '\r' then ['\\', 'r']
  else if c = '\t' then ['\\', 't']
  else if c.toNat < 32 then
    ['\\', 'u', '0', '0', hexDigit (c.toNat / 16), hexDigit (c.toNat % 16)]
  else [c]

/-- A quoted string. -/
def quote (value : List Char) : List Char :=
  '"' :: value.flatMap escape ++ ['"']

mutual

/-- The compact text of a value. -/
def text : Json → List Char
  | null => ['n', 'u', 'l', 'l']
  | bool true => ['t', 'r', 'u', 'e']
  | bool false => ['f', 'a', 'l', 's', 'e']
  | number value => value.text
  | string value => quote value.toList
  | array items => '[' :: itemsText items
  | object fields => '{' :: fieldsText fields

/-- The items of an array and the closing bracket. -/
def itemsText : List Json → List Char
  | [] => [']']
  | item :: rest => item.text ++ moreItemsText rest

/-- Further items, each after a comma, and the closing bracket. -/
def moreItemsText : List Json → List Char
  | [] => [']']
  | item :: rest => ',' :: item.text ++ moreItemsText rest

/-- The fields of an object and the closing brace. -/
def fieldsText : List (String × Json) → List Char
  | [] => ['}']
  | (name, value) :: rest =>
      quote name.toList ++ ':' :: value.text ++ moreFieldsText rest

/-- Further fields, each after a comma, and the closing brace. -/
def moreFieldsText : List (String × Json) → List Char
  | [] => ['}']
  | (name, value) :: rest =>
      ',' :: quote name.toList ++ ':' :: value.text ++ moreFieldsText rest

end

/-- The compact text of a value as a string. -/
def render (value : Json) : String :=
  String.ofList value.text

end Json

end Polystore
