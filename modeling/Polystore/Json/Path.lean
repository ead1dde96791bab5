import Polystore.Json.Basic
import Polystore.Text.Cut
import Polystore.Text.Integer

/-!
# Dotted paths

A path such as `address.city` names a value inside a document.  A part names a
field of an object, or a position of an array if it is the text of a word.
-/

namespace Polystore.Json

/-- The value that one part of a path names. -/
def step? (value : Json) (part : List Char) : Option Json :=
  match value with
  | object fields => Keyed.get? fields (String.ofList part)
  | array items => (Text.readWord? part).bind fun position => items[position]?
  | _ => none

/-- The value that the parts of a path name one after the other. -/
def follow? (value : Json) : List (List Char) → Option Json
  | [] => some value
  | part :: rest => (step? value part).bind fun next => follow? next rest

/-- The value that a dotted path names. -/
def lookup? (value : Json) (path : String) : Option Json :=
  follow? value (Text.pieces '.' path.toList)

end Polystore.Json
