import Polystore.Json.Reader

/-!
# Passing over JSON text

A value that is not wanted is passed over without being made.  It has to be
written like a value, but nothing is asked of what it stands for: numbers may be
of any size, arrays and objects nest to any depth, and escaped surrogates stand
alone.
-/

namespace Polystore.Json

/-- The text after a string, whose opening quote has been read. -/
def skipQuoted : List Char → Option (List Char)
  | [] => none
  | '"' :: rest => some rest
  | '\\' :: 'u' :: a :: b :: c :: d :: rest =>
      if [a, b, c, d].all fun digit => (hexValue? digit).isSome then skipQuoted rest else none
  | '\\' :: c :: rest =>
      if "\"\\/bfnrt".toList.contains c then skipQuoted rest else none
  | c :: rest => if c.toNat < 32 ∨ c = '\\' then none else skipQuoted rest

/-- What encloses a value. -/
inductive Enclosure where
  | items
  | fields
deriving DecidableEq, Repr

/-- The bracket that closes an enclosure. -/
def Enclosure.closing : Enclosure → Char
  | items => ']'
  | fields => '}'

/-- The text after the name of a field and its colon. -/
def skipName (text : List Char) : Option (List Char) :=
  match skip text with
  | '"' :: rest =>
      match (skipQuoted rest).map skip with
      | some (':' :: rest) => some rest
      | _ => none
  | _ => none

/-- The text where the next value of an enclosure begins. -/
def Enclosure.skipToValue (enclosure : Enclosure) (text : List Char) : Option (List Char) :=
  match enclosure with
  | items => some text
  | fields => skipName text

/-- The text after an atom: a word, a string or a number. -/
def skipAtom : List Char → Option (List Char)
  | 'n' :: 'u' :: 'l' :: 'l' :: rest => some rest
  | 't' :: 'r' :: 'u' :: 'e' :: rest => some rest
  | 'f' :: 'a' :: 'l' :: 's' :: 'e' :: rest => some rest
  | '"' :: rest => skipQuoted rest
  | other => (takeNumber other).map (·.2)

/-- The text after a value and after what encloses it, the innermost enclosure
first; `ended` tells whether the value has been read already.  The fuel bounds
the number of steps. -/
def skipOut : (fuel : Nat) → List Enclosure → (ended : Bool) → List Char → Option (List Char)
  | 0, _, _, _ => none
  | _ + 1, [], true, text => some text
  | fuel + 1, enclosure :: outer, true, text =>
      match skip text with
      | ',' :: rest =>
          match enclosure.skipToValue rest with
          | some rest => skipOut fuel (enclosure :: outer) false rest
          | none => none
      | c :: rest => if c = enclosure.closing then skipOut fuel outer true rest else none
      | [] => none
  | fuel + 1, outer, false, text =>
      let opened (enclosure : Enclosure) (rest : List Char) :=
        match skip rest with
        | c :: more =>
            if c = enclosure.closing then skipOut fuel outer true more
            else
              match enclosure.skipToValue rest with
              | some rest => skipOut fuel (enclosure :: outer) false rest
              | none => none
        | [] => none
      match skip text with
      | '[' :: rest => opened .items rest
      | '{' :: rest => opened .fields rest
      | other =>
          match skipAtom other with
          | some rest => skipOut fuel outer true rest
          | none => none

/-- The text after a value. -/
def skipValue? (text : List Char) : Option (List Char) :=
  skipOut (2 * text.length + 2) [] false text

end Polystore.Json
