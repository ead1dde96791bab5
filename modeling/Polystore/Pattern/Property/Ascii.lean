import Polystore.Pattern.Class

/-!
# Classes of ASCII

The classes of characters of ASCII that have names.
-/

namespace Polystore.Pattern.Property

/-- The digits of ASCII. -/
def asciiDigits : CharClass := .range 0x30 0x39

/-- The blanks of ASCII. -/
def asciiBlanks : CharClass := ⟨[(9, 13), (0x20, 0x20)]⟩

/-- The characters that make up words in ASCII. -/
def asciiWord : CharClass := ⟨[(0x30, 0x39), (0x41, 0x5A), (0x5F, 0x5F), (0x61, 0x7A)]⟩

/-- The class of a name. -/
def ascii? (name : String) : Option CharClass :=
  match name with
  | "alnum" => some ⟨[(0x30, 0x39), (0x41, 0x5A), (0x61, 0x7A)]⟩
  | "alpha" => some ⟨[(0x41, 0x5A), (0x61, 0x7A)]⟩
  | "ascii" => some (.range 0 0x7F)
  | "blank" => some ⟨[(9, 9), (0x20, 0x20)]⟩
  | "cntrl" => some ⟨[(0, 0x1F), (0x7F, 0x7F)]⟩
  | "digit" => some asciiDigits
  | "graph" => some (.range 0x21 0x7E)
  | "lower" => some (.range 0x61 0x7A)
  | "print" => some (.range 0x20 0x7E)
  | "punct" => some ⟨[(0x21, 0x2F), (0x3A, 0x40), (0x5B, 0x60), (0x7B, 0x7E)]⟩
  | "space" => some asciiBlanks
  | "upper" => some (.range 0x41 0x5A)
  | "word" => some asciiWord
  | "xdigit" => some ⟨[(0x30, 0x39), (0x41, 0x46), (0x61, 0x66)]⟩
  | _ => none

end Polystore.Pattern.Property
