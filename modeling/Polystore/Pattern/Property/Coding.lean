import Polystore.Pattern.Class

/-!
# Coding of character tables

A set of characters is written as rows of numbers in base 36 with blanks between
them: alternately how many code points are left out and how many, less one,
follow each other in the set.
-/

namespace Polystore.Pattern.Property

/-- A set of characters with its names; names are in lower case and hold no
blanks, hyphens or underscores. -/
structure Listing where
  names : List String
  rows : List String

/-- The value of a digit in base 36. -/
def digitValue (c : Char) : Nat :=
  if c.isDigit then c.toNat - '0'.toNat else c.toNat - 'a'.toNat + 10

/-- The numbers of a text, which stand with one `separator` between them. -/
def numbers (separator : Char) (text : List Char) : List Nat :=
  let (done, last) := text.foldl
    (fun (state : List Nat × Nat) c =>
      if c = separator then (state.2 :: state.1, 0)
      else (state.1, 36 * state.2 + digitValue c))
    ([], 0)
  (last :: done).reverse

/-- The ranges that alternating counts stand for, from a position on. -/
def rangesFrom (position : Nat) : List Nat → List (Nat × Nat)
  | skipped :: length :: rest =>
      let first := position + skipped
      (first, first + length) :: rangesFrom (first + length + 1) rest
  | _ => []

/-- The class of the characters that some rows list. -/
def ofRows (rows : List String) : CharClass :=
  ⟨rangesFrom 0 (rows.flatMap fun row => numbers ' ' row.toList)⟩

/-- The class of a name in some listings. -/
def find? (listings : List Listing) (name : String) : Option CharClass :=
  (listings.find? fun listing => listing.names.contains name).map fun listing =>
    ofRows listing.rows

/-- The union of the classes of some names; a name that is not listed adds
nothing. -/
def anyNamed (listings : List Listing) (names : List String) : CharClass :=
  .anyOf (names.filterMap (find? listings))

end Polystore.Pattern.Property
