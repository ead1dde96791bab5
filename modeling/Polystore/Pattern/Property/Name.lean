import Polystore.Pattern.Property.Age
import Polystore.Pattern.Property.Boundary
import Polystore.Pattern.Property.Derived
import Polystore.Pattern.Property.Extension
import Polystore.Pattern.Property.Script

/-!
# Properties by name

A property is named by one word, which is a binary property, a general category
or a script, or by a property and one of its values.  Case, blanks, hyphens and
underscores of the names do not count.
-/

namespace Polystore.Pattern.Property

/-- The general categories that a group of categories holds. -/
def categoryGroup? (name : String) : Option (List String) :=
  match name with
  | "l" | "letter" => some letterCategories
  | "lc" | "casedletter" => some ["lu", "ll", "lt"]
  | "m" | "mark" | "combiningmark" => some ["mn", "mc", "me"]
  | "n" | "number" => some ["nd", "nl", "no"]
  | "p" | "punctuation" | "punct" => some ["pc", "pd", "ps", "pe", "pi", "pf", "po"]
  | "s" | "symbol" => some ["sm", "sc", "sk", "so"]
  | "z" | "separator" => some ["zs", "zl", "zp"]
  | _ => none

/-- The code points that have been assigned to characters. -/
def assigned (_ : Unit) : CharClass :=
  anyNamed categoryListings (categoryListings.flatMap (·.names.take 1))

/-- The code points that may be characters and have not been assigned; those of
surrogates are none of them. -/
def unassigned (_ : Unit) : CharClass :=
  (CharClass.union (assigned ()) (.range 0xD800 0xDFFF)).complement

/-- A general category or a group of them by name. -/
def category? (name : String) : Option CharClass :=
  match name with
  | "any" => some .every
  | "assigned" => some (unassigned ()).complement
  | "ascii" => some (.range 0 0x7F)
  | "cn" | "unassigned" => some (unassigned ())
  | "c" | "other" =>
      some (.union (unassigned ()) (anyNamed categoryListings ["cc", "cf", "co"]))
  | _ =>
      match categoryGroup? name with
      | some names => some (anyNamed categoryListings names)
      | none => find? categoryListings name

/-- The characters that are used in a script, by its name.  Those that are common
to all scripts or take the script of what stands before them are no longer so
once they are known to be used in certain scripts. -/
def scriptExtension? (name : String) : Option CharClass := do
  let listing ← scriptListings.find? fun listing => listing.names.contains name
  let own := ofRows listing.rows
  if listing.names.contains "common" || listing.names.contains "inherited" then
    return own.difference (.anyOf (extensionListings.map fun listing => ofRows listing.rows))
  else
    match find? extensionListings name with
    | some others => return own.union others
    | none => return own

/-- The characters of a version and of all before it, by the version's name. -/
def age? (name : String) : Option CharClass := do
  let position ← ageListings.findIdx? fun listing => listing.names.contains name
  return .anyOf ((ageListings.take (position + 1)).map fun listing => ofRows listing.rows)

/-- A property name in the form of the listings: without a leading `is`, in
lower case, without blanks, hyphens, underscores and characters beyond
ASCII.  In `isc`, which is a property of its own, the `is` stays. -/
def looseName (name : List Char) : String :=
  let (marked, rest) := match name with
    | i :: s :: rest =>
        if (i = 'i' ∨ i = 'I') ∧ (s = 's' ∨ s = 'S') then (true, rest)
        else (false, i :: s :: rest)
    | other => (false, other)
  let kept := rest.filter fun c =>
    c ≠ ' ' && c ≠ '_' && c ≠ '-' && decide (c.toNat < 128)
  let lowered := kept.map Char.toLower
  if marked && lowered = ['c'] then "isc" else String.ofList lowered

/-- The class that a property name without a value stands for: a binary
property, a general category or a script, in this order.  Three names are left
to the categories although properties have them too. -/
def named? (written : List Char) : Option CharClass :=
  let name := looseName written
  let own := if name = "cf" ∨ name = "sc" ∨ name = "lc" then none else binary? name
  own <|> category? name <|> find? scriptListings name

/-- The class that a property name and a value stand for. -/
def valued? (writtenName writtenValue : List Char) : Option CharClass :=
  let value := looseName writtenValue
  match looseName writtenName with
  | "gc" | "generalcategory" => category? value
  | "sc" | "script" => find? scriptListings value
  | "scx" | "scriptextensions" => scriptExtension? value
  | "age" => age? value
  | "gcb" | "graphemeclusterbreak" => find? graphemeListings value
  | "wb" | "wordbreak" => find? wordListings value
  | "sb" | "sentencebreak" => find? sentenceListings value
  | _ => none

/-- The characters that make up words. -/
def word : CharClass := wordRecipe.toClass

/-- The decimal digits. -/
def digit : CharClass := anyNamed categoryListings ["nd"]

/-- The blanks. -/
def blank : CharClass := anyNamed binaryListings ["whitespace"]

end Polystore.Pattern.Property
