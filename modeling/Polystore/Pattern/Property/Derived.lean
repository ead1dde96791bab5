import Polystore.Pattern.Property.Binary
import Polystore.Pattern.Property.Category

/-!
# Derived properties

Properties that follow from the general category and from the listed binary
properties of a character.
-/

namespace Polystore.Pattern.Property

/-- What the characters of a derived property are made of. -/
structure Recipe where
  /-- The general categories that belong to the property. -/
  categories : List String := []
  /-- The binary properties that belong to it. -/
  listed : List String := []
  /-- Further characters that belong to it. -/
  more : List (Nat × Nat) := []
  /-- The binary properties that do not belong to it. -/
  without : List String := []
  /-- Further characters that do not belong to it. -/
  less : List (Nat × Nat) := []

/-- The characters of a recipe. -/
def Recipe.toClass (recipe : Recipe) : CharClass :=
  let kept := CharClass.anyOf
    [anyNamed categoryListings recipe.categories, anyNamed binaryListings recipe.listed,
      .ofRanges recipe.more]
  kept.difference (.union (anyNamed binaryListings recipe.without) (.ofRanges recipe.less))

/-- The two-letter categories of letters. -/
def letterCategories : List String := ["lu", "ll", "lt", "lm", "lo"]

/-- The characters that no identifier starts with once texts are brought into a
compatible form. -/
def incompatibleStarts : List (Nat × Nat) :=
  [(0x37A, 0x37A), (0xE33, 0xE33), (0xEB3, 0xEB3), (0x309B, 0x309C), (0xFC5E, 0xFC63),
    (0xFDFA, 0xFDFB), (0xFE70, 0xFE70), (0xFE72, 0xFE72), (0xFE74, 0xFE74),
    (0xFE76, 0xFE76), (0xFE78, 0xFE78), (0xFE7A, 0xFE7A), (0xFE7C, 0xFE7C),
    (0xFE7E, 0xFE7E), (0xFF9E, 0xFF9F)]

/-- The characters that no identifier goes on with once texts are brought into a
compatible form. -/
def incompatibleParts : List (Nat × Nat) :=
  incompatibleStarts.filter fun range =>
    range.1 ≠ 0xE33 && range.1 ≠ 0xEB3 && range.1 ≠ 0xFF9E

/-- The recipe of the property of the first characters of identifiers. -/
def identifierStart : Recipe :=
  { categories := "nl" :: letterCategories
    listed := ["otheridstart"]
    without := ["patternsyntax", "patternwhitespace"] }

/-- The recipe of the property of the characters of identifiers. -/
def identifierPart : Recipe :=
  { identifierStart with
    categories := ["mn", "mc", "nd", "pc"] ++ identifierStart.categories
    listed := ["otheridcontinue", "otheridstart"] }

/-- The derived properties by name, with their abbreviations. -/
def recipe? (name : String) : Option Recipe :=
  match name with
  | "alphabetic" | "alpha" =>
      some { categories := "nl" :: letterCategories
             listed := ["otheralphabetic", "otherlowercase", "otheruppercase"] }
  | "lowercase" | "lower" => some { categories := ["ll"], listed := ["otherlowercase"] }
  | "uppercase" | "upper" => some { categories := ["lu"], listed := ["otheruppercase"] }
  | "cased" =>
      some { categories := ["lu", "ll", "lt"], listed := ["otherlowercase", "otheruppercase"] }
  | "caseignorable" | "ci" =>
      some { categories := ["mn", "me", "cf", "lm", "sk"]
             more := [(0x27, 0x27), (0x2E, 0x2E), (0x3A, 0x3A), (0xB7, 0xB7), (0x387, 0x387),
               (0x55F, 0x55F), (0x5F4, 0x5F4), (0x2018, 0x2019), (0x2024, 0x2024),
               (0x2027, 0x2027), (0xFE13, 0xFE13), (0xFE52, 0xFE52), (0xFE55, 0xFE55),
               (0xFF07, 0xFF07), (0xFF0E, 0xFF0E), (0xFF1A, 0xFF1A)] }
  | "changeswhencasemapped" | "cwcm" =>
      some { listed := ["changeswhenlowercased", "changeswhenuppercased",
               "changeswhentitlecased"] }
  | "defaultignorablecodepoint" | "di" =>
      some { categories := ["cf"]
             listed := ["otherdefaultignorablecodepoint", "variationselector"]
             without := ["whitespace", "prependedconcatenationmark"]
             less := [(0xFFF9, 0xFFFB), (0x13430, 0x13440)] }
  | "graphemebase" | "grbase" =>
      some { categories := ["lu", "ll", "lt", "lm", "lo", "mc", "nd", "nl", "no", "pc", "pd",
               "ps", "pe", "pi", "pf", "po", "sm", "sc", "sk", "so", "zs"]
             without := ["othergraphemeextend"] }
  | "graphemeextend" | "grext" =>
      some { categories := ["me", "mn"], listed := ["othergraphemeextend"] }
  | "idcontinue" | "idc" => some identifierPart
  | "idstart" | "ids" => some identifierStart
  | "xidcontinue" | "xidc" => some { identifierPart with less := incompatibleParts }
  | "xidstart" | "xids" => some { identifierStart with less := incompatibleStarts }
  | "math" => some { categories := ["sm"], listed := ["othermath"] }
  | _ => none

/-- The characters that make up words. -/
def wordRecipe : Recipe :=
  { categories := ["nl", "mn", "mc", "me", "nd", "pc"] ++ letterCategories
    listed := ["otheralphabetic", "otherlowercase", "otheruppercase", "joincontrol"] }

/-- Alphabetic characters that names may hold although they are younger than the
other tables. -/
def youngLetters : List String :=
  ["1ov 0 r0 0 3j 0 ult 1 2 0 1 0 s 0 j7y p 12j 2 1e 1 2g4 7 g8 17 fyc o 2 o 7y 4 4qp 7 zt l",
   "2p 36 hjh u 1 l 8 1 154q 5 4ma b gsi 3bd"]

/-- Numbers that names may hold although they are younger than the other tables. -/
def youngNumbers : List String := ["1kgw 9 g7e 2"]

/-- The letters of names. -/
def nameStart : CharClass :=
  .union (((recipe? "alphabetic").map Recipe.toClass).getD .none) (ofRows youngLetters)

/-- The numbers of names. -/
def nameNumber : CharClass :=
  .union (anyNamed categoryListings ["nd", "nl", "no"]) (ofRows youngNumbers)

/-- A binary property by name. -/
def binary? (name : String) : Option CharClass :=
  match recipe? name with
  | some recipe => some recipe.toClass
  | none => find? binaryListings name

end Polystore.Pattern.Property
