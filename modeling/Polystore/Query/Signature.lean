import Polystore.Query.Basic
import Polystore.Crc32

/-!
# Signatures

A signature is the text that stands for the shape of a query: the collection,
a token `[field/operator/operand]` for every leaf, groups in parentheses, and a
token `[field/asc]` or `[field/desc]` for every sort field.  Paging takes no
part, so all pages of a query have one signature.

A text of more than 256 bytes is replaced by a digest of it.
-/

namespace Polystore

namespace Query

/-- Texts of more bytes are digested. -/
def signatureLimit : Nat := 256

/-- The token of a leaf. -/
def leafToken (leaf : Leaf) : List Char :=
  '[' :: leaf.field.toList ++ '/' :: leaf.operator.text.toList ++
    '/' :: leaf.operand.text ++ [']']

/-- What opens a group. -/
def groupMark : Connective → List Char
  | .all => ['(', 'a', 'n', 'd', ':']
  | .any => ['(', 'o', 'r', ':']

mutual

/-- The tokens of a rule. -/
def ruleTokens : Rule → List Char
  | .leaf leaf => leafToken leaf
  | .group connective rules => groupMark connective ++ rulesTokens rules ++ [')']

/-- The tokens of some rules. -/
def rulesTokens : List Rule → List Char
  | [] => []
  | rule :: rest => ruleTokens rule ++ rulesTokens rest

end

/-- The tokens of a condition.  The conjunction at the root is implicit, so
that adding a rule only adds tokens at the end. -/
def conditionTokens (condition : Condition) : List Char :=
  match condition.connective with
  | .all => rulesTokens condition.rules
  | .any => ruleTokens condition.toRule

/-- The token of a sort field. -/
def sortToken (sort : SortField) : List Char :=
  '[' :: sort.field.toList ++
    (if sort.ascending then ['/', 'a', 's', 'c', ']'] else ['/', 'd', 'e', 's', 'c', ']'])

/-- The text that stands for the shape of a query. -/
def tokenText (query : Query) : List Char :=
  query.collection.toList ++ conditionTokens query.condition ++
    query.sorts.flatMap sortToken

/-- So many hexadecimal digits of a number, from the lowest. -/
def hexDigits : (count : Nat) → Nat → List Char
  | 0, _ => []
  | count + 1, value => hexDigits count (value / 16) ++ [Json.hexDigit (value % 16)]

/-- A digest of fixed length: `#`, two checks from different initial values, and
the low sixteen bits of the length. -/
def digest (bytes : List UInt8) : List Char :=
  '#' :: hexDigits 8 (Crc32.checksum bytes).toNat ++
    hexDigits 8 (Crc32.continued 0x9E3779B9 bytes).toNat ++
    hexDigits 4 (bytes.length % 0x10000)

/-- The signature of a query. -/
def signature (query : Query) : String :=
  let written := String.ofList query.tokenText
  let bytes := written.toUTF8.toList
  if bytes.length > signatureLimit then String.ofList (digest bytes) else written

end Query

end Polystore
