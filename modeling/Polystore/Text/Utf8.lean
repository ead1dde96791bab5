/-!
# Ranges in UTF-8

A range of characters is encoded in UTF-8 as some products of ranges of bytes:
texts of a first byte in a first range, a second byte in a second one and so on.
`products` cuts a range at the surrogates, where the number of bytes changes and
where a following byte does not run over all its values, in ascending order.
-/

namespace Polystore.Text.Utf8

/-- A range of bytes, or of code points, by its first and last member. -/
abbrev Range := Nat × Nat

/-- The last code point of an encoding in so many bytes. -/
def lastOf (bytes : Nat) : Nat :=
  match bytes with
  | 1 => 0x7F
  | 2 => 0x7FF
  | 3 => 0xFFFF
  | _ => 0x10FFFF

/-- The bytes of a code point. -/
def encode (code : Nat) : List Nat :=
  if code ≤ lastOf 1 then [code]
  else if code ≤ lastOf 2 then [0xC0 + code / 0x40, 0x80 + code % 0x40]
  else if code ≤ lastOf 3 then
    [0xE0 + code / 0x1000, 0x80 + code / 0x40 % 0x40, 0x80 + code % 0x40]
  else
    [0xF0 + code / 0x40000, 0x80 + code / 0x1000 % 0x40, 0x80 + code / 0x40 % 0x40,
      0x80 + code % 0x40]

/-- The bytes of a text. -/
def encodeText (text : List Char) : List Nat :=
  text.flatMap fun c => encode c.toNat

/-- Where a range has to be cut so that its last `count` bytes run over all their
values or the bytes before them are the same: the range is kept up to there. -/
def cutAtBytes? (range : Range) (count : Nat) : Option Nat :=
  let block := Nat.pow 0x40 count
  if range.1 / block = range.2 / block then none
  else if range.1 % block ≠ 0 then some (range.1 / block * block + block - 1)
  else if range.2 % block ≠ block - 1 then some (range.2 / block * block - 1)
  else none

/-- Where a range has to be cut next: at a change in the number of bytes, then
where following bytes do not run over all their values. -/
def cut? (range : Range) : Option Nat :=
  let atLength := [1, 2, 3].find? fun bytes =>
    decide (range.1 ≤ lastOf bytes) && decide (lastOf bytes < range.2)
  match atLength with
  | some bytes => some (lastOf bytes)
  | none =>
      if range.2 ≤ lastOf 1 then none
      else [1, 2, 3].findSome? (cutAtBytes? range)

/-- The products of a range that holds no surrogates.  The fuel bounds the number
of cuts on the way to a product. -/
def productsWithin : (fuel : Nat) → Range → List (List Range)
  | 0, _ => []
  | fuel + 1, range =>
      match cut? range with
      | some last => productsWithin fuel (range.1, last) ++ productsWithin fuel (last + 1, range.2)
      | none => [(encode range.1).zip (encode range.2)]

/-- The products of a range of code points; surrogates are left out. -/
def products (range : Range) : List (List Range) :=
  let kept := if range.1 < 0xE000 ∧ 0xD7FF < range.2 then
      [(range.1, 0xD7FF), (0xE000, range.2)]
    else [range]
  (kept.filter fun range => range.1 ≤ range.2).flatMap (productsWithin 32)

end Polystore.Text.Utf8
