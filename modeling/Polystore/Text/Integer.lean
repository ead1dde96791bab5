/-!
# Integers as decimal text

Replica counts, array positions and counters are decimal digits with an
optional sign, and are refused when they do not fit their range.
-/

namespace Polystore.Text

/-- The value of a decimal digit. -/
def digit? (c : Char) : Option Nat :=
  if c.isDigit then some (c.toNat - '0'.toNat) else none

/-- The number that a list of digits denotes after those read so far. -/
def readDigits (value : Nat) : List Char → Option Nat
  | [] => some value
  | c :: rest => do readDigits (10 * value + (← digit? c)) rest

/-- One or more digits. -/
def readNatural? : List Char → Option Nat
  | [] => none
  | c :: rest => readDigits 0 (c :: rest)

/-- The number of values of an unsigned 64-bit word, `2 ^ 64`. -/
def wordRange : Nat := 0x10000000000000000

/-- The number of values of a signed 64-bit word that are not negative,
`2 ^ 63`. -/
def signedRange : Nat := 0x8000000000000000

/-- A word: digits, perhaps after a plus sign, below `2 ^ 64`. -/
def readWord? (text : List Char) : Option Nat :=
  let digits := match text with
    | '+' :: rest => rest
    | other => other
  match readNatural? digits with
  | some value => if value < wordRange then some value else none
  | none => none

/-- Whether an integer fits a signed 64-bit word. -/
def fitsSigned (value : Int) : Bool :=
  decide (-signedRange ≤ value ∧ value < signedRange)

/-- A signed word: digits, perhaps after a sign, from `-2 ^ 63` to
`2 ^ 63 - 1`. -/
def readSigned? (text : List Char) : Option Int :=
  let value? : Option Int := match text with
    | '-' :: rest => (readNatural? rest).map fun value => -(value : Int)
    | '+' :: rest => (readNatural? rest).map Int.ofNat
    | other => (readNatural? other).map Int.ofNat
  match value? with
  | some value => if fitsSigned value then some value else none
  | none => none

/-- The character of a decimal digit. -/
def digitChar (value : Nat) : Char :=
  Char.ofNat ('0'.toNat + value % 10)

/-- The decimal digits of a natural number, without leading zeros. -/
def ofNat (value : Nat) : List Char :=
  if value < 10 then [digitChar value]
  else ofNat (value / 10) ++ [digitChar value]

/-- The text of an integer. -/
def ofInt (value : Int) : List Char :=
  if value < 0 then '-' :: ofNat value.natAbs else ofNat value.natAbs

theorem digit?_digitChar (value : Nat) : digit? (digitChar value) = some (value % 10) := by
  have h : value % 10 < 10 := Nat.mod_lt _ (by decide)
  unfold digitChar
  generalize value % 10 = last at h
  have : last = 0 ∨ last = 1 ∨ last = 2 ∨ last = 3 ∨ last = 4 ∨ last = 5 ∨
      last = 6 ∨ last = 7 ∨ last = 8 ∨ last = 9 := by omega
  rcases this with rfl | rfl | rfl | rfl | rfl | rfl | rfl | rfl | rfl | rfl <;> rfl

theorem readDigits_append (value : Nat) (left right : List Char) :
    readDigits value (left ++ right) =
      (readDigits value left).bind fun read => readDigits read right := by
  induction left generalizing value with
  | nil => simp [readDigits]
  | cons c rest ih =>
      simp only [List.cons_append, readDigits]
      cases digit? c with
      | none => rfl
      | some digit => exact ih _

theorem ofNat_ne_nil (value : Nat) : ofNat value ≠ [] := by
  rw [ofNat]
  split <;> simp

/-- Digits read back as the number they were written for. -/
theorem readNatural?_ofNat (value : Nat) : readNatural? (ofNat value) = some value := by
  have hread : readDigits 0 (ofNat value) = some value := by
    induction value using Nat.strongRecOn with
    | ind value ih =>
        rw [ofNat]
        split
        · next h => simp [readDigits, digit?_digitChar, Nat.mod_eq_of_lt h]
        · next h =>
          rw [readDigits_append, ih (value / 10) (by omega)]
          simp only [Option.bind_some, readDigits, digit?_digitChar]
          simp only [Option.bind_eq_bind, Option.bind_some, Option.some.injEq]
          omega
  have hne := ofNat_ne_nil value
  revert hread hne
  cases ofNat value with
  | nil => simp
  | cons c rest => intro hread _; exact hread

end Polystore.Text
