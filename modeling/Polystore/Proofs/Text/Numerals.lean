import Polystore.Proofs.Double.Text
import Polystore.Proofs.Text.Cuts

/-!
# Numerals

The decimal text of a number that fits its word is read as that number, and trimming takes
nothing from it.  A signed word is read from all texts of digits, perhaps after a sign, whose
integer fits, and from no others.
-/

namespace Polystore.Text

theorem isBlank_of_isDigit {c : Char} (digit : c.isDigit = true) : isBlank c = false := by
  have range : 48 ≤ c.toNat ∧ c.toNat ≤ 57 := by
    rw [Char.isDigit, Bool.and_eq_true, decide_eq_true_iff, decide_eq_true_iff] at digit
    exact digit
  simp only [isBlank, Bool.or_eq_false_iff, Bool.and_eq_false_iff, decide_eq_false_iff_not,
    beq_eq_false_iff_ne]
  omega

theorem isBlank_of_isNumeral {c : Char} (numeral : isNumeral c = true) : isBlank c = false := by
  rw [isNumeral, Bool.or_eq_true, beq_iff_eq] at numeral
  rcases numeral with rfl | digit
  · decide
  · exact isBlank_of_isDigit digit

/-- Digits do not begin with a sign. -/
theorem ofNat_ne_cons {sign : Char} (noDigit : sign.isDigit = false) (value : Nat)
    (rest : List Char) : ofNat value ≠ sign :: rest := by
  intro text
  have digit : sign.isDigit = true := isDigit_of_mem_ofNat (text ▸ List.mem_cons_self)
  rw [noDigit] at digit
  contradiction

/-- A count is read back if it fits a word. -/
theorem readWord?_ofNat (count : Nat) :
    readWord? (ofNat count) = if count < wordRange then some count else none := by
  rw [readWord?, readNatural?_ofNat]
  exact ofNat_ne_cons (by decide) count

/-- An integer that fits a signed word is read back. -/
theorem readSigned?_ofInt {value : Int} (fits : fitsSigned value = true) :
    readSigned? (ofInt value) = some value := by
  rw [ofInt]
  split
  · next negative =>
    have opposite : -(value.natAbs : Int) = value := by omega
    rw [readSigned?, readNatural?_ofNat]
    change (if fitsSigned (-(value.natAbs : Int)) then some (-(value.natAbs : Int)) else none) = _
    rw [opposite]
    exact if_pos fits
  · next natural =>
    have same : Int.ofNat value.natAbs = value := by
      rw [Int.ofNat_eq_natCast]
      omega
    rw [readSigned?, readNatural?_ofNat, Option.map_some, same]
    · exact if_pos fits
    · exact ofNat_ne_cons (by decide) _
    · exact ofNat_ne_cons (by decide) _

/-! ## Texts of signed words -/

/-- The texts of integers: digits, perhaps after a sign. -/
inductive Numeral : List Char → Int → Prop where
  | plain {digits : List Char} (nonempty : digits ≠ []) (all : AllDigits digits) :
      Numeral digits (natural digits)
  | positive {digits : List Char} (nonempty : digits ≠ []) (all : AllDigits digits) :
      Numeral ('+' :: digits) (natural digits)
  | negative {digits : List Char} (nonempty : digits ≠ []) (all : AllDigits digits) :
      Numeral ('-' :: digits) (-(natural digits : Int))

theorem exists_readDigits {text : List Char} (all : AllDigits text) (value : Nat) :
    ∃ read, readDigits value text = some read := by
  induction text generalizing value with
  | nil => exact ⟨value, rfl⟩
  | cons c rest ih =>
      have told : digit? c = some (c.toNat - '0'.toNat) := if_pos (all c List.mem_cons_self)
      rw [readDigits, told]
      exact ih (fun d member => all d (List.mem_cons_of_mem c member)) _

/-- Exactly the nonempty texts of digits are read as natural numbers. -/
theorem readNatural?_eq_some_iff {text : List Char} {value : Nat} :
    readNatural? text = some value ↔ text ≠ [] ∧ AllDigits text ∧ natural text = value := by
  cases text with
  | nil => exact iff_of_false nofun fun written => written.1 rfl
  | cons c rest =>
      rw [readNatural?, natural]
      constructor
      · intro read
        refine ⟨List.cons_ne_nil c rest, ?_, by rw [read]; rfl⟩
        intro d member
        by_contra noDigit
        rw [readDigits_eq_none member (if_neg noDigit)] at read
        contradiction
      · rintro ⟨-, all, same⟩
        obtain ⟨read, told⟩ := exists_readDigits all 0
        rw [told] at same ⊢
        exact congrArg some same

/-- The integer of a text without its sign, if it has digits only. -/
theorem map_readNatural?_eq_some_iff {text : List Char} {value : Int} (signed : Nat → Int) :
    (readNatural? text).map signed = some value ↔
      text ≠ [] ∧ AllDigits text ∧ signed (natural text) = value := by
  rw [Option.map_eq_some_iff]
  constructor
  · rintro ⟨read, told, same⟩
    obtain ⟨nonempty, all, rfl⟩ := readNatural?_eq_some_iff.mp told
    exact ⟨nonempty, all, same⟩
  · rintro ⟨nonempty, all, same⟩
    exact ⟨_, readNatural?_eq_some_iff.mpr ⟨nonempty, all, rfl⟩, same⟩

theorem eq_some_of_fits_iff (found : Option Int) (value : Int) :
    (match found with
      | some value => if fitsSigned value then some value else none
      | none => none) = some value ↔ found = some value ∧ fitsSigned value = true := by
  cases found with
  | none =>
      constructor
      · rintro ⟨⟩
      · rintro ⟨⟨⟩, -⟩
  | some other =>
      dsimp only
      split
      · next fits =>
        rw [Option.some.injEq]
        exact ⟨fun same => ⟨same, same ▸ fits⟩, And.left⟩
      · next outside =>
        constructor
        · rintro ⟨⟩
        · rintro ⟨⟨⟩, fits⟩
          exact absurd fits outside

/-- A signed word is read from the numerals of the integers that fit it. -/
theorem readSigned?_eq_some_iff {text : List Char} {value : Int} :
    readSigned? text = some value ↔ Numeral text value ∧ fitsSigned value = true := by
  unfold readSigned?
  refine (eq_some_of_fits_iff _ _).trans (and_congr_left fun _ => ?_)
  split
  · next rest =>
    have opposite : ((do let value ← readNatural? rest; pure (value : Int)).map fun value => -value)
        = (readNatural? rest).map fun value : Nat => -(value : Int) := by
      cases readNatural? rest with
      | none => rfl
      | some value => rfl
    rw [opposite, map_readNatural?_eq_some_iff]
    constructor
    · rintro ⟨nonempty, all, rfl⟩
      exact .negative nonempty all
    · intro numeral
      cases numeral with
      | plain _ all => exact absurd (all '-' List.mem_cons_self) (by decide)
      | negative nonempty all => exact ⟨nonempty, all, rfl⟩
  · next rest =>
    rw [map_readNatural?_eq_some_iff Int.ofNat]
    constructor
    · rintro ⟨nonempty, all, rfl⟩
      exact .positive nonempty all
    · intro numeral
      cases numeral with
      | plain _ all => exact absurd (all '+' List.mem_cons_self) (by decide)
      | positive nonempty all => exact ⟨nonempty, all, rfl⟩
  · next noMinus noPlus =>
    rw [map_readNatural?_eq_some_iff Int.ofNat]
    constructor
    · rintro ⟨nonempty, all, rfl⟩
      exact .plain nonempty all
    · intro numeral
      cases numeral with
      | plain nonempty all => exact ⟨nonempty, all, rfl⟩
      | positive _ _ => exact absurd rfl (noPlus _)
      | negative _ _ => exact absurd rfl (noMinus _)

/-- A numeral has no blanks, so trimming takes nothing from it. -/
theorem Numeral.trim_eq {text : List Char} {value : Int} (numeral : Numeral text value) :
    trim text = text := by
  have visible {digits : List Char} (all : AllDigits digits) :
      ∀ c ∈ digits, isBlank c = false := fun c member => isBlank_of_isDigit (all c member)
  have unblank : ∀ c ∈ text, isBlank c = false := by
    cases numeral with
    | plain _ all => exact visible all
    | positive _ all => exact List.forall_mem_cons.mpr ⟨by decide, visible all⟩
    | negative _ all => exact List.forall_mem_cons.mpr ⟨by decide, visible all⟩
  have padded := trim_padded (List.forall_mem_nil _) unblank (List.forall_mem_nil _)
  rwa [List.nil_append, List.append_nil] at padded

theorem trim_ofInt (value : Int) : trim (ofInt value) = ofInt value := by
  have unblank : ∀ c ∈ ofInt value, isBlank c = false := by
    intro c member
    exact isBlank_of_isNumeral (isNumeral_of_mem_ofInt member)
  have padded := trim_padded (List.forall_mem_nil _) unblank (List.forall_mem_nil _)
  rwa [List.nil_append, List.append_nil] at padded

end Polystore.Text
