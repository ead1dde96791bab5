import Polystore.Json.Reader
import Polystore.Json.Text

/-!
# Texts that tell values apart

Two texts diverge if they agree up to a position at which their characters
differ.  What follows diverging texts does not change how they compare, so the
comparison of two long texts is settled where they part.

The compact texts of two different values diverge as soon as each is followed by a
character that ends a number: strings end at their closing quote, arrays and objects
at their closing brackets, and a number ends where no character of numbers follows.
-/

namespace Polystore

namespace Text

/-- Two texts have different characters at some position, and the same characters
before it. -/
def Diverge : List Char → List Char → Prop
  | c :: left, d :: right => c ≠ d ∨ Diverge left right
  | _, _ => False

@[simp]
theorem diverge_cons_self (c : Char) (left right : List Char) :
    Diverge (c :: left) (c :: right) ↔ Diverge left right := by
  simp [Diverge]

@[simp]
theorem diverge_append_self (shared left right : List Char) :
    Diverge (shared ++ left) (shared ++ right) ↔ Diverge left right := by
  induction shared with
  | nil => rfl
  | cons c shared ih => rw [List.cons_append, List.cons_append, diverge_cons_self, ih]

theorem diverge_of_head_ne {c d : Char} (differ : c ≠ d) (left right : List Char) :
    Diverge (c :: left) (d :: right) :=
  Or.inl differ

theorem not_diverge_self (text : List Char) : ¬Diverge text text := by
  induction text with
  | nil => exact id
  | cons c rest ih => rwa [diverge_cons_self]

theorem Diverge.append {left right : List Char} (apart : Diverge left right)
    (afterLeft afterRight : List Char) :
    Diverge (left ++ afterLeft) (right ++ afterRight) := by
  induction left generalizing right with
  | nil => exact apart.elim
  | cons c left ih =>
      cases right with
      | nil => exact apart.elim
      | cons d right =>
          rcases apart with differ | apart
          · exact Or.inl differ
          · exact Or.inr (ih apart)

theorem compare_ofList (left right : List Char) :
    compare (String.ofList left) (String.ofList right) =
      if left < right then .lt else if left = right then .eq else .gt := by
  have less : String.ofList left < String.ofList right ↔ left < right := by
    change (String.ofList left).toList < (String.ofList right).toList ↔ left < right
    rw [String.toList_ofList, String.toList_ofList]
  change compareOfLessAndEq (String.ofList left) (String.ofList right) = _
  simp only [compareOfLessAndEq, less, String.ofList_inj]

theorem compare_cons (c d : Char) (left right : List Char) :
    compare (String.ofList (c :: left)) (String.ofList (d :: right)) =
      (compare c d).then (compare (String.ofList left) (String.ofList right)) := by
  rw [compare_ofList, compare_ofList]
  change _ = (compareOfLessAndEq c d).then _
  simp only [compareOfLessAndEq, List.cons_lt_cons_iff, List.cons.injEq]
  rcases Std.lt_trichotomy c d with before | same | beyond
  · simp [before]
  · simp [same]
  · have notBefore : ¬c < d := fun before => Std.lt_irrefl (Std.lt_trans before beyond)
    have notSame : c ≠ d := fun same => Std.lt_irrefl (same ▸ beyond)
    simp [notBefore, notSame]

/-- A shared beginning does not take part in the comparison. -/
theorem compare_append_self (shared left right : List Char) :
    compare (String.ofList (shared ++ left)) (String.ofList (shared ++ right)) =
      compare (String.ofList left) (String.ofList right) := by
  induction shared with
  | nil => rfl
  | cons c shared ih =>
      rw [List.cons_append, List.cons_append, compare_cons, ih, Std.ReflOrd.compare_self]
      rfl

/-- What follows diverging texts does not take part in the comparison. -/
theorem Diverge.compare_append {left right : List Char} (apart : Diverge left right)
    (afterLeft afterRight : List Char) :
    compare (String.ofList (left ++ afterLeft)) (String.ofList (right ++ afterRight)) =
      compare (String.ofList left) (String.ofList right) := by
  induction left generalizing right with
  | nil => exact apart.elim
  | cons c left ih =>
      cases right with
      | nil => exact apart.elim
      | cons d right =>
          rw [List.cons_append, List.cons_append, compare_cons, compare_cons]
          rcases apart with differ | apart
          · have unequal : compare c d ≠ .eq := fun same =>
              differ (Std.LawfulEqOrd.eq_of_compare same)
            cases order : compare c d with
            | eq => exact absurd order unequal
            | lt => rfl
            | gt => rfl
          · rw [ih apart]

theorem Diverge.compare_ne_eq {left right : List Char} (apart : Diverge left right) :
    compare (String.ofList left) (String.ofList right) ≠ .eq := by
  intro same
  have equal : left = right :=
    String.ofList_injective (Std.LawfulEqOrd.eq_of_compare same)
  exact not_diverge_self right (equal ▸ apart)

/-- Different words diverge once each is followed by a character that cannot
belong to a word. -/
theorem diverge_of_words (isLetter : Char → Bool) {left right : List Char}
    (differ : left ≠ right) (leftWord : ∀ c ∈ left, isLetter c = true)
    (rightWord : ∀ c ∈ right, isLetter c = true) {d e : Char} (leftEnd : isLetter d = false)
    (rightEnd : isLetter e = false) (afterLeft afterRight : List Char) :
    Diverge (left ++ d :: afterLeft) (right ++ e :: afterRight) := by
  induction left generalizing right with
  | nil =>
      cases right with
      | nil => exact absurd rfl differ
      | cons c right =>
          refine Or.inl fun same => ?_
          rw [same, rightWord c List.mem_cons_self] at leftEnd
          contradiction
  | cons c left ih =>
      cases right with
      | nil =>
          refine Or.inl fun same => ?_
          rw [← same, leftWord c List.mem_cons_self] at rightEnd
          contradiction
      | cons b right =>
          by_cases same : c = b
          · subst same
            refine Or.inr (ih (fun equal => differ (congrArg _ equal)) ?_ ?_)
            · exact fun c mem => leftWord c (List.mem_cons_of_mem _ mem)
            · exact fun c mem => rightWord c (List.mem_cons_of_mem _ mem)
          · exact Or.inl same

theorem diverge_or_prefix (left right : List Char) :
    Diverge left right ∨ left <+: right ∨ right <+: left := by
  induction left generalizing right with
  | nil => exact Or.inr (Or.inl List.nil_prefix)
  | cons c left ih =>
      cases right with
      | nil => exact Or.inr (Or.inr List.nil_prefix)
      | cons d right =>
          by_cases same : c = d
          · subst same
            rw [diverge_cons_self, List.prefix_cons_inj, List.prefix_cons_inj]
            exact ih right
          · exact Or.inl (diverge_of_head_ne same left right)

/-- Texts that are read back whatever follows them diverge if they stand for
different things. -/
theorem diverge_of_read {α : Type} (read : List Char → Option (α × List Char))
    (write : α → List Char)
    (reads : ∀ value rest, read (write value ++ rest) = some (value, rest))
    {left right : α} (differ : left ≠ right) : Diverge (write left) (write right) := by
  rcases diverge_or_prefix (write left) (write right) with apart | ⟨rest, whole⟩ | ⟨rest, whole⟩
  · exact apart
  · have again := reads right []
    rw [List.append_nil, ← whole, reads left rest] at again
    simp only [Option.some.injEq, Prod.mk.injEq] at again
    exact absurd again.1 differ
  · have again := reads left []
    rw [List.append_nil, ← whole, reads right rest] at again
    simp only [Option.some.injEq, Prod.mk.injEq] at again
    exact absurd again.1.symm differ

/-! ## Decimal numbers -/

/-- The characters of decimal integers. -/
def isNumeral (c : Char) : Bool :=
  c == '-' || c.isDigit

theorem isDigit_digitChar (value : Nat) : (digitChar value).isDigit = true := by
  have read := digit?_digitChar value
  rw [digit?] at read
  split at read
  · assumption
  · contradiction

theorem isDigit_of_mem_ofNat {value : Nat} {c : Char} (mem : c ∈ ofNat value) :
    c.isDigit = true := by
  induction value using Nat.strongRecOn with
  | ind value ih =>
      rw [ofNat] at mem
      split at mem
      · rw [List.mem_singleton.mp mem]
        exact isDigit_digitChar value
      · next large =>
        rcases List.mem_append.mp mem with earlier | last
        · exact ih (value / 10) (by omega) earlier
        · rw [List.mem_singleton.mp last]
          exact isDigit_digitChar value

theorem isNumeral_of_mem_ofInt {value : Int} {c : Char} (mem : c ∈ ofInt value) :
    isNumeral c = true := by
  have natural (mem : c ∈ ofNat value.natAbs) : isNumeral c = true := by
    rw [isNumeral, isDigit_of_mem_ofNat mem, Bool.or_true]
  rw [ofInt] at mem
  split at mem
  · rcases List.mem_cons.mp mem with sign | mem
    · rw [sign]
      rfl
    · exact natural mem
  · exact natural mem

theorem ofNat_injective {left right : Nat} (same : ofNat left = ofNat right) :
    left = right := by
  have read := readNatural?_ofNat left
  rw [same, readNatural?_ofNat] at read
  exact (Option.some.inj read).symm

/-- An integer is told by its decimal text. -/
theorem ofInt_injective {left right : Int} (same : ofInt left = ofInt right) :
    left = right := by
  have unsigned (value : Nat) (rest : List Char) : ofNat value ≠ '-' :: rest := by
    intro text
    have member : '-' ∈ ofNat value := text ▸ List.mem_cons_self
    have digit : '-'.isDigit = true := isDigit_of_mem_ofNat member
    contradiction
  simp only [ofInt] at same
  split at same <;> split at same
  · have equal := ofNat_injective (List.cons.inj same).2
    omega
  · exact absurd same.symm (unsigned _ _)
  · exact absurd same (unsigned _ _)
  · have equal := ofNat_injective same
    omega

end Text

namespace Json

/-! ## Quoted strings -/

theorem hexValue?_hexDigit : ∀ value < 16, hexValue? (hexDigit value) = some value := by
  decide

theorem unicodeEscape?_control {c : Char} (control : c.toNat < 32) (rest : List Char) :
    unicodeEscape? ('0' :: '0' :: hexDigit (c.toNat / 16) :: hexDigit (c.toNat % 16) :: rest) =
      some (c, rest) := by
  have unit : hexUnit? ('0' :: '0' :: hexDigit (c.toNat / 16) :: hexDigit (c.toNat % 16) ::
      rest) = some (c.toNat, rest) := by
    have zero : hexValue? '0' = some 0 := by decide
    have high := hexValue?_hexDigit (c.toNat / 16) (by omega)
    have low := hexValue?_hexDigit (c.toNat % 16) (by omega)
    simp only [hexUnit?, zero, high, low, Option.pure_def, Option.bind_eq_bind,
      Option.bind_some, Option.some.injEq, Prod.mk.injEq, and_true]
    omega
  have notLow : ¬(0xDC00 ≤ c.toNat ∧ c.toNat ≤ 0xDFFF) := by omega
  have notHigh : ¬(0xD800 ≤ c.toNat ∧ c.toNat ≤ 0xDBFF) := by omega
  simp only [unicodeEscape?, unit, Option.bind_eq_bind, Option.bind_some, notLow, notHigh,
    if_false, Option.pure_def, Char.ofNat_toNat]

/-- A character inside a string stands for itself, or is read back from what
follows a backslash. -/
theorem escape_cases (c : Char) :
    (escape c = [c] ∧ c ≠ '"' ∧ c ≠ '\\' ∧ ¬c.toNat < 32) ∨
      ∃ mark, escape c = '\\' :: mark ∧ ∀ rest, escaped? (mark ++ rest) = some (c, rest) := by
  by_cases listed : c ∈ ['"', '\\', '\x08', '\x0c', '\n', '\r', '\t']
  · have table : ∀ c ∈ ['"', '\\', '\x08', '\x0c', '\n', '\r', '\t'],
        ∃ mark, escape c = '\\' :: mark ∧
          ∀ rest, escaped? (mark ++ rest) = some (c, rest) := by
      simp only [List.forall_mem_cons]
      refine ⟨⟨_, rfl, fun _ => rfl⟩, ⟨_, rfl, fun _ => rfl⟩, ⟨_, rfl, fun _ => rfl⟩,
        ⟨_, rfl, fun _ => rfl⟩, ⟨_, rfl, fun _ => rfl⟩, ⟨_, rfl, fun _ => rfl⟩,
        ⟨_, rfl, fun _ => rfl⟩, ?_⟩
      exact fun _ none => absurd none List.not_mem_nil
    exact Or.inr (table c listed)
  · simp only [List.mem_cons, List.not_mem_nil, or_false, not_or] at listed
    by_cases control : c.toNat < 32
    · refine Or.inr ⟨['u', '0', '0', hexDigit (c.toNat / 16), hexDigit (c.toNat % 16)], ?_,
        fun rest => unicodeEscape?_control control rest⟩
      simp only [escape, listed, control, if_true, if_false]
    · refine Or.inl ⟨?_, listed.1, listed.2.1, control⟩
      simp only [escape, listed, control, if_false]

/-- The characters of a string are read back up to the closing quote. -/
theorem readQuoted_escape (value rest : List Char) {fuel : Nat} (enough : value.length < fuel) :
    readQuoted fuel (value.flatMap escape ++ '"' :: rest) = some (value, rest) := by
  induction value generalizing fuel with
  | nil =>
      obtain ⟨fuel, rfl⟩ := Nat.exists_eq_succ_of_ne_zero (Nat.ne_of_gt enough)
      rfl
  | cons c value ih =>
      obtain ⟨fuel, rfl⟩ := Nat.exists_eq_succ_of_ne_zero (Nat.ne_zero_of_lt enough)
      have later := ih (Nat.lt_of_succ_lt_succ enough)
      rw [List.flatMap_cons, List.append_assoc]
      rcases escape_cases c with ⟨plain, notQuote, notSlash, notControl⟩ | ⟨mark, slash, reads⟩
      · simp [plain, readQuoted, notQuote, notSlash, notControl, later]
      · simp [slash, readQuoted, reads, later]

theorem length_le_length_escape (value : List Char) :
    value.length ≤ (value.flatMap escape).length := by
  induction value with
  | nil => exact Nat.le_refl _
  | cons c value ih =>
      have one : 1 ≤ (escape c).length := by
        rcases escape_cases c with ⟨plain, _⟩ | ⟨mark, slash, _⟩
        · simp [plain]
        · simp [slash]
      rw [List.flatMap_cons, List.length_append, List.length_cons]
      omega

/-- Different strings have diverging quotations. -/
theorem diverge_quote {left right : List Char} (differ : left ≠ right) :
    Text.Diverge (quote left) (quote right) := by
  have apart : Text.Diverge (left.flatMap escape ++ ['"']) (right.flatMap escape ++ ['"']) := by
    refine Text.diverge_of_read (fun text => readQuoted (text.length + 1) text)
      (fun value => value.flatMap escape ++ ['"']) (fun value rest => ?_) differ
    rw [List.append_assoc]
    apply readQuoted_escape value rest
    have shorter := length_le_length_escape value
    rw [List.length_append]
    omega
  exact (Text.diverge_cons_self '"' _ _).mpr apart

end Json

end Polystore
