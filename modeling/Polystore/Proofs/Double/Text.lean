import Mathlib.Data.List.TakeWhile
import Polystore.Proofs.Double.Shortest
import Polystore.Proofs.Json.Text

/-!
# Numbers are told by their texts

A decimal text denotes an exact number: its digits, shifted by the places after the
point and by the exponent.  The text of a binary64 number denotes the shortest decimal
of its magnitude, which reads back as no other magnitude, so two numbers of one text
are the same number.
-/

namespace Polystore.Text

/-- The natural number that decimal digits denote. -/
def natural (digits : List Char) : Nat :=
  (readDigits 0 digits).getD 0

theorem readDigits_ofNat (value : Nat) : readDigits 0 (ofNat value) = some value := by
  have read := readNatural?_ofNat value
  cases written : ofNat value with
  | nil => exact absurd written (ofNat_ne_nil value)
  | cons c rest => rwa [written] at read

theorem readDigits_zeros (value count : Nat) :
    readDigits value (List.replicate count '0') = some (value * 10 ^ count) := by
  induction count generalizing value with
  | zero => rw [Nat.pow_zero, Nat.mul_one]; rfl
  | succ count ih =>
      rw [List.replicate_succ, readDigits]
      change readDigits (10 * value + 0) _ = _
      rw [ih, Nat.pow_succ, Nat.add_zero, Nat.mul_comm 10, Nat.mul_assoc, Nat.mul_comm 10]

theorem natural_ofNat (value : Nat) : natural (ofNat value) = value := by
  rw [natural, readDigits_ofNat]
  rfl

/-- Zeros after the digits shift the number. -/
theorem natural_ofNat_zeros (value count : Nat) :
    natural (ofNat value ++ List.replicate count '0') = value * 10 ^ count := by
  rw [natural, readDigits_append, readDigits_ofNat, Option.bind_some, readDigits_zeros]
  rfl

/-- Zeros before the digits do not count. -/
theorem natural_zeros_ofNat (value count : Nat) :
    natural (List.replicate count '0' ++ ofNat value) = value := by
  rw [natural, readDigits_append, readDigits_zeros, Option.bind_some, Nat.zero_mul,
    readDigits_ofNat]
  rfl

/-- A text in which every character is a decimal digit. -/
def AllDigits (text : List Char) : Prop :=
  ∀ c ∈ text, c.isDigit = true

theorem allDigits_ofNat (value : Nat) : AllDigits (ofNat value) :=
  fun _ mem => isDigit_of_mem_ofNat mem

theorem allDigits_zeros (count : Nat) : AllDigits (List.replicate count '0') := by
  intro c mem
  rw [List.eq_of_mem_replicate mem]
  rfl

theorem AllDigits.append {left right : List Char} (leftDigits : AllDigits left)
    (rightDigits : AllDigits right) : AllDigits (left ++ right) := by
  intro c mem
  rcases List.mem_append.mp mem with mem | mem
  · exact leftDigits c mem
  · exact rightDigits c mem

theorem AllDigits.take {text : List Char} (digits : AllDigits text) (count : Nat) :
    AllDigits (text.take count) :=
  fun c mem => digits c (List.mem_of_mem_take mem)

theorem AllDigits.drop {text : List Char} (digits : AllDigits text) (count : Nat) :
    AllDigits (text.drop count) :=
  fun c mem => digits c (List.mem_of_mem_drop mem)

theorem AllDigits.notMem {text : List Char} (digits : AllDigits text) {c : Char}
    (mark : c.isDigit = false) : c ∉ text := by
  intro mem
  rw [digits c mem] at mark
  cases mark

/-- The characters of numbers. -/
def isNumberMark (c : Char) : Bool :=
  c.isDigit || ['-', '+', '.', 'e'].contains c

theorem AllDigits.marks {text : List Char} (digits : AllDigits text) :
    ∀ c ∈ text, isNumberMark c = true := by
  intro c mem
  rw [isNumberMark, digits c mem, Bool.true_or]

/-- A text is cut in two at the first place of a character. -/
theorem cut_at {c : Char} {before : List Char} (absent : c ∉ before) (after : List Char) :
    (before ++ c :: after).takeWhile (· != c) = before ∧
      (before ++ c :: after).dropWhile (· != c) = c :: after := by
  have passes : ∀ d ∈ before, (d != c) = true := by
    intro d mem
    rw [bne_iff_ne]
    rintro rfl
    exact absent mem
  rw [List.takeWhile_append_of_pos passes, List.dropWhile_append_of_pos passes]
  simp

/-- A text without the character is not cut. -/
theorem cut_absent {c : Char} {text : List Char} (absent : c ∉ text) :
    text.takeWhile (· != c) = text ∧ text.dropWhile (· != c) = [] := by
  have passes : ∀ d ∈ text, (d != c) = true := by
    intro d mem
    rw [bne_iff_ne]
    rintro rfl
    exact absent mem
  constructor
  · exact List.takeWhile_eq_self_iff.mpr passes
  · exact List.dropWhile_eq_nil_iff.mpr passes

end Polystore.Text

namespace Polystore.Double

open Text

/-! ## The number that a text denotes -/

/-- The exponent that follows its letter; without a sign there is none. -/
def exponentOf : List Char → Int
  | '-' :: digits => -(natural digits : ℤ)
  | '+' :: digits => natural digits
  | _ => 0

/-- The digits of a mantissa, and how many of them follow the point. -/
def mantissaOf (mantissa : List Char) : Nat × Nat :=
  let fraction := (mantissa.dropWhile (· != '.')).tail
  (natural (mantissa.takeWhile (· != '.') ++ fraction), fraction.length)

/-- The exact number that a decimal text without a sign denotes. -/
def exactValue (text : List Char) : ℚ :=
  let (digits, places) := mantissaOf (text.takeWhile (· != 'e'))
  decimal digits (exponentOf (text.dropWhile (· != 'e')).tail - places)

theorem mantissaOf_point {whole : List Char} (digits : AllDigits whole) (fraction : List Char) :
    mantissaOf (whole ++ '.' :: fraction) = (natural (whole ++ fraction), fraction.length) := by
  obtain ⟨before, after⟩ := cut_at (digits.notMem (show '.'.isDigit = false by rfl)) fraction
  simp [mantissaOf, before, after]

theorem mantissaOf_whole {whole : List Char} (digits : AllDigits whole) :
    mantissaOf whole = (natural whole, 0) := by
  obtain ⟨before, after⟩ := cut_absent (digits.notMem (show '.'.isDigit = false by rfl))
  simp [mantissaOf, before, after]

/-- A text without an exponent. -/
theorem exactValue_point {whole fraction : List Char} (wholeDigits : AllDigits whole)
    (fractionDigits : AllDigits fraction) :
    exactValue (whole ++ '.' :: fraction) =
      decimal (natural (whole ++ fraction)) (-fraction.length) := by
  have absent : 'e' ∉ whole ++ '.' :: fraction := by
    simp [wholeDigits.notMem (show 'e'.isDigit = false by rfl),
      fractionDigits.notMem (show 'e'.isDigit = false by rfl)]
  obtain ⟨before, after⟩ := cut_absent absent
  simp [exactValue, before, after, mantissaOf_point wholeDigits, exponentOf]

/-- A text with an exponent. -/
theorem exactValue_exponent {mantissa : List Char} (absent : 'e' ∉ mantissa)
    (exponent : List Char) :
    exactValue (mantissa ++ 'e' :: exponent) =
      decimal (mantissaOf mantissa).1 (exponentOf exponent - (mantissaOf mantissa).2) := by
  obtain ⟨before, after⟩ := cut_at absent exponent
  simp [exactValue, before, after]

theorem decimal_shift (digits count : Nat) (step : Int) :
    decimal (digits * 10 ^ count) (step - count) = decimal digits step := by
  rw [decimal, decimal, zpow_sub₀ (by norm_num), zpow_natCast]
  push_cast
  field_simp

/-- The sign and the digits of an exponent. -/
def exponentText (exponent : Int) : List Char :=
  (if exponent < 0 then ['-'] else ['+']) ++ ofNat exponent.natAbs

theorem exponentOf_exponentText (exponent : Int) :
    exponentOf (exponentText exponent) = exponent := by
  rw [exponentText]
  split
  · next negative =>
    change -(natural (ofNat exponent.natAbs) : ℤ) = exponent
    rw [natural_ofNat]
    omega
  · next positive =>
    change (natural (ofNat exponent.natAbs) : ℤ) = exponent
    rw [natural_ofNat]
    omega

/-- The mantissa of an exponent has its point after the first digit. -/
def pointed : List Char → List Char
  | [] => []
  | [only] => [only]
  | first :: rest => first :: '.' :: rest

theorem notMem_pointed {written : List Char} (digits : AllDigits written) :
    'e' ∉ pointed written := by
  have absent := digits.notMem (show 'e'.isDigit = false by rfl)
  match written with
  | [] => exact absent
  | [only] => exact absent
  | first :: second :: rest => simpa [pointed] using absent

theorem mantissaOf_pointed {written : List Char} (digits : AllDigits written) :
    mantissaOf (pointed written) = (natural written, written.length - 1) := by
  match written with
  | [] => rfl
  | [only] => exact mantissaOf_whole digits
  | first :: second :: rest =>
      have single : AllDigits [first] := by
        intro c mem
        rw [List.mem_singleton.mp mem]
        exact digits first List.mem_cons_self
      exact mantissaOf_point single (second :: rest)

/-- A decimal is written with digits on both sides of a point, or with an exponent. -/
theorem renderDecimal_cases (digits : Nat) (step : Int) :
    (∃ (whole fraction : List Char) (places : ℕ),
        renderDecimal digits step = whole ++ '.' :: fraction ∧ whole ≠ [] ∧ AllDigits whole ∧ AllDigits fraction ∧
        natural (whole ++ fraction) = digits * 10 ^ places ∧
        (fraction.length : ℤ) = places - step) ∨
      renderDecimal digits step = pointed (ofNat digits) ++
        'e' :: exponentText ((ofNat digits).length + step - 1) := by
  have written := allDigits_ofNat digits
  have nonempty := List.length_pos_iff.mpr (ofNat_ne_nil digits)
  rw [renderDecimal]
  dsimp only
  split
  · next whole =>
    -- zeros between the digits and the point
    apply Or.inl
    exists ofNat digits ++ List.replicate step.toNat '0', List.replicate 1 '0', step.toNat + 1
    refine ⟨rfl, by simp [ofNat_ne_nil], written.append (allDigits_zeros _), allDigits_zeros 1,
      ?_, ?_⟩
    · rw [List.append_assoc, List.replicate_append_replicate]
      exact natural_ofNat_zeros digits (step.toNat + 1)
    · simp
      omega
  · split
    · next inside =>
      -- the point among the digits
      apply Or.inl
      exists (ofNat digits).take ((ofNat digits).length + step).toNat,
        (ofNat digits).drop ((ofNat digits).length + step).toNat, 0
      refine ⟨rfl, ?_, written.take _, written.drop _, ?_, ?_⟩
      · rw [← List.length_pos_iff, List.length_take]
        omega
      · rw [List.take_append_drop, natural_ofNat]
        exact (Nat.mul_one digits).symm
      · simp
        omega
    · split
      · next below =>
        -- zeros between the point and the digits
        apply Or.inl
        exists List.replicate 1 '0',
          List.replicate (-((ofNat digits).length + step)).toNat '0' ++ ofNat digits, 0
        refine ⟨rfl, by simp, allDigits_zeros 1, (allDigits_zeros _).append written, ?_, ?_⟩
        · rw [← List.append_assoc, List.replicate_append_replicate, natural_zeros_ofNat]
          exact (Nat.mul_one digits).symm
        · simp
          omega
      · apply Or.inr
        exact List.append_assoc _ _ _

/-- The text of a decimal denotes it. -/
theorem exactValue_renderDecimal (digits : Nat) (step : Int) :
    exactValue (renderDecimal digits step) = decimal digits step := by
  have written := allDigits_ofNat digits
  have nonempty := List.length_pos_iff.mpr (ofNat_ne_nil digits)
  rcases renderDecimal_cases digits step with
    ⟨whole, fraction, places, text, -, wholeDigits, fractionDigits, read, behind⟩ | text
  · rw [text, exactValue_point wholeDigits fractionDigits, read, behind, neg_sub, decimal_shift]
  · rw [text, exactValue_exponent (notMem_pointed written), mantissaOf_pointed written,
      exponentOf_exponentText, natural_ofNat]
    congr 1
    omega

/-! ## Texts of numbers -/

/-- Zeros that are dropped do not change the decimal. -/
theorem decimal_dropZeros (fuel digits : Nat) (step : Int) :
    decimal (dropZeros fuel digits step).1 (dropZeros fuel digits step).2 =
      decimal digits step := by
  induction fuel generalizing digits step with
  | zero => rfl
  | succ fuel ih =>
      rw [dropZeros]
      split
      · next even =>
        rw [ih]
        have shifted := decimal_shift (digits / 10) 1 (step + 1)
        rw [Nat.pow_one, Nat.div_mul_cancel (Nat.dvd_of_mod_eq_zero even.2)] at shifted
        rw [← shifted]
        congr 1
        omega
      · rfl

/-- The text of a magnitude. -/
def magnitudeText (magnitude : Nat) : List Char :=
  if magnitude = 0 then ['0', '.', '0']
  else
    let (digits, step) := shortest magnitude
    let (kept, place) := dropZeros 20 digits step
    renderDecimal kept place

theorem text_eq (number : Double) :
    number.text =
      if number.negative then '-' :: magnitudeText number.magnitude
      else magnitudeText number.magnitude :=
  rfl

theorem magnitudeText_of_pos {magnitude : Nat} (positive : 0 < magnitude) :
    ∃ digits step, magnitudeText magnitude = renderDecimal digits step ∧
      ReadsAs magnitude (decimal digits step) := by
  rw [magnitudeText, if_neg (Nat.ne_of_gt positive)]
  exists (dropZeros 20 (shortest magnitude).1 (shortest magnitude).2).1,
    (dropZeros 20 (shortest magnitude).1 (shortest magnitude).2).2
  constructor
  · rfl
  · rw [decimal_dropZeros]
    exact readsAs_shortest positive

/-- The text of a positive magnitude reads back as that magnitude. -/
theorem readsAs_exactValue {magnitude : Nat} (positive : 0 < magnitude) :
    ReadsAs magnitude (exactValue (magnitudeText magnitude)) := by
  obtain ⟨digits, step, text, reads⟩ := magnitudeText_of_pos positive
  rwa [text, exactValue_renderDecimal]

theorem exactValue_zero : exactValue (magnitudeText 0) = 0 := by
  have value := exactValue_point (allDigits_zeros 1) (allDigits_zeros 1)
  have zero : natural (List.replicate 1 '0' ++ List.replicate 1 '0') = 0 := by decide
  rw [zero, decimal, Nat.cast_zero, zero_mul] at value
  exact value

theorem magnitudeText_injective : Function.Injective magnitudeText := by
  intro left right same
  have values := congrArg exactValue same
  rcases Nat.eq_zero_or_pos left with rfl | leftPositive
  · rcases Nat.eq_zero_or_pos right with rfl | rightPositive
    · rfl
    · have positive := (readsAs_exactValue rightPositive).pos
      rw [← values, exactValue_zero] at positive
      exact absurd positive (lt_irrefl 0)
  · rcases Nat.eq_zero_or_pos right with rfl | rightPositive
    · have positive := (readsAs_exactValue leftPositive).pos
      rw [values, exactValue_zero] at positive
      exact absurd positive (lt_irrefl 0)
    · have reads := readsAs_exactValue leftPositive
      rw [values] at reads
      exact reads.unique (readsAs_exactValue rightPositive)

/-! ## The characters of a text -/

theorem marks_pointed {written : List Char} (digits : AllDigits written) :
    ∀ c ∈ pointed written, isNumberMark c = true := by
  match written with
  | [] => exact digits.marks
  | [only] => exact digits.marks
  | first :: second :: rest =>
      have marks := digits.marks
      simp only [pointed, List.forall_mem_cons] at marks ⊢
      exact ⟨marks.1, rfl, marks.2⟩

theorem marks_exponentText (exponent : Int) :
    ∀ c ∈ exponentText exponent, isNumberMark c = true := by
  have marks := (allDigits_ofNat exponent.natAbs).marks
  rw [exponentText]
  split
  · exact List.forall_mem_cons.mpr ⟨rfl, marks⟩
  · exact List.forall_mem_cons.mpr ⟨rfl, marks⟩

theorem marks_renderDecimal (digits : Nat) (step : Int) :
    ∀ c ∈ renderDecimal digits step, isNumberMark c = true := by
  have written := allDigits_ofNat digits
  rcases renderDecimal_cases digits step with
    ⟨whole, fraction, -, text, -, wholeDigits, fractionDigits, -, -⟩ | text
  · rw [text, List.forall_mem_append, List.forall_mem_cons]
    exact ⟨wholeDigits.marks, rfl, fractionDigits.marks⟩
  · rw [text, List.forall_mem_append, List.forall_mem_cons]
    exact ⟨marks_pointed written, rfl, marks_exponentText _⟩

/-- A decimal begins with a digit. -/
theorem renderDecimal_eq_cons (digits : Nat) (step : Int) :
    ∃ c rest, renderDecimal digits step = c :: rest ∧ c.isDigit = true := by
  rcases renderDecimal_cases digits step with
    ⟨whole, fraction, -, text, nonempty, wholeDigits, -, -, -⟩ | text
  · obtain ⟨c, rest, rfl⟩ := List.exists_cons_of_ne_nil nonempty
    exact ⟨c, _, text, wholeDigits c List.mem_cons_self⟩
  · obtain ⟨c, rest, written⟩ := List.exists_cons_of_ne_nil (ofNat_ne_nil digits)
    have digit : c.isDigit = true := isDigit_of_mem_ofNat (written ▸ List.mem_cons_self)
    rw [written] at text
    cases rest with
    | nil => exact ⟨c, _, text, digit⟩
    | cons second rest => exact ⟨c, _, text, digit⟩

/-- A decimal has a point or an exponent, which no integer has. -/
theorem point_or_exponent_mem_renderDecimal (digits : Nat) (step : Int) :
    '.' ∈ renderDecimal digits step ∨ 'e' ∈ renderDecimal digits step := by
  rcases renderDecimal_cases digits step with ⟨whole, fraction, -, text, -⟩ | text
  · simp [text]
  · simp [text]

theorem marks_magnitudeText (magnitude : Nat) :
    ∀ c ∈ magnitudeText magnitude, isNumberMark c = true := by
  rcases Nat.eq_zero_or_pos magnitude with rfl | positive
  · exact List.all_eq_true.mp rfl
  · obtain ⟨digits, step, text, -⟩ := magnitudeText_of_pos positive
    rw [text]
    exact marks_renderDecimal digits step

theorem magnitudeText_eq_cons (magnitude : Nat) :
    ∃ c rest, magnitudeText magnitude = c :: rest ∧ c.isDigit = true := by
  rcases Nat.eq_zero_or_pos magnitude with rfl | positive
  · exact ⟨_, _, rfl, rfl⟩
  · obtain ⟨digits, step, text, -⟩ := magnitudeText_of_pos positive
    rw [text]
    exact renderDecimal_eq_cons digits step

theorem point_or_exponent_mem_magnitudeText (magnitude : Nat) :
    '.' ∈ magnitudeText magnitude ∨ 'e' ∈ magnitudeText magnitude := by
  rcases Nat.eq_zero_or_pos magnitude with rfl | positive
  · exact Or.inl (by decide)
  · obtain ⟨digits, step, text, -⟩ := magnitudeText_of_pos positive
    rw [text]
    exact point_or_exponent_mem_renderDecimal digits step

theorem magnitudeText_ne_sign (magnitude : Nat) (rest : List Char) :
    magnitudeText magnitude ≠ '-' :: rest := by
  intro text
  obtain ⟨c, more, begins, digit⟩ := magnitudeText_eq_cons magnitude
  rw [text] at begins
  rw [← (List.cons.inj begins).1] at digit
  cases digit

/-- Binary64 numbers are told by their texts, zeros by their signs. -/
theorem text_injective : Function.Injective text := by
  rintro ⟨leftSign, left⟩ ⟨rightSign, right⟩ same
  rw [text_eq, text_eq] at same
  cases leftSign with
  | false =>
      cases rightSign with
      | false => exact congrArg _ (magnitudeText_injective same)
      | true => exact absurd same (magnitudeText_ne_sign left _)
  | true =>
      cases rightSign with
      | false => exact absurd same.symm (magnitudeText_ne_sign right _)
      | true => exact congrArg _ (magnitudeText_injective (List.cons.inj same).2)

end Polystore.Double

namespace Polystore.Number

open Text

/-- A number is written with the characters of numbers. -/
theorem marks_text (number : Number) : ∀ c ∈ number.text, isNumberMark c = true := by
  cases number with
  | integer value =>
      intro c mem
      have numeral : isNumeral c = true := isNumeral_of_mem_ofInt mem
      rw [isNumeral, Bool.or_eq_true, beq_iff_eq] at numeral
      rcases numeral with rfl | digit
      · rfl
      · rw [isNumberMark, digit, Bool.true_or]
  | real value =>
      change ∀ c ∈ value.text, _
      rw [Double.text_eq]
      split
      · exact List.forall_mem_cons.mpr ⟨rfl, Double.marks_magnitudeText _⟩
      · exact Double.marks_magnitudeText _

/-- A number begins with a sign or a digit. -/
theorem text_eq_cons (number : Number) :
    ∃ c rest, number.text = c :: rest ∧ isNumeral c = true := by
  cases number with
  | integer value =>
      have nonempty : ofInt value ≠ [] := by
        rw [ofInt]
        split
        · exact List.cons_ne_nil _ _
        · exact ofNat_ne_nil _
      obtain ⟨c, rest, written⟩ := List.exists_cons_of_ne_nil nonempty
      exact ⟨c, rest, written, isNumeral_of_mem_ofInt (written ▸ List.mem_cons_self)⟩
  | real value =>
      change ∃ c rest, value.text = _ ∧ _
      rw [Double.text_eq]
      split
      · exact ⟨_, _, rfl, rfl⟩
      · obtain ⟨c, rest, written, digit⟩ := Double.magnitudeText_eq_cons value.magnitude
        exact ⟨c, rest, written, by rw [isNumeral, digit, Bool.or_true]⟩

theorem integer_text_ne_real (value : Int) (number : Double) :
    (integer value).text ≠ (real number).text := by
  intro same
  have mark : '.' ∈ number.text ∨ 'e' ∈ number.text := by
    rw [Double.text_eq]
    have found := Double.point_or_exponent_mem_magnitudeText number.magnitude
    split
    · simpa using found
    · exact found
  rw [show number.text = ofInt value from same.symm] at mark
  rcases mark with point | exponent
  · cases isNumeral_of_mem_ofInt point
  · cases isNumeral_of_mem_ofInt exponent

/-- Numbers are told by their texts, and integers from binary64 numbers. -/
theorem text_injective : Function.Injective text := by
  intro left right same
  cases left with
  | integer left =>
      cases right with
      | integer right => rw [ofInt_injective same]
      | real right => exact absurd same (integer_text_ne_real left right)
  | real left =>
      cases right with
      | integer right => exact absurd same.symm (integer_text_ne_real right left)
      | real right => rw [Double.text_injective same]

end Polystore.Number
