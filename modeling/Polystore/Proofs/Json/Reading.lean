import Polystore.Proofs.Json.Apart
import Polystore.Proofs.Keyed

/-!
# Values are read back

The compact text of a value is read back as that value, if its numbers are integers that fit
a word, the fields of its objects are in order, and it nests no deeper than the reader goes.
A value is read up to the character that follows it, so the induction is over what is written
with any text after it; the fuel that is left covers two steps for every character.
-/

namespace Polystore

instance {α : Type} (entries : Keyed α) : Decidable (Keyed.Sorted entries) :=
  inferInstanceAs (Decidable (entries.Pairwise fun left right => left.1 < right.1))

/-! ## Decimal integers -/

namespace Text

theorem le_of_readDigits {value final : Nat} {text : List Char}
    (read : readDigits value text = some final) : value ≤ final := by
  induction text generalizing value with
  | nil => exact Nat.le_of_eq (Option.some.inj read)
  | cons c rest ih =>
      rw [readDigits] at read
      rcases Option.bind_eq_some_iff.mp read with ⟨digit, -, further⟩
      have later := ih further
      omega

/-- No number but zero is written with a zero in front. -/
theorem eq_zero_of_ofNat {value : Nat} {rest : List Char} (written : ofNat value = '0' :: rest) :
    value = 0 := by
  induction value using Nat.strongRecOn generalizing rest with
  | ind value ih =>
      rw [ofNat] at written
      split at written
      · next small =>
        have read := digit?_digitChar value
        rw [(List.cons.inj written).1, Nat.mod_eq_of_lt small] at read
        exact (Option.some.inj read).symm
      · next large =>
        cases shorter : ofNat (value / 10) with
        | nil => exact absurd shorter (ofNat_ne_nil _)
        | cons c more =>
            rw [shorter, List.cons_append] at written
            have zero := ih (value / 10) (by omega) ((List.cons.inj written).1 ▸ shorter)
            omega

end Text

namespace Json

open Text

/-- Digits whose number stays below a bound are gathered whole. -/
theorem gather_of_readDigits {bound value final : Nat} {text : List Char}
    (read : readDigits value text = some final) (small : final < bound) :
    gather bound value text = (final, []) := by
  induction text generalizing value with
  | nil =>
      rw [gather, Option.some.inj read]
  | cons c rest ih =>
      rw [readDigits] at read
      rcases Option.bind_eq_some_iff.mp read with ⟨digit, told, further⟩
      rw [digit?] at told
      split at told
      · cases told
        rw [gather, if_pos (Nat.lt_of_le_of_lt (le_of_readDigits further) small)]
        exact ih further
      · contradiction

/-- A text that ends, or goes on with what follows a value. -/
def Ends (text : List Char) : Prop :=
  ∀ c ∈ text.head?, isFollower c = true

theorem ends_nil : Ends [] :=
  nofun

theorem FollowsValue.ends {text : List Char} (follows : FollowsValue text) (rest : List Char) :
    Ends (text ++ rest) := by
  rcases follows with ⟨c, more, rfl, follower⟩
  intro d head
  cases head
  exact follower

theorem takeDigits_append {digits rest : List Char} (allDigits : ∀ c ∈ digits, c.isDigit = true)
    (ends : Ends rest) : takeDigits (digits ++ rest) = (digits, rest) := by
  rw [takeDigits, List.takeWhile_append_of_pos allDigits, List.dropWhile_append_of_pos allDigits]
  cases rest with
  | nil => simp
  | cons c more =>
      have mark := isNumberMark_of_isFollower (ends c rfl)
      rw [isNumberMark, Bool.or_eq_false_iff] at mark
      simp [mark.1]

theorem takeFraction_of_ends {rest : List Char} (ends : Ends rest) :
    takeFraction rest = some (none, rest) := by
  unfold takeFraction
  split
  · have follower := ends '.' rfl
    contradiction
  · rfl

theorem takeExponent_of_ends {rest : List Char} (ends : Ends rest) :
    takeExponent rest = some (none, rest) := by
  unfold takeExponent
  split
  · next c more =>
    rw [if_neg]
    have follower := ends c rfl
    rintro (rfl | rfl)
    · contradiction
    · contradiction
  · rfl

/-- After the digits of an integer there is neither a fraction nor an exponent. -/
theorem takeParts_of_ends (negative : Bool) (value : Nat) {rest : List Char} (ends : Ends rest) :
    (match Text.ofNat value with
      | [] => none
      | '0' :: _ :: _ => none
      | _ => do
          let (fraction, rest) ← takeFraction rest
          let (exponent, rest) ← takeExponent rest
          pure (⟨negative, Text.ofNat value, fraction, exponent⟩, rest) :
        Option (NumberText × List Char)) =
      some (⟨negative, Text.ofNat value, none, none⟩, rest) := by
  split
  · next empty => exact absurd empty (ofNat_ne_nil value)
  · next c more written =>
    rw [eq_zero_of_ofNat written, Text.ofNat, if_pos (by decide)] at written
    cases (List.cons.inj written).2
  · rw [takeFraction_of_ends ends]
    simp only [Option.bind_eq_bind, Option.bind_some]
    rw [takeExponent_of_ends ends]
    rfl

theorem takeNumber_of_negative (value : Nat) {rest : List Char} (ends : Ends rest) :
    takeNumber ('-' :: (Text.ofNat value ++ rest)) =
      some (⟨true, Text.ofNat value, none, none⟩, rest) := by
  rw [takeNumber, takeDigits_append (fun _ => isDigit_of_mem_ofNat) ends]
  exact takeParts_of_ends true value ends

theorem takeNumber_ofNat (value : Nat) {rest : List Char} (ends : Ends rest) :
    takeNumber (Text.ofNat value ++ rest) =
      some (⟨false, Text.ofNat value, none, none⟩, rest) := by
  rw [takeNumber, takeDigits_append (fun _ => isDigit_of_mem_ofNat) ends]
  · exact takeParts_of_ends false value ends
  · intro more written
    rcases List.exists_cons_of_ne_nil (ofNat_ne_nil value) with ⟨c, digits, begins⟩
    have digit : c.isDigit = true := isDigit_of_mem_ofNat (begins ▸ List.mem_cons_self)
    rw [begins] at written
    rw [(List.cons.inj written).1] at digit
    contradiction

/-- An integer that fits a word is read back. -/
theorem readNumber_ofInt {value : Int} (fits : fitsSigned value = true) {rest : List Char}
    (ends : Ends rest) : readNumber (Text.ofInt value ++ rest) = some (ofInt value, rest) := by
  rw [fitsSigned, decide_eq_true_iff] at fits
  have range : (signedRange : Int) = 9223372036854775808 := rfl
  have wordRange : wordRange = 18446744073709551616 := rfl
  have gathered : gather Text.wordRange 0 (Text.ofNat value.natAbs) = (value.natAbs, []) :=
    gather_of_readDigits (readDigits_ofNat _) (by omega)
  rw [Text.ofInt]
  split
  · next negative =>
    have inside : 0 < value.natAbs ∧ value.natAbs ≤ signedRange := by omega
    have same : -(value.natAbs : Int) = value := by omega
    rw [List.cons_append, readNumber, takeNumber_of_negative _ ends]
    simp only [Option.bind_eq_bind, Option.bind_some, NumberText.value?, gathered, if_true, inside,
      and_self, same, ofInt, Option.pure_def]
  · next negative =>
    have same : (value.natAbs : Int) = value := by omega
    rw [readNumber, takeNumber_ofNat _ ends]
    simp only [Option.bind_eq_bind, Option.bind_some, NumberText.value?, gathered,
      Bool.false_eq_true, if_false, same, ofInt, Option.pure_def]

/-! ## Values that are read back -/

mutual

/-- How deep arrays and objects nest in a value. -/
def depth : Json → Nat
  | array items => itemsDepth items + 1
  | object fields => fieldsDepth fields + 1
  | _ => 0

def itemsDepth : List Json → Nat
  | [] => 0
  | item :: rest => max (depth item) (itemsDepth rest)

def fieldsDepth : List (String × Json) → Nat
  | [] => 0
  | (_, value) :: rest => max (depth value) (fieldsDepth rest)

end

mutual

/-- The fields of every object in a value are in the order of their names, as they are in
every value that is read. -/
def isOrdered : Json → Bool
  | array items => areOrdered items
  | object fields => decide (Keyed.Sorted fields) && fieldsAreOrdered fields
  | _ => true

def areOrdered : List Json → Bool
  | [] => true
  | item :: rest => isOrdered item && areOrdered rest

def fieldsAreOrdered : List (String × Json) → Bool
  | [] => true
  | (_, value) :: rest => isOrdered value && fieldsAreOrdered rest

end

theorem skip_of_not_isSpace {c : Char} (mark : isSpace c = false) (rest : List Char) :
    skip (c :: rest) = c :: rest :=
  List.dropWhile_cons_of_neg (Bool.eq_false_iff.mp mark)

/-- No value begins with a blank or like the end of an array. -/
theorem exists_text_eq_cons_mark (value : Json) :
    ∃ c rest, value.text = c :: rest ∧ isSpace c = false ∧ c ≠ ']' := by
  cases value with
  | null => exact ⟨_, _, rfl, by decide, by decide⟩
  | bool value => cases value <;> exact ⟨_, _, rfl, by decide, by decide⟩
  | string value => exact ⟨_, _, rfl, by decide, by decide⟩
  | array items => exact ⟨_, _, rfl, by decide, by decide⟩
  | object fields => exact ⟨_, _, rfl, by decide, by decide⟩
  | number value =>
      rcases value.text_eq_cons with ⟨c, rest, written, numeral⟩
      refine ⟨c, rest, written, ?_, ?_⟩
      · rw [Bool.eq_false_iff]
        intro blank
        simp only [isSpace, Bool.or_eq_true, beq_iff_eq] at blank
        rcases blank with ((rfl | rfl) | rfl) | rfl <;> contradiction
      · rintro rfl
        contradiction

theorem readString_quote (value : String) (rest : List Char) :
    readString (value.toList.flatMap escape ++ '"' :: rest) = some (value, rest) := by
  have shorter := length_le_length_escape value.toList
  rw [readString, readQuoted_escape]
  · rw [Option.map_some]
    exact congrArg (fun value => some (value, rest)) String.ofList_toList
  · rw [List.length_append]
    omega

/-- Where a value is expected, what begins like no other value is read as a number. -/
theorem readValue_of_notMem {c : Char} {rest : List Char} (mark : isSpace c = false)
    (other : c ∉ ['n', 't', 'f', '"', '[', '{']) (fuel depth : Nat) :
    readValue Keyed.insert (fuel + 1) depth (c :: rest) = readNumber (c :: rest) := by
  rw [readValue, skip_of_not_isSpace mark]
  split
  all_goals first
    | rfl
    | next same =>
        rw [(List.cons.inj same).1] at other
        exact absurd (by decide) other

theorem readValue_ofInt {value : Int} (fits : fitsSigned value = true) (fuel depth : Nat)
    {rest : List Char} (ends : Ends rest) :
    readValue Keyed.insert (fuel + 1) depth (Text.ofInt value ++ rest) =
      some (ofInt value, rest) := by
  rcases (Number.integer value).text_eq_cons with ⟨c, more, written, numeral⟩
  rcases exists_text_eq_cons_mark (ofInt value) with ⟨d, others, again, mark, -⟩
  cases written.symm.trans again
  have other : c ∉ ['n', 't', 'f', '"', '[', '{'] := by
    intro member
    simp only [List.mem_cons, List.not_mem_nil, or_false] at member
    rcases member with rfl | rfl | rfl | rfl | rfl | rfl <;> contradiction
  have read := readNumber_ofInt fits ends
  rw [Number.text] at written
  rw [written, List.cons_append] at read ⊢
  rw [readValue_of_notMem mark other, read]

theorem readValue_string (value : String) (fuel depth : Nat) (rest : List Char) :
    readValue Keyed.insert (fuel + 1) depth ((string value).text ++ rest) =
      some (string value, rest) := by
  have written : (string value).text ++ rest =
      '"' :: (value.toList.flatMap escape ++ '"' :: rest) := by
    rw [text, quote, List.cons_append, List.cons_append, List.append_assoc]
    rfl
  rw [written, readValue, skip_of_not_isSpace (by decide)]
  change (readString _).map _ = _
  rw [readString_quote]
  rfl

/-- An array is read where its items are. -/
theorem readValue_array {fuel depth : Nat} {items : List Json} {rest : List Char}
    (deep : 1 < depth) (read : items ≠ [] →
      readItems Keyed.insert fuel (depth - 1) (itemsText items ++ rest) = some (items, rest)) :
    readValue Keyed.insert (fuel + 1) depth ((array items).text ++ rest) =
      some (array items, rest) := by
  change readValue Keyed.insert (fuel + 1) depth ('[' :: (itemsText items ++ rest)) = _
  rw [readValue, skip_of_not_isSpace (by decide)]
  change (if depth ≤ 1 then none else _) = _
  rw [if_neg (Nat.not_le_of_lt deep)]
  cases items with
  | nil => rfl
  | cons item more =>
      rcases exists_text_eq_cons_mark item with ⟨c, others, written, mark, notClosing⟩
      have begins : itemsText (item :: more) ++ rest =
          c :: (others ++ moreItemsText more ++ rest) := by
        rw [itemsText, written]
        rfl
      rw [begins] at read ⊢
      rw [skip_of_not_isSpace mark]
      split
      · next closes => exact absurd (List.cons.inj closes).1 notClosing
      · rw [read (List.cons_ne_nil item more)]
        rfl

/-- Items are read one after the other. -/
theorem readItems_cons {fuel depth : Nat} {item : Json} {more : List Json} {rest : List Char}
    (first : readValue Keyed.insert fuel depth (item.text ++ (moreItemsText more ++ rest)) =
      some (item, moreItemsText more ++ rest))
    (others : more ≠ [] →
      readItems Keyed.insert fuel depth (itemsText more ++ rest) = some (more, rest)) :
    readItems Keyed.insert (fuel + 1) depth (itemsText (item :: more) ++ rest) =
      some (item :: more, rest) := by
  rw [itemsText, List.append_assoc, readItems, first]
  cases more with
  | nil => rfl
  | cons next later =>
      change (readItems Keyed.insert fuel depth (itemsText (next :: later) ++ rest)).map _ = _
      rw [others (List.cons_ne_nil next later)]
      rfl

theorem readValue_object {fuel depth : Nat} {fields : List (String × Json)} {rest : List Char}
    (deep : 1 < depth) (read : fields ≠ [] →
      readFields Keyed.insert fuel (depth - 1) [] (fieldsText fields ++ rest) =
        some (fields, rest)) :
    readValue Keyed.insert (fuel + 1) depth ((object fields).text ++ rest) =
      some (object fields, rest) := by
  change readValue Keyed.insert (fuel + 1) depth ('{' :: (fieldsText fields ++ rest)) = _
  rw [readValue, skip_of_not_isSpace (by decide)]
  change (if depth ≤ 1 then none else _) = _
  rw [if_neg (Nat.not_le_of_lt deep)]
  cases fields with
  | nil => rfl
  | cons field more =>
      change (readFields Keyed.insert fuel (depth - 1) []
        (fieldsText (field :: more) ++ rest)).map _ = _
      rw [read (List.cons_ne_nil field more)]
      rfl

/-- Fields are read one after the other, and each joins those before it. -/
theorem readFields_cons {fuel depth : Nat} {name : String} {value : Json}
    {before after more : List (String × Json)} {rest : List Char}
    (first : readValue Keyed.insert fuel depth (value.text ++ (moreFieldsText more ++ rest)) =
      some (value, moreFieldsText more ++ rest))
    (joined : Keyed.insert name value before = after)
    (others : more ≠ [] → readFields Keyed.insert fuel depth after (fieldsText more ++ rest) =
      some (after ++ more, rest)) :
    readFields Keyed.insert (fuel + 1) depth before (fieldsText ((name, value) :: more) ++ rest) =
      some (after ++ more, rest) := by
  have written : fieldsText ((name, value) :: more) ++ rest =
      '"' :: (name.toList.flatMap escape ++
        '"' :: ':' :: (value.text ++ (moreFieldsText more ++ rest))) := by
    rw [fieldsText, quote]
    simp only [List.cons_append, List.append_assoc, List.nil_append]
  have quoteMark : isSpace '"' = false := by decide
  have colonMark : isSpace ':' = false := by decide
  rw [written, readFields]
  simp only [skip_of_not_isSpace quoteMark, readString_quote, skip_of_not_isSpace colonMark, first,
    joined]
  cases more with
  | nil =>
      rw [List.append_nil]
      rfl
  | cons next later => exact others (List.cons_ne_nil next later)

/-- A name beyond all others joins them at the end. -/
theorem insert_eq_append {before : List (String × Json)} {name : String}
    (beyond : ∀ entry ∈ before, entry.1 < name) (value : Json) :
    Keyed.insert name value before = before ++ [(name, value)] := by
  induction before with
  | nil => rfl
  | cons first rest ih =>
      rw [List.forall_mem_cons] at beyond
      have notBefore : ¬name < first.1 := fun less => Std.lt_irrefl (Std.lt_trans less beyond.1)
      have differ : name ≠ first.1 := fun same => Std.lt_irrefl (same ▸ beyond.1)
      rw [Keyed.insert, if_neg notBefore, if_neg differ, ih beyond.2]
      rfl

mutual

/-- A value is read back up to what follows it. -/
theorem readValue_text (value : Json) {fuel depth : Nat} {rest : List Char}
    (integral : value.isIntegral = true) (ordered : value.isOrdered = true)
    (shallow : value.depth < depth) (enough : 2 * value.text.length ≤ fuel) (ends : Ends rest) :
    readValue Keyed.insert fuel depth (value.text ++ rest) = some (value, rest) := by
  match fuel with
  | 0 =>
    rcases exists_text_eq_cons_mark value with ⟨c, more, written, -⟩
    rw [written] at enough
    contradiction
  | fuel + 1 =>
    match value with
    | .null => rfl
    | .bool true => rfl
    | .bool false => rfl
    | .number (.integer value) => exact readValue_ofInt integral fuel depth ends
    | .number (.real value) => contradiction
    | .string value => exact readValue_string value fuel depth rest
    | .array items =>
      rw [isIntegral] at integral
      rw [isOrdered] at ordered
      rw [Json.depth] at shallow
      rw [text, List.length_cons] at enough
      apply readValue_array (by omega)
      intro some
      exact readItems_text items some integral ordered (by omega) (by omega) rest
    | .object fields =>
      rw [isIntegral] at integral
      rw [isOrdered, Bool.and_eq_true, decide_eq_true_iff] at ordered
      rw [Json.depth] at shallow
      rw [text, List.length_cons] at enough
      apply readValue_object (by omega)
      intro some
      exact readFields_text fields some [] integral ordered.2 ordered.1 (by omega) (by omega) rest

theorem readItems_text (items : List Json) (some : items ≠ []) {fuel depth : Nat}
    (integral : areIntegral items = true) (ordered : areOrdered items = true)
    (shallow : itemsDepth items < depth) (enough : 2 * (itemsText items).length ≤ fuel)
    (rest : List Char) :
    readItems Keyed.insert fuel depth (itemsText items ++ rest) = .some (items, rest) := by
  match items, some, fuel with
  | item :: more, _, 0 =>
    rcases exists_text_eq_cons_mark item with ⟨c, others, written, -⟩
    rw [itemsText, written] at enough
    contradiction
  | item :: more, _, fuel + 1 =>
    have follows := followsValue_moreItemsText more
    rw [areIntegral, Bool.and_eq_true] at integral
    rw [areOrdered, Bool.and_eq_true] at ordered
    rw [itemsDepth, Nat.max_lt] at shallow
    rw [itemsText, List.length_append] at enough
    apply readItems_cons
    · refine readValue_text item integral.1 ordered.1 shallow.1 ?_ (follows.ends rest)
      rcases follows with ⟨c, others, written, -⟩
      rw [written, List.length_cons] at enough
      omega
    · intro some
      refine readItems_text more some integral.2 ordered.2 shallow.2 ?_ rest
      have further : (moreItemsText more).length = (itemsText more).length + 1 := by
        cases more with
        | nil => contradiction
        | cons next later => rfl
      omega

theorem readFields_text (fields : List (String × Json)) (some : fields ≠ [])
    (before : List (String × Json)) {fuel depth : Nat}
    (integral : fieldsAreIntegral fields = true) (ordered : fieldsAreOrdered fields = true)
    (sorted : Keyed.Sorted (before ++ fields))
    (shallow : fieldsDepth fields < depth) (enough : 2 * (fieldsText fields).length ≤ fuel)
    (rest : List Char) :
    readFields Keyed.insert fuel depth before (fieldsText fields ++ rest) =
      .some (before ++ fields, rest) := by
  match fields, some, fuel with
  | (name, value) :: more, _, 0 =>
    rw [fieldsText, quote] at enough
    contradiction
  | (name, value) :: more, _, fuel + 1 =>
    have follows := followsValue_moreFieldsText more
    rw [fieldsAreIntegral, Bool.and_eq_true] at integral
    rw [fieldsAreOrdered, Bool.and_eq_true] at ordered
    rw [fieldsDepth, Nat.max_lt] at shallow
    rw [fieldsText, quote] at enough
    simp only [List.length_append, List.length_cons] at enough
    rw [List.append_cons] at sorted ⊢
    apply readFields_cons
    · exact readValue_text value integral.1 ordered.1 shallow.1 (by omega) (follows.ends rest)
    · apply insert_eq_append
      intro entry member
      have ascending := (List.pairwise_append.mp (List.pairwise_append.mp sorted).1).2.2
      exact ascending entry member (name, value) List.mem_cons_self
    · intro some
      refine readFields_text more some (before ++ [(name, value)]) integral.2 ordered.2 sorted
        shallow.2 ?_ rest
      have further : (moreFieldsText more).length = (fieldsText more).length + 1 := by
        cases more with
        | nil => contradiction
        | cons next later => rfl
      omega

end

/-- Values that are read back as they are written. -/
structure Readable (value : Json) : Prop where
  integral : value.isIntegral = true
  ordered : value.isOrdered = true
  shallow : value.depth < nestingLimit

instance (value : Json) : Decidable value.Readable :=
  decidable_of_iff (value.isIntegral = true ∧ value.isOrdered = true ∧ value.depth < nestingLimit)
    ⟨fun ⟨integral, ordered, shallow⟩ => ⟨integral, ordered, shallow⟩,
      fun ⟨integral, ordered, shallow⟩ => ⟨integral, ordered, shallow⟩⟩

/-- The text of a value is read as that value. -/
theorem read?_text {value : Json} (readable : value.Readable) : read? value.text = some value := by
  have read : readValue Keyed.insert (2 * value.text.length + 2) nestingLimit (value.text ++ []) =
      some (value, []) :=
    readValue_text value readable.integral readable.ordered readable.shallow (by omega) ends_nil
  rw [List.append_nil] at read
  rw [read?, readFirst, read]
  rfl

/-! ## Bytes -/

/-- The loop that lists the bytes of an array puts those from a position on after those that
it has. -/
theorem toList_loop (bytes : ByteArray) (position : Nat) (before : List UInt8) :
    ByteArray.toList.loop bytes position before =
      before.reverse ++ bytes.data.toList.drop position := by
  fun_induction ByteArray.toList.loop bytes position before with
  | case1 position before inside ih =>
      have short : position < bytes.data.toList.length := by simpa using inside
      rw [ih, List.drop_eq_getElem_cons short]
      simp [ByteArray.get!, inside]
  | case2 position before beyond =>
      rw [List.drop_eq_nil_of_le (by simpa using Nat.le_of_not_lt beyond)]
      simp

theorem mk_toList_toArray (bytes : ByteArray) : ByteArray.mk bytes.toList.toArray = bytes := by
  rw [ByteArray.toList, toList_loop]
  rfl

/-- What is written as bytes is read back. -/
theorem readBytes?_render {value : Json} (readable : value.Readable) :
    readBytes? value.render.toUTF8.toList = some value := by
  have text : String.fromUTF8? value.render.toUTF8 = some value.render :=
    dif_pos value.render.isValidUTF8
  rw [readBytes?, mk_toList_toArray, text, Option.bind_some, render, String.toList_ofList]
  exact read?_text readable

/-! ## Fields -/

theorem fieldsAreOrdered_iff (fields : List (String × Json)) :
    fieldsAreOrdered fields = true ↔ ∀ field ∈ fields, field.2.isOrdered = true := by
  induction fields with
  | nil => exact iff_of_true rfl (List.forall_mem_nil _)
  | cons field rest ih => rw [fieldsAreOrdered, Bool.and_eq_true, List.forall_mem_cons, ih]

theorem fieldsDepth_lt_iff {bound : Nat} (positive : 0 < bound) (fields : List (String × Json)) :
    fieldsDepth fields < bound ↔ ∀ field ∈ fields, field.2.depth < bound := by
  induction fields with
  | nil => exact iff_of_true positive (List.forall_mem_nil _)
  | cons field rest ih => rw [fieldsDepth, Nat.max_lt, List.forall_mem_cons, ih]

end Json

end Polystore
