import Polystore.Pattern.Search

/-!
# Searches by marks are exact

The marks in a pattern say which texts lead out of it: reading a character moves the marks on,
so that what leads out afterwards is what led out before behind that character.  A search finds
a match exactly where there is one.
-/

namespace Polystore.Pattern

/-! ## What stands beside a text -/

theorem firstOr_cons (c : Char) (text : List Char) (after : Option Char) :
    firstOr (c :: text) after = some c :=
  rfl

theorem lastOr_nil (before : Option Char) : lastOr before [] = before :=
  rfl

theorem lastOr_cons (before : Option Char) (c : Char) (text : List Char) :
    lastOr before (c :: text) = lastOr (some c) text := by
  rw [lastOr, lastOr, List.getLast?_cons]
  cases text.getLast? with
  | none => rfl
  | some last => rfl

theorem lastOr_none (text : List Char) : lastOr none text = text.getLast? := by
  rw [lastOr, Option.or_none]

/-- A text that begins with a character is cut before that character or behind it. -/
theorem exists_cut_cons_iff {c : Char} {text : List Char} {holds : List Char → List Char → Prop} :
    (∃ left right, c :: text = left ++ right ∧ holds left right) ↔
      holds [] (c :: text) ∨ ∃ left right, text = left ++ right ∧ holds (c :: left) right := by
  constructor
  · rintro ⟨left, right, whole, held⟩
    rcases List.cons_eq_append_iff.mp whole with ⟨rfl, rfl⟩ | ⟨rest, rfl, cut⟩
    · exact Or.inl held
    · exact Or.inr ⟨rest, right, cut, held⟩
  · rintro (held | ⟨left, right, rfl, held⟩)
    · exact ⟨[], c :: text, rfl, held⟩
    · exact ⟨c :: left, right, rfl, held⟩

theorem exists_cut_nil_iff {holds : List Char → List Char → Prop} :
    (∃ left right, [] = left ++ right ∧ holds left right) ↔ holds [] [] := by
  constructor
  · rintro ⟨left, right, whole, held⟩
    obtain ⟨rfl, rfl⟩ := List.nil_eq_append_iff.mp whole
    exact held
  · intro held
    exact ⟨[], [], rfl, held⟩

/-- What a cut is asked for in either of two ways, some cut is asked for in one of them. -/
theorem exists_cut_or_iff {text : List Char} {entered : Prop}
    {first second third : List Char → List Char → Prop} :
    (∃ left right, text = left ++ right ∧ (first left right ∨ entered ∧ second left right) ∧
        third left right) ↔
      (∃ left right, text = left ++ right ∧ first left right ∧ third left right) ∨
        (entered ∧ ∃ left right, text = left ++ right ∧ second left right ∧ third left right) := by
  constructor
  · rintro ⟨left, right, whole, held | ⟨may, held⟩, rest⟩
    · exact Or.inl ⟨left, right, whole, held, rest⟩
    · exact Or.inr ⟨may, left, right, whole, held, rest⟩
  · rintro (⟨left, right, whole, held, rest⟩ | ⟨may, left, right, whole, held, rest⟩)
    · exact ⟨left, right, whole, Or.inl held, rest⟩
    · exact ⟨left, right, whole, Or.inr ⟨may, held⟩, rest⟩

/-! ## What a plain pattern matches -/

namespace Plain

/-- The texts that a plain pattern matches between two characters. -/
inductive Matches : Plain → Option Char → List Char → Option Char → Prop where
  | empty (before after : Option Char) : Matches .empty before [] after
  | look {asked : Look} {before after : Option Char} (holds : asked.holds before after = true) :
      Matches (.look asked) before [] after
  | one {kind : CharClass} {c : Char} (before after : Option Char)
      (contains : kind.contains c.toNat = true) : Matches (.one kind) before [c] after
  | seq {first second : Plain} {before after : Option Char} {left right : List Char}
      (ofFirst : Matches first before left (firstOr right after))
      (ofSecond : Matches second (lastOr before left) right after) :
      Matches (.seq first second) before (left ++ right) after
  | left {left right : Plain} {before after : Option Char} {text : List Char}
      (ofLeft : Matches left before text after) : Matches (.alt left right) before text after
  | right {left right : Plain} {before after : Option Char} {text : List Char}
      (ofRight : Matches right before text after) : Matches (.alt left right) before text after
  | done {inner : Plain} (before after : Option Char) : Matches (.star inner) before [] after
  | more {inner : Plain} {before after : Option Char} {first rest : List Char}
      (ofInner : Matches inner before first (firstOr rest after))
      (ofRest : Matches (.star inner) (lastOr before first) rest after) :
      Matches (.star inner) before (first ++ rest) after

section

variable {first second left right inner : Plain} {before after : Option Char} {text : List Char}

theorem matches_empty_iff : Matches .empty before text after ↔ text = [] := by
  constructor
  · rintro ⟨⟩
    rfl
  · rintro rfl
    exact .empty before after

theorem matches_look_iff {asked : Look} :
    Matches (.look asked) before text after ↔ text = [] ∧ asked.holds before after = true := by
  constructor
  · rintro ⟨⟩
    exact ⟨rfl, ‹_›⟩
  · rintro ⟨rfl, holds⟩
    exact .look holds

theorem matches_one_iff {kind : CharClass} :
    Matches (.one kind) before text after ↔ ∃ c, text = [c] ∧ kind.contains c.toNat = true := by
  constructor
  · rintro ⟨⟩
    exact ⟨_, rfl, ‹_›⟩
  · rintro ⟨c, rfl, contains⟩
    exact .one before after contains

theorem matches_seq_iff :
    Matches (.seq first second) before text after ↔ ∃ left right, text = left ++ right ∧
      Matches first before left (firstOr right after) ∧
        Matches second (lastOr before left) right after := by
  constructor
  · rintro ⟨⟩
    exact ⟨_, _, rfl, ‹_›, ‹_›⟩
  · rintro ⟨left, right, rfl, ofFirst, ofSecond⟩
    exact .seq ofFirst ofSecond

theorem matches_alt_iff :
    Matches (.alt left right) before text after ↔
      Matches left before text after ∨ Matches right before text after := by
  constructor
  · intro found
    cases found with
    | left ofLeft => exact Or.inl ofLeft
    | right ofRight => exact Or.inr ofRight
  · rintro (ofLeft | ofRight)
    · exact .left ofLeft
    · exact .right ofRight

/-- Copies that match a text with a character begin with one that matches some of it: those
before it match the empty text, and can be left out. -/
theorem matches_star_cons_iff {c : Char} :
    Matches (.star inner) before (c :: text) after ↔ ∃ left right, text = left ++ right ∧
      Matches inner before (c :: left) (firstOr right after) ∧
        Matches (.star inner) (lastOr (some c) left) right after := by
  constructor
  · intro found
    generalize copies : Plain.star inner = pattern at found
    generalize whole : c :: text = read at found
    induction found with
    | empty | look | one | seq | left | right => contradiction
    | done => contradiction
    | @more other before after first rest ofInner ofRest _ ofRestAgain =>
        cases copies
        rcases List.cons_eq_append_iff.mp whole with ⟨rfl, same⟩ | ⟨later, rfl, cut⟩
        · rw [lastOr_nil] at ofRest ofRestAgain
          exact ofRestAgain rfl same.symm
        · rw [lastOr_cons] at ofRest
          exact ⟨later, rest, cut, ofInner, ofRest⟩
  · rintro ⟨left, right, rfl, ofInner, ofRest⟩
    rw [← lastOr_cons before] at ofRest
    exact .more ofInner ofRest

end

/-- Whether the empty text is matched is told by the pattern. -/
theorem matchesEmpty_iff (before after : Option Char) (pattern : Plain) :
    pattern.matchesEmpty before after = true ↔ Matches pattern before [] after := by
  induction pattern with
  | empty => exact iff_of_true rfl (.empty before after)
  | look asked => rw [matchesEmpty, matches_look_iff, and_iff_right rfl]
  | one kind =>
      refine iff_of_false Bool.false_ne_true ?_
      rw [matches_one_iff]
      rintro ⟨c, whole, -⟩
      contradiction
  | seq first second ofFirst ofSecond =>
      rw [matchesEmpty, Bool.and_eq_true, ofFirst, ofSecond, matches_seq_iff, exists_cut_nil_iff]
      rfl
  | alt left right ofLeft ofRight =>
      rw [matchesEmpty, Bool.or_eq_true, ofLeft, ofRight, matches_alt_iff]
  | star inner => exact iff_of_true rfl (.done before after)

end Plain

/-! ## What leads out of a marked pattern -/

namespace Marked

open Plain (matches_empty_iff matches_look_iff matches_one_iff matches_seq_iff matches_alt_iff
  matches_star_cons_iff)

/-- A pattern without its marks. -/
def plain : Marked → Plain
  | idle inner => inner
  | here kind => .one kind
  | seq first second => .seq first.plain second.plain
  | alt left right => .alt left.plain right.plain
  | star inner => .star inner.plain

/-- Between two characters, a text leads from one of the marks out of the pattern. -/
def LeadsOut : Marked → Option Char → List Char → Option Char → Prop
  | idle _, _, _, _ => False
  | here _, _, text, _ => text = []
  | seq first second, before, text, after =>
      second.LeadsOut before text after ∨ ∃ left right, text = left ++ right ∧
        first.LeadsOut before left (firstOr right after) ∧
          second.plain.Matches (lastOr before left) right after
  | alt left right, before, text, after =>
      left.LeadsOut before text after ∨ right.LeadsOut before text after
  | star inner, before, text, after =>
      ∃ left right, text = left ++ right ∧ inner.LeadsOut before left (firstOr right after) ∧
        (Plain.star inner.plain).Matches (lastOr before left) right after

theorem matchesEmpty_iff (before after : Option Char) (marked : Marked) :
    marked.matchesEmpty before after = true ↔ marked.plain.Matches before [] after := by
  induction marked with
  | idle inner => exact Plain.matchesEmpty_iff before after inner
  | here kind => exact Plain.matchesEmpty_iff before after (.one kind)
  | seq first second ofFirst ofSecond =>
      rw [matchesEmpty, Bool.and_eq_true, ofFirst, ofSecond, plain, matches_seq_iff,
        exists_cut_nil_iff]
      rfl
  | alt left right ofLeft ofRight =>
      rw [matchesEmpty, Bool.or_eq_true, ofLeft, ofRight, plain, matches_alt_iff]
  | star inner => exact iff_of_true rfl (.done before after)

theorem leaves_iff (before after : Option Char) (marked : Marked) :
    marked.leaves before after = true ↔ marked.LeadsOut before [] after := by
  induction marked with
  | idle inner => exact iff_of_false Bool.false_ne_true not_false
  | here kind => exact iff_of_true rfl rfl
  | seq first second ofFirst ofSecond =>
      rw [leaves, Bool.or_eq_true, Bool.and_eq_true, ofFirst, ofSecond, matchesEmpty_iff, LeadsOut,
        exists_cut_nil_iff]
      rfl
  | alt left right ofLeft ofRight =>
      rw [leaves, Bool.or_eq_true, ofLeft, ofRight, LeadsOut]
  | star inner ofInner =>
      rw [leaves, ofInner, LeadsOut, exists_cut_nil_iff]
      exact (and_iff_left (.done _ _)).symm

/-! ## Parts without marks -/

theorem plain_sequence (first second : Marked) :
    (sequence first second).plain = .seq first.plain second.plain := by
  unfold sequence
  split
  · rfl
  · rfl

theorem plain_choice (left right : Marked) :
    (choice left right).plain = .alt left.plain right.plain := by
  unfold choice
  split
  · rfl
  · rfl

theorem plain_copies (inner : Marked) : (copies inner).plain = .star inner.plain := by
  unfold copies
  split
  · rfl
  · rfl

section

variable {before after : Option Char} {text : List Char}

theorem leadsOut_sequence (first second : Marked) :
    (sequence first second).LeadsOut before text after ↔
      (seq first second).LeadsOut before text after := by
  unfold sequence
  split
  · refine iff_of_false not_false ?_
    rintro (lead | ⟨left, right, -, lead, -⟩)
    · exact lead
    · exact lead
  · exact Iff.rfl

theorem leadsOut_choice (left right : Marked) :
    (choice left right).LeadsOut before text after ↔
      (alt left right).LeadsOut before text after := by
  unfold choice
  split
  · refine iff_of_false not_false ?_
    rintro (lead | lead)
    · exact lead
    · exact lead
  · exact Iff.rfl

theorem leadsOut_copies (inner : Marked) :
    (copies inner).LeadsOut before text after ↔ (star inner).LeadsOut before text after := by
  unfold copies
  split
  · refine iff_of_false not_false ?_
    rintro ⟨left, right, -, lead, -⟩
    exact lead
  · exact Iff.rfl

end

/-! ## Reading a character -/

theorem plain_enter (before : Option Char) (c : Char) (pattern : Plain) :
    (enter before c pattern).plain = pattern := by
  induction pattern with
  | empty => rfl
  | look asked => rfl
  | one kind =>
      rw [enter]
      split
      · rfl
      · rfl
  | seq first second ofFirst ofSecond =>
      rw [enter, plain_sequence, ofFirst]
      split
      · rw [ofSecond]
      · rfl
  | alt left right ofLeft ofRight => rw [enter, plain_choice, ofLeft, ofRight]
  | star inner ofInner => rw [enter, plain_copies, ofInner]

/-- A pattern that begins with a character is left by what it matches behind that. -/
theorem leadsOut_enter_iff (before : Option Char) (c : Char) (pattern : Plain) (text : List Char)
    (after : Option Char) :
    (enter before c pattern).LeadsOut (some c) text after ↔
      pattern.Matches before (c :: text) after := by
  induction pattern generalizing text after with
  | empty =>
      rw [matches_empty_iff]
      exact iff_of_false not_false (List.cons_ne_nil c text)
  | look asked =>
      rw [matches_look_iff]
      exact iff_of_false not_false fun both => List.cons_ne_nil c text both.1
  | one kind =>
      rw [enter, matches_one_iff]
      split
      · next contains =>
        constructor
        · rintro rfl
          exact ⟨c, rfl, contains⟩
        · rintro ⟨other, whole, -⟩
          exact (List.cons.inj whole).2
      · next outside =>
        refine iff_of_false not_false ?_
        rintro ⟨other, whole, contains⟩
        rw [(List.cons.inj whole).1] at outside
        exact outside contains
  | seq first second ofFirst ofSecond =>
      have begin : (if first.matchesEmpty before (some c) then enter before c second
          else idle second).LeadsOut (some c) text after ↔
          first.Matches before [] (some c) ∧ second.Matches before (c :: text) after := by
        rw [← Plain.matchesEmpty_iff]
        split
        · next passes => rw [ofSecond, and_iff_right passes]
        · next passes => exact iff_of_false not_false fun both => passes both.1
      have rest : (if first.matchesEmpty before (some c) then enter before c second
          else idle second).plain = second := by
        split
        · exact plain_enter before c second
        · rfl
      rw [enter, leadsOut_sequence, LeadsOut, begin, rest, matches_seq_iff, exists_cut_cons_iff]
      apply or_congr Iff.rfl
      simp only [ofFirst, lastOr_cons]
  | alt left right ofLeft ofRight =>
      rw [enter, leadsOut_choice, LeadsOut, ofLeft, ofRight, matches_alt_iff]
  | star inner ofInner =>
      rw [enter, leadsOut_copies, LeadsOut, plain_enter, matches_star_cons_iff]
      simp only [ofInner]

theorem plain_read (before : Option Char) (c : Char) (entered : Bool) (marked : Marked) :
    (marked.read before c entered).plain = marked.plain := by
  induction marked generalizing entered with
  | idle inner =>
      rw [read]
      split
      · exact plain_enter before c inner
      · rfl
  | here kind =>
      rw [read]
      split
      · rfl
      · rfl
  | seq first second ofFirst ofSecond => rw [read, plain_sequence, ofFirst, ofSecond, plain]
  | alt left right ofLeft ofRight => rw [read, plain_choice, ofLeft, ofRight, plain]
  | star inner ofInner => rw [read, plain_copies, ofInner, plain]

/-- **Reading a character** moves the marks on: what leads out then is what led out before behind
the character, and what the pattern matches behind it if the pattern may begin there. -/
theorem leadsOut_read_iff (before : Option Char) (c : Char) (entered : Bool) (marked : Marked)
    (text : List Char) (after : Option Char) :
    (marked.read before c entered).LeadsOut (some c) text after ↔
      marked.LeadsOut before (c :: text) after ∨
        (entered = true ∧ marked.plain.Matches before (c :: text) after) := by
  induction marked generalizing entered text after with
  | idle inner =>
      rw [read, LeadsOut, false_or]
      split
      · next may => rw [leadsOut_enter_iff, and_iff_right may, plain]
      · next may => exact iff_of_false not_false fun both => may both.1
  | here kind =>
      rw [read, LeadsOut, or_iff_right (List.cons_ne_nil c text), plain, ← leadsOut_enter_iff,
        enter]
      cases entered with
      | false => exact iff_of_false not_false fun both => Bool.false_ne_true both.1
      | true => rw [Bool.true_and, and_iff_right rfl]
  | seq first second ofFirst ofSecond =>
      rw [read, leadsOut_sequence, LeadsOut, ofSecond, plain_read, LeadsOut, plain, matches_seq_iff,
        exists_cut_cons_iff, exists_cut_cons_iff, Bool.or_eq_true, Bool.and_eq_true, leaves_iff,
        matchesEmpty_iff]
      simp only [ofFirst, lastOr_cons, firstOr_cons, lastOr_nil]
      rw [exists_cut_or_iff]
      -- what passes the first part enters the second one, on either side
      grind
  | alt left right ofLeft ofRight =>
      rw [read, leadsOut_choice, LeadsOut, ofLeft, ofRight, LeadsOut, plain, matches_alt_iff,
        and_or_left]
      exact or_or_or_comm
  | star inner ofInner =>
      rw [read, leadsOut_copies, LeadsOut, plain_read, LeadsOut, plain, matches_star_cons_iff,
        exists_cut_cons_iff]
      simp only [ofInner, Bool.or_eq_true, leaves_iff, lastOr_cons, firstOr_cons, lastOr_nil,
        matches_star_cons_iff]
      rw [exists_cut_or_iff]
      grind

/-! ## Searching -/

/-- A search finds what leads out of the pattern from where it is marked, and what the pattern
matches from any position on. -/
theorem findIn_iff (before : Option Char) (marked : Marked) (text : List Char) :
    marked.findIn before text = true ↔
      (∃ left right, text = left ++ right ∧ marked.LeadsOut before left right.head?) ∨
        ∃ front rest, text = front ++ rest ∧ ∃ inner right, rest = inner ++ right ∧
          marked.plain.Matches (lastOr before front) inner right.head? := by
  induction text generalizing before marked with
  | nil =>
      rw [findIn, Bool.or_eq_true, leaves_iff, matchesEmpty_iff, exists_cut_nil_iff,
        exists_cut_nil_iff, exists_cut_nil_iff]
      rfl
  | cons c text ih =>
      rw [findIn, Bool.or_eq_true, Bool.or_eq_true, leaves_iff, matchesEmpty_iff, ih, plain_read,
        exists_cut_cons_iff, exists_cut_cons_iff, exists_cut_cons_iff]
      simp only [leadsOut_read_iff, lastOr_cons, lastOr_nil, List.head?_cons, true_and, and_or_left,
        exists_or]
      grind

end Marked

/-! ## Patterns without counts -/

/-- Every repetition stands for any number of copies. -/
def IsUncounted : Pattern → Prop
  | group _ inner => inner.IsUncounted
  | repeated inner least most _ => inner.IsUncounted ∧ least = 0 ∧ most = none
  | seq first second => first.IsUncounted ∧ second.IsUncounted
  | alt left right => left.IsUncounted ∧ right.IsUncounted
  | _ => True

namespace Plain

variable {before after : Option Char} {text : List Char}

theorem contains_one_iff (c other : Char) :
    (CharClass.one c).contains other.toNat = true ↔ other = c := by
  rw [CharClass.contains_one, decide_eq_true_iff]
  exact Char.toNat_inj

theorem matches_ofText_iff (literal : List Char) :
    (ofText literal).Matches before text after ↔ text = literal := by
  fun_induction ofText literal generalizing before text with
  | case1 => exact matches_empty_iff
  | case2 c =>
      rw [matches_one_iff]
      simp only [contains_one_iff]
      constructor
      · rintro ⟨other, rfl, rfl⟩
        rfl
      · rintro rfl
        exact ⟨c, rfl, rfl⟩
  | case3 c rest nonempty ih =>
      rw [matches_seq_iff]
      simp only [matches_one_iff, contains_one_iff, ih]
      constructor
      · rintro ⟨left, right, rfl, ⟨other, rfl, rfl⟩, rfl⟩
        rfl
      · rintro rfl
        exact ⟨[c], rest, rfl, ⟨c, rfl, rfl⟩, rfl⟩

/-- Any number of copies of what is matched alike is matched alike. -/
theorem matches_star_iff {inner : Pattern} {plain : Plain} {greedy : Bool}
    (alike : ∀ before text after, plain.Matches before text after ↔
      inner.Matches before text after) :
    (star plain).Matches before text after ↔
      (Pattern.repeated inner 0 none greedy).Matches before text after := by
  constructor
  · intro found
    generalize copies : star plain = pattern at found
    induction found with
    | empty | look | one | seq | left | right => contradiction
    | done before after => exact .done before after
    | more ofInner ofRest _ ofRestAgain =>
        cases copies
        exact .more nofun ((alike _ _ _).mp ofInner) (ofRestAgain rfl)
  · intro found
    generalize copies : Pattern.repeated inner 0 none greedy = pattern at found
    induction found with
    | empty | look | literal | one | group | seq | left | right => contradiction
    | done before after => exact .done before after
    | more room ofInner ofRest _ ofRestAgain =>
        cases copies
        exact .more ((alike _ _ _).mpr ofInner) (ofRestAgain rfl)

/-- Copies that are not counted need not be written out. -/
theorem matches_ofPattern_iff (limit : Nat) {pattern : Pattern} (uncounted : pattern.IsUncounted) :
    (ofPattern limit pattern).Matches before text after ↔ pattern.Matches before text after := by
  induction pattern generalizing before text after with
  | empty =>
      rw [ofPattern, matches_empty_iff]
      constructor
      · rintro rfl
        exact .empty before after
      · rintro ⟨⟩
        rfl
  | look asked =>
      rw [ofPattern, matches_look_iff]
      constructor
      · rintro ⟨rfl, holds⟩
        exact .look holds
      · rintro ⟨⟩
        exact ⟨rfl, ‹_›⟩
  | literal literal =>
      rw [ofPattern, matches_ofText_iff]
      constructor
      · rintro rfl
        exact .literal _ before after
      · rintro ⟨⟩
        rfl
  | one kind =>
      rw [ofPattern, matches_one_iff]
      constructor
      · rintro ⟨c, rfl, contains⟩
        exact .one before after contains
      · rintro ⟨⟩
        exact ⟨_, rfl, ‹_›⟩
  | group number inner ofInner =>
      rw [ofPattern, ofInner uncounted]
      constructor
      · exact .group
      · rintro ⟨⟩
        assumption
  | «repeated» inner least most greedy ofInner =>
      obtain ⟨within, rfl, rfl⟩ := uncounted
      rw [ofPattern, Nat.zero_min, copies]
      exact matches_star_iff fun before text after => ofInner within
  | seq first second ofFirst ofSecond =>
      rw [ofPattern, matches_seq_iff]
      simp only [ofFirst uncounted.1, ofSecond uncounted.2]
      constructor
      · rintro ⟨left, right, rfl, matchesFirst, matchesSecond⟩
        exact .seq matchesFirst matchesSecond
      · rintro ⟨⟩
        exact ⟨_, _, rfl, ‹_›, ‹_›⟩
  | alt left right ofLeft ofRight =>
      rw [ofPattern, matches_alt_iff, ofLeft uncounted.1, ofRight uncounted.2]
      constructor
      · rintro (found | found)
        · exact .left found
        · exact .right found
      · intro found
        cases found with
        | left found => exact Or.inl found
        | right found => exact Or.inr found

end Plain

/-- **Searches are exact.**  A pattern without counts is found in a text exactly if it matches
somewhere in it. -/
theorem matchesIn_iff {pattern : Pattern} (uncounted : pattern.IsUncounted) (text : List Char) :
    pattern.matchesIn text = true ↔ pattern.MatchesIn text := by
  rw [matchesIn, Marked.findIn_iff, MatchesIn]
  simp only [Marked.plain, Plain.matches_ofPattern_iff _ uncounted, lastOr_none]
  constructor
  · rintro (⟨left, right, -, leads⟩ | ⟨left, rest, rfl, inner, right, rfl, found⟩)
    · exact leads.elim
    · exact ⟨left, inner, right, (List.append_assoc _ _ _).symm, found⟩
  · rintro ⟨left, inner, right, rfl, found⟩
    exact Or.inr ⟨left, inner ++ right, List.append_assoc _ _ _, inner, right, rfl, found⟩

end Polystore.Pattern
