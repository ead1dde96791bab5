import Polystore.Pattern.Expression
import Polystore.Proofs.Pattern.Search

/-!
# Patterns one after the other

A list of patterns matches what can be cut into texts that its members match in turn.  Putting
the members together as a sequence takes empty parts out and joins texts that follow each other,
and none of this changes what is matched.
-/

namespace Polystore.Pattern

/-- A text is cut into what the patterns of a list match, each between what stands beside it. -/
def InTurn : List Pattern → Option Char → List Char → Option Char → Prop
  | [], _, text, _ => text = []
  | pattern :: rest, before, text, after =>
      ∃ left right, text = left ++ right ∧ pattern.Matches before left (firstOr right after) ∧
        InTurn rest (lastOr before left) right after

variable {before after : Option Char} {text : List Char}

theorem lastOr_append (before : Option Char) (left right : List Char) :
    lastOr before (left ++ right) = lastOr (lastOr before left) right := by
  rw [lastOr, lastOr, lastOr, List.getLast?_append, Option.or_assoc]

theorem firstOr_append (left right : List Char) (after : Option Char) :
    firstOr (left ++ right) after = firstOr left (firstOr right after) := by
  cases left with
  | nil => rfl
  | cons c rest => rfl

theorem inTurn_cons_iff (pattern : Pattern) (rest : List Pattern) :
    InTurn (pattern :: rest) before text after ↔ ∃ left right, text = left ++ right ∧
      pattern.Matches before left (firstOr right after) ∧
        InTurn rest (lastOr before left) right after :=
  Iff.rfl

theorem inTurn_singleton_iff (pattern : Pattern) :
    InTurn [pattern] before text after ↔ pattern.Matches before text after := by
  rw [inTurn_cons_iff]
  constructor
  · rintro ⟨left, right, rfl, found, rfl⟩
    rwa [List.append_nil]
  · intro found
    exact ⟨text, [], (List.append_nil text).symm, found, rfl⟩

theorem inTurn_append_iff (patterns more : List Pattern) :
    InTurn (patterns ++ more) before text after ↔ ∃ left right, text = left ++ right ∧
      InTurn patterns before left (firstOr right after) ∧
        InTurn more (lastOr before left) right after := by
  induction patterns generalizing before text with
  | nil =>
      constructor
      · intro found
        exact ⟨[], text, rfl, rfl, found⟩
      · rintro ⟨left, right, rfl, rfl, found⟩
        exact found
  | cons pattern rest ih =>
      rw [List.cons_append, inTurn_cons_iff]
      simp only [ih, inTurn_cons_iff]
      constructor
      · rintro ⟨left, _, rfl, found, middle, right, rfl, inRest, inMore⟩
        rw [firstOr_append] at found
        rw [← lastOr_append] at inMore
        exact ⟨left ++ middle, right, (List.append_assoc _ _ _).symm,
          ⟨left, middle, rfl, found, inRest⟩, inMore⟩
      · rintro ⟨_, right, rfl, ⟨left, middle, rfl, found, inRest⟩, inMore⟩
        rw [← firstOr_append] at found
        rw [lastOr_append] at inMore
        exact ⟨left, middle ++ right, List.append_assoc _ _ _, found, middle, right, rfl, inRest,
          inMore⟩

theorem matches_seq_iff (first second : Pattern) :
    (seq first second).Matches before text after ↔ ∃ left right, text = left ++ right ∧
      first.Matches before left (firstOr right after) ∧
        second.Matches (lastOr before left) right after := by
  constructor
  · rintro ⟨⟩
    exact ⟨_, _, rfl, ‹_›, ‹_›⟩
  · rintro ⟨left, right, rfl, ofFirst, ofSecond⟩
    exact .seq ofFirst ofSecond

theorem matches_literal_iff (literal : List Char) :
    (Pattern.literal literal).Matches before text after ↔ text = literal := by
  constructor
  · rintro ⟨⟩
    rfl
  · rintro rfl
    exact .literal _ before after

/-- The parts of a pattern in turn match what the pattern matches. -/
theorem inTurn_parts_iff (pattern : Pattern) :
    InTurn pattern.parts before text after ↔ pattern.Matches before text after := by
  induction pattern generalizing before text with
  | seq first second _ ofSecond =>
      rw [parts, inTurn_cons_iff, matches_seq_iff]
      simp only [ofSecond]
  | empty | look | literal | one | group | «repeated» | alt => exact inTurn_singleton_iff _

theorem inTurn_flatMap_parts_iff (patterns : List Pattern) :
    InTurn (patterns.flatMap parts) before text after ↔ InTurn patterns before text after := by
  induction patterns generalizing before text with
  | nil => exact Iff.rfl
  | cons pattern rest ih =>
      rw [List.flatMap_cons, inTurn_append_iff, inTurn_cons_iff]
      simp only [inTurn_parts_iff, ih]

/-- A part in front of a list is matched first, even if it is joined to what follows. -/
theorem inTurn_prepend_iff (part : Pattern) (rest : List Pattern) :
    InTurn (prepend part rest) before text after ↔ InTurn (part :: rest) before text after := by
  unfold prepend
  split
  · rw [inTurn_cons_iff]
    constructor
    · intro found
      exact ⟨[], text, rfl, .empty _ _, found⟩
    · rintro ⟨left, right, rfl, ⟨⟩, found⟩
      exact found
  · next literal more others =>
    simp only [inTurn_cons_iff, matches_literal_iff]
    constructor
    · rintro ⟨_, right, rfl, rfl, found⟩
      rw [lastOr_append] at found
      exact ⟨literal, more ++ right, List.append_assoc _ _ _, rfl, more, right, rfl, rfl, found⟩
    · rintro ⟨_, _, rfl, rfl, _, right, rfl, rfl, found⟩
      rw [← lastOr_append] at found
      exact ⟨_, right, (List.append_assoc _ _ _).symm, rfl, found⟩
  · exact Iff.rfl

/-- What holds of texts and of some patterns holds of these patterns when texts are joined. -/
theorem forall_mem_foldr_prepend {holds : Pattern → Prop} {patterns : List Pattern}
    (ofText : ∀ text, holds (.literal text)) (all : ∀ pattern ∈ patterns, holds pattern) :
    ∀ pattern ∈ patterns.foldr prepend [], holds pattern := by
  induction patterns with
  | nil => exact List.forall_mem_nil _
  | cons part rest ih =>
      rw [List.forall_mem_cons] at all
      have others := ih all.2
      rw [List.foldr_cons]
      generalize rest.foldr prepend [] = joined at others ⊢
      unfold prepend
      split
      · exact others
      · rw [List.forall_mem_cons] at others ⊢
        exact ⟨ofText _, others.2⟩
      · exact List.forall_mem_cons.mpr ⟨all.1, others⟩

theorem inTurn_foldr_prepend_iff (patterns : List Pattern) :
    InTurn (patterns.foldr prepend []) before text after ↔ InTurn patterns before text after := by
  induction patterns generalizing before text with
  | nil => exact Iff.rfl
  | cons pattern rest ih =>
      rw [List.foldr_cons, inTurn_prepend_iff, inTurn_cons_iff, inTurn_cons_iff]
      simp only [ih]

theorem matches_chain_iff (patterns : List Pattern) :
    (chain patterns).Matches before text after ↔ InTurn patterns before text after := by
  fun_induction chain patterns generalizing before text with
  | case1 =>
      constructor
      · rintro ⟨⟩
        rfl
      · rintro rfl
        exact .empty before after
  | case2 only => exact (inTurn_singleton_iff only).symm
  | case3 first rest _ ih =>
      rw [matches_seq_iff, inTurn_cons_iff]
      simp only [ih]

/-- A sequence matches what its members match in turn. -/
theorem matches_ofList_iff (patterns : List Pattern) :
    (ofList patterns).Matches before text after ↔ InTurn patterns before text after := by
  rw [ofList, matches_chain_iff, inTurn_foldr_prepend_iff, inTurn_flatMap_parts_iff]

/-! ## Sequences between both ends -/

theorem inTurn_look_cons_iff (asked : Look) (rest : List Pattern) :
    InTurn (look asked :: rest) before text after ↔
      asked.holds before (firstOr text after) = true ∧ InTurn rest before text after := by
  rw [inTurn_cons_iff]
  constructor
  · rintro ⟨left, right, rfl, ⟨⟩, found⟩
    exact ⟨‹_›, found⟩
  · rintro ⟨holds, found⟩
    exact ⟨[], text, rfl, .look holds, found⟩

/-- A sequence that begins at the start of a text and ends at its end is found in a text exactly
if it matches all of it. -/
theorem matchesIn_ofList_iff (patterns : List Pattern) (text : List Char) :
    (ofList (look .textStart :: (patterns ++ [look .textEnd]))).MatchesIn text ↔
      InTurn patterns none text none := by
  rw [MatchesIn]
  simp only [matches_ofList_iff, inTurn_look_cons_iff, inTurn_append_iff]
  constructor
  · rintro ⟨left, _, right, rfl, starts, inner, rest, rfl, found, ends, rfl⟩
    have front : left = [] := List.getLast?_eq_none_iff.mp (Option.isNone_iff_eq_none.mp starts)
    have back : right = [] := List.head?_eq_none_iff.mp (Option.isNone_iff_eq_none.mp ends)
    subst front back
    rw [List.append_nil, List.nil_append, List.append_nil]
    exact found
  · intro found
    exact ⟨[], text, [], (List.append_nil _).symm, rfl, text, [], (List.append_nil _).symm, found,
      rfl, rfl⟩

/-! ## Counts -/

theorem isUncounted_of_mem_parts {pattern part : Pattern} (uncounted : pattern.IsUncounted)
    (member : part ∈ pattern.parts) : part.IsUncounted := by
  induction pattern with
  | seq first second _ ofSecond =>
      rcases List.mem_cons.mp member with rfl | member
      · exact uncounted.1
      · exact ofSecond uncounted.2 member
  | empty | look | literal | one | group | «repeated» | alt =>
      rw [List.mem_singleton.mp member]
      exact uncounted

theorem isUncounted_chain {patterns : List Pattern}
    (uncounted : ∀ pattern ∈ patterns, pattern.IsUncounted) : (chain patterns).IsUncounted := by
  fun_induction chain patterns with
  | case1 => trivial
  | case2 only => exact uncounted only List.mem_cons_self
  | case3 first rest _ ih =>
      rw [List.forall_mem_cons] at uncounted
      exact ⟨uncounted.1, ih uncounted.2⟩

theorem isUncounted_ofList {patterns : List Pattern}
    (uncounted : ∀ pattern ∈ patterns, pattern.IsUncounted) : (ofList patterns).IsUncounted := by
  apply isUncounted_chain
  refine forall_mem_foldr_prepend (fun _ => trivial) ?_
  intro part member
  obtain ⟨pattern, within, member⟩ := List.mem_flatMap.mp member
  exact isUncounted_of_mem_parts (uncounted pattern within) member

end Polystore.Pattern
