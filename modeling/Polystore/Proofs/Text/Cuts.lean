import Mathlib.Data.List.DropRight
import Mathlib.Data.List.Infix
import Polystore.Text.Blank
import Polystore.Text.Cut
import Polystore.Text.Integer

/-!
# Cuts of joined texts

Where a text is cut that is joined from two: a cut is not moved by a part that it is not looked
for in, and trimming reaches no further than the first and the last visible character.
-/

namespace Polystore.Text

/-! ## Cuts -/

variable {separator : Char}

/-- A first part without the separator stays before the first cut. -/
theorem cutFirst_append_of_not_mem {left : List Char} (absent : separator ∉ left)
    (right : List Char) :
    cutFirst separator (left ++ right) =
      (cutFirst separator right).map fun (before, after) => (left ++ before, after) := by
  cases found : cutFirst separator right with
  | none =>
      have missing := cutFirst_eq_none_iff.mp found
      exact cutFirst_eq_none_iff.mpr fun member => (List.mem_append.mp member).elim absent missing
  | some cut =>
      obtain ⟨rfl, hidden⟩ := eq_of_cutFirst found
      rw [← List.append_assoc]
      exact cutFirst_append (fun member => (List.mem_append.mp member).elim absent hidden) _

/-- Text behind the first cut does not move it. -/
theorem cutFirst_append_of_eq_some {left before after : List Char}
    (found : cutFirst separator left = some (before, after)) (right : List Char) :
    cutFirst separator (left ++ right) = some (before, after ++ right) := by
  obtain ⟨rfl, hidden⟩ := eq_of_cutFirst found
  rw [List.append_assoc, List.cons_append]
  exact cutFirst_append hidden _

/-- A text is cut where its last part begins, if that part has no separator. -/
theorem cutLast_append {after : List Char} (absent : separator ∉ after) (before : List Char) :
    cutLast separator (before ++ separator :: after) = some (before, after) := by
  induction before with
  | nil => rw [List.nil_append, cutLast, cutLast_eq_none_iff.mpr absent, if_pos rfl]
  | cons c rest ih => rw [List.cons_append, cutLast, ih]

/-- A last part without the separator stays behind the last cut. -/
theorem cutLast_append_of_not_mem {right : List Char} (absent : separator ∉ right)
    (left : List Char) :
    cutLast separator (left ++ right) =
      (cutLast separator left).map fun (before, after) => (before, after ++ right) := by
  cases found : cutLast separator left with
  | none =>
      have missing := cutLast_eq_none_iff.mp found
      exact cutLast_eq_none_iff.mpr fun member => (List.mem_append.mp member).elim missing absent
  | some cut =>
      obtain ⟨rfl, hidden⟩ := eq_of_cutLast found
      rw [List.append_assoc, List.cons_append]
      exact cutLast_append (fun member => (List.mem_append.mp member).elim hidden absent) _

/-- Text before the last cut does not move it. -/
theorem cutLast_append_of_eq_some {right before after : List Char}
    (found : cutLast separator right = some (before, after)) (left : List Char) :
    cutLast separator (left ++ right) = some (left ++ before, after) := by
  obtain ⟨rfl, hidden⟩ := eq_of_cutLast found
  rw [← List.append_assoc]
  exact cutLast_append hidden _

/-- There is no cut exactly when the mark is nowhere in the text. -/
theorem cutMark_eq_none_iff {mark text : List Char} :
    cutMark mark text = none ↔ ¬ mark <:+: text := by
  induction text with
  | nil => simp [cutMark]
  | cons c rest ih =>
      rw [cutMark, List.infix_cons_iff, not_or, ← ih, ← List.isPrefixOf_iff_prefix]
      split
      · next begins => simp [begins]
      · next starts => simp [starts]

/-- Text behind the first mark does not move the cut. -/
theorem cutMark_append_of_eq_some {mark : List Char} (marked : mark ≠ [])
    {left before after : List Char} (found : cutMark mark left = some (before, after))
    (right : List Char) :
    cutMark mark (left ++ right) = some (before, after ++ right) := by
  induction left generalizing before with
  | nil =>
      rw [cutMark, if_neg marked] at found
      contradiction
  | cons c rest ih =>
      rw [cutMark] at found
      split at found
      · next begins =>
        cases found
        have short : mark <+: c :: rest := List.isPrefixOf_iff_prefix.mp begins
        have longer : mark.isPrefixOf (c :: (rest ++ right)) = true :=
          List.isPrefixOf_iff_prefix.mpr (short.trans (List.prefix_append (c :: rest) right))
        rw [List.cons_append, cutMark, if_pos longer, ← List.cons_append,
          List.drop_append_of_le_length short.length_le]
      · next starts =>
        obtain ⟨⟨first, last⟩, cut, same⟩ := Option.map_eq_some_iff.mp found
        cases same
        -- The mark lies within the rest, so it is too short to reach into the text behind.
        have within : mark <:+: rest := by
          by_contra absent
          rw [cutMark_eq_none_iff.mpr absent] at cut
          contradiction
        have still : ¬ mark.isPrefixOf (c :: (rest ++ right)) = true := by
          intro begins
          refine starts (List.isPrefixOf_iff_prefix.mpr ?_)
          exact List.prefix_of_prefix_length_le (List.isPrefixOf_iff_prefix.mp begins)
            (List.prefix_append (c :: rest) right)
            (within.length_le.trans (Nat.le_succ rest.length))
        rw [List.cons_append, cutMark, if_neg still, ih cut]
        rfl

/-- A text without a slash is the scheme before the first scheme mark. -/
theorem cutMark_opening {scheme : List Char} (noSlash : '/' ∉ scheme) (rest : List Char) :
    cutMark [':', '/', '/'] (scheme ++ [':', '/', '/'] ++ rest) = some (scheme, rest) := by
  induction scheme with
  | nil => rfl
  | cons c tail ih =>
      rw [List.mem_cons, not_or] at noSlash
      have starts : ¬ [':', '/', '/'].isPrefixOf (c :: (tail ++ [':', '/', '/'] ++ rest)) := by
        cases tail with
        | nil => simp
        | cons second others =>
            have other : '/' ≠ second := fun same => noSlash.2 (same ▸ List.mem_cons_self)
            simp [other]
      rw [List.cons_append, List.cons_append, cutMark, if_neg starts, ih noSlash.2]
      rfl

/-! ## Pieces -/

/-- What stands before a separator and holds none is a piece. -/
theorem pieces_append {piece : List Char} (absent : separator ∉ piece) (rest : List Char) :
    pieces separator (piece ++ separator :: rest) = piece :: pieces separator rest := by
  induction piece with
  | nil => rw [List.nil_append, pieces, if_pos rfl]
  | cons c tail ih =>
      rw [List.mem_cons, not_or] at absent
      rw [List.cons_append, pieces, if_neg (Ne.symm absent.1), ih absent.2]

/-- Joined texts are cut where they were joined. -/
theorem pieces_join {texts : List (List Char)} (some : texts ≠ [])
    (absent : ∀ text ∈ texts, separator ∉ text) :
    pieces separator (join [separator] texts) = texts := by
  induction texts with
  | nil => contradiction
  | cons first rest ih =>
      rw [List.forall_mem_cons] at absent
      cases rest with
      | nil => exact pieces_of_not_mem absent.1
      | cons second others =>
          rw [join, List.append_assoc, List.singleton_append, pieces_append absent.1,
            ih (List.cons_ne_nil second others) absent.2]
          exact List.cons_ne_nil second others

/-! ## Trimming -/

/-- A visible character ends the blanks before it. -/
theorem dropWhile_append_cons {c : Char} (visible : isBlank c = false) (left right : List Char) :
    (left ++ c :: right).dropWhile isBlank = left.dropWhile isBlank ++ c :: right := by
  induction left with
  | nil => rw [List.nil_append, List.dropWhile_cons_of_neg (by simp [visible])]; rfl
  | cons first rest ih =>
      rw [List.cons_append, List.dropWhile_cons, List.dropWhile_cons]
      split
      · exact ih
      · rfl

/-- The text on either side of a visible character is trimmed at its own end. -/
theorem trim_append_cons {c : Char} (visible : isBlank c = false) (left right : List Char) :
    trim (left ++ c :: right) = left.dropWhile isBlank ++ c :: right.rdropWhile isBlank := by
  rw [trim, dropWhile_append_cons visible, List.reverse_append, List.reverse_cons,
    List.append_assoc, List.singleton_append, dropWhile_append_cons visible, List.rdropWhile,
    List.reverse_append, List.reverse_cons, List.reverse_reverse, List.append_assoc,
    List.singleton_append]

/-- Blanks around a text that holds none are trimmed off, and nothing else is. -/
theorem trim_padded {before text after : List Char} (blankBefore : ∀ c ∈ before, isBlank c = true)
    (visible : ∀ c ∈ text, isBlank c = false) (blankAfter : ∀ c ∈ after, isBlank c = true) :
    trim (before ++ text ++ after) = text := by
  rw [trim, List.append_assoc, List.dropWhile_append_of_pos blankBefore]
  cases text with
  | nil =>
      rw [List.nil_append, List.dropWhile_eq_nil_iff.mpr blankAfter]
      rfl
  | cons first rest =>
      have ends : (first :: rest).reverse.dropWhile isBlank = (first :: rest).reverse := by
        rw [List.dropWhile_eq_self_iff]
        intro some
        rw [Bool.not_eq_true]
        exact visible _ (List.mem_reverse.mp (List.getElem_mem some))
      have blankBehind : ∀ c ∈ after.reverse, isBlank c = true :=
        fun c member => blankAfter c (List.mem_reverse.mp member)
      rw [List.cons_append, List.dropWhile_cons_of_neg (by simp [visible first List.mem_cons_self]),
        ← List.cons_append, List.reverse_append, List.dropWhile_append_of_pos blankBehind, ends,
        List.reverse_reverse]

/-! ## Words -/

theorem readDigits_eq_none {c : Char} {text : List Char} (member : c ∈ text)
    (noDigit : digit? c = none) (value : Nat) : readDigits value text = none := by
  induction text generalizing value with
  | nil => contradiction
  | cons first rest ih =>
      rw [readDigits]
      rcases List.mem_cons.mp member with rfl | behind
      · rw [noDigit]
        rfl
      · cases digit? first with
        | none => rfl
        | some digit => exact ih behind _

/-- A text with a character that is neither a digit nor a plus sign is no word. -/
theorem readWord?_eq_none {c : Char} {text : List Char} (member : c ∈ text)
    (noDigit : digit? c = none) (noSign : c ≠ '+') : readWord? text = none := by
  have unread {digits : List Char} (within : c ∈ digits) : readNatural? digits = none := by
    cases digits with
    | nil => contradiction
    | cons first rest => exact readDigits_eq_none within noDigit 0
  by_cases signed : ∃ digits, text = '+' :: digits
  · obtain ⟨digits, rfl⟩ := signed
    rw [readWord?, unread ((List.mem_cons.mp member).resolve_left noSign)]
  · rw [readWord?, unread member]
    exact fun digits same => signed ⟨digits, same⟩

end Polystore.Text
