/-!
# Cutting text at separators

Connection strings, dotted paths and file paths are all cut at single
characters.  Text is a list of characters here, so that each cut is a
structural recursion; the lemmas say that a cut loses nothing but the
separator and that the side it is searched from holds none.
-/

namespace Polystore.Text

/-- The pieces between separators: one more than there are separators. -/
def pieces (separator : Char) : List Char → List (List Char)
  | [] => [[]]
  | c :: rest =>
      if c = separator then [] :: pieces separator rest
      else match pieces separator rest with
        | [] => [[c]]
        | piece :: others => (c :: piece) :: others

/-- The text before and after the first separator. -/
def cutFirst (separator : Char) : List Char → Option (List Char × List Char)
  | [] => none
  | c :: rest =>
      if c = separator then some ([], rest)
      else (cutFirst separator rest).map fun (before, after) => (c :: before, after)

/-- The text before and after the last separator. -/
def cutLast (separator : Char) : List Char → Option (List Char × List Char)
  | [] => none
  | c :: rest =>
      match cutLast separator rest with
      | some (before, after) => some (c :: before, after)
      | none => if c = separator then some ([], rest) else none

/-- The text before and after the first occurrence of a mark. -/
def cutMark (mark : List Char) : List Char → Option (List Char × List Char)
  | [] => if mark = [] then some ([], []) else none
  | c :: rest =>
      if mark.isPrefixOf (c :: rest) then some ([], (c :: rest).drop mark.length)
      else (cutMark mark rest).map fun (before, after) => (c :: before, after)

/-- Pieces written one after the other with a separator between them. -/
def join (separator : List Char) : List (List Char) → List Char
  | [] => []
  | [piece] => piece
  | piece :: rest => piece ++ separator ++ join separator rest

theorem pieces_ne_nil (separator : Char) (text : List Char) :
    pieces separator text ≠ [] := by
  cases text with
  | nil => simp [pieces]
  | cons c rest =>
      rw [pieces]
      split
      · simp
      · split <;> simp

/-- A text without the separator is one piece. -/
theorem pieces_of_not_mem {separator : Char} {text : List Char} (absent : separator ∉ text) :
    pieces separator text = [text] := by
  induction text with
  | nil => rfl
  | cons c rest ih =>
      rw [List.mem_cons, not_or] at absent
      rw [pieces, if_neg (Ne.symm absent.1), ih absent.2]

/-- No piece holds the separator. -/
theorem not_mem_of_mem_pieces {separator : Char} {text piece : List Char}
    (h : piece ∈ pieces separator text) : separator ∉ piece := by
  induction text generalizing piece with
  | nil => simp_all [pieces]
  | cons c rest ih =>
      rw [pieces] at h
      split at h
      · rcases List.mem_cons.mp h with rfl | hrest
        · simp
        · exact ih hrest
      · next hne =>
        split at h
        · next heq => exact absurd heq (pieces_ne_nil separator rest)
        · next first others heq =>
          rcases List.mem_cons.mp h with rfl | hrest
          · have hfirst : separator ∉ first := ih (heq ▸ List.mem_cons_self)
            simp [hfirst, Ne.symm hne]
          · exact ih (heq ▸ List.mem_cons_of_mem _ hrest)

/-- A cut at the first separator loses only the separator. -/
theorem eq_of_cutFirst {separator : Char} {text before after : List Char}
    (h : cutFirst separator text = some (before, after)) :
    text = before ++ separator :: after ∧ separator ∉ before := by
  induction text generalizing before with
  | nil => simp [cutFirst] at h
  | cons c rest ih =>
      rw [cutFirst] at h
      split at h
      · next heq =>
        simp only [Option.some.injEq, Prod.mk.injEq] at h
        simp [← h.1, ← h.2, heq]
      · next hne =>
        obtain ⟨⟨first, last⟩, hcut, heq⟩ := Option.map_eq_some_iff.mp h
        simp only [Prod.mk.injEq] at heq
        obtain ⟨rfl, rfl⟩ := heq
        obtain ⟨hrest, hnot⟩ := ih hcut
        simp [hrest, hnot, Ne.symm hne]

/-- A text is cut where its first part ends, if that part has no separator. -/
theorem cutFirst_append {separator : Char} {before : List Char} (absent : separator ∉ before)
    (after : List Char) : cutFirst separator (before ++ separator :: after) = some (before, after) := by
  induction before with
  | nil => simp [cutFirst]
  | cons c rest ih =>
      rw [List.mem_cons, not_or] at absent
      rw [List.cons_append, cutFirst, if_neg (Ne.symm absent.1), ih absent.2]
      rfl

/-- There is no cut exactly when there is no separator. -/
theorem cutFirst_eq_none_iff {separator : Char} {text : List Char} :
    cutFirst separator text = none ↔ separator ∉ text := by
  induction text with
  | nil => simp [cutFirst]
  | cons c rest ih =>
      rw [cutFirst]
      split
      · next heq => simp [heq]
      · next hne => simp [ih, Ne.symm hne]

/-- There is no last cut exactly when there is no separator. -/
theorem cutLast_eq_none_iff {separator : Char} {text : List Char} :
    cutLast separator text = none ↔ separator ∉ text := by
  induction text with
  | nil => simp [cutLast]
  | cons c rest ih =>
      rw [cutLast]
      split
      · next before after heq =>
        have : ¬ separator ∉ rest := fun hnot => by simp [ih.mpr hnot] at heq
        simp_all
      · next heq =>
        split
        · next hc => simp [hc]
        · next hne => simp [ih.mp heq, Ne.symm hne]

/-- A cut at the last separator loses only the separator. -/
theorem eq_of_cutLast {separator : Char} {text before after : List Char}
    (h : cutLast separator text = some (before, after)) :
    text = before ++ separator :: after ∧ separator ∉ after := by
  induction text generalizing before with
  | nil => simp [cutLast] at h
  | cons c rest ih =>
      rw [cutLast] at h
      split at h
      · next first last heq =>
        simp only [Option.some.injEq, Prod.mk.injEq] at h
        obtain ⟨rfl, rfl⟩ := h
        obtain ⟨hrest, hnot⟩ := ih heq
        exact ⟨by simp [← hrest], hnot⟩
      · next heq =>
        split at h
        · next hc =>
          simp only [Option.some.injEq, Prod.mk.injEq] at h
          obtain ⟨rfl, rfl⟩ := h
          exact ⟨by simp [hc], cutLast_eq_none_iff.mp heq⟩
        · simp at h

end Polystore.Text
