import Polystore.Sorting.Insertion

/-!
# Merging

Two lists in order are merged from both ends: so many items of the result are taken
from the front, and the others from the back.  For an order that is consistent the
result is the same wherever the two ways meet.  Under an order that contradicts itself
the two ways may take an item twice and pass over another.  A sort that finds this out
panics; here the way from the back goes on with what the way from the front has left,
and a merge always has its items.

A short list is sorted by merging its halves.
-/

namespace Polystore.Sorting

/-- Merge from the back, in front of what is merged already.  The two lists are given
from last to first. -/
def mergeBack {α : Type} (before : α → α → Bool) : List α → List α → List α → List α
  | [], rights, merged => rights.reverseAux merged
  | left :: lefts, [], merged => (left :: lefts).reverseAux merged
  | left :: lefts, right :: rights, merged =>
      if before right left then mergeBack before lefts (right :: rights) (left :: merged)
      else mergeBack before (left :: lefts) rights (right :: merged)
termination_by lefts rights => lefts.length + rights.length

/-- Merge two lists, so many items from the front and the others from the back. -/
def merge {α : Type} (before : α → α → Bool) : Nat → List α → List α → List α
  | 0, lefts, rights => mergeBack before lefts.reverse rights.reverse []
  | _ + 1, [], rights => rights
  | _ + 1, left :: lefts, [] => left :: lefts
  | front + 1, left :: lefts, right :: rights =>
      if before right left then right :: merge before front (left :: lefts) rights
      else left :: merge before front lefts (right :: rights)

/-- Merge two lists from the end at which the shorter one lies. -/
def mergeFromShorter {α : Type} (before : α → α → Bool) (lefts rights : List α) : List α :=
  merge before (if lefts.length ≤ rights.length then lefts.length + rights.length else 0)
    lefts rights

/-- Sort four items: two pairs, of which the first item is taken from the front and the
others from the back. -/
def sortFour {α : Type} (before : α → α → Bool) (items : List α) : List α :=
  merge before 1 (insertionSort before (items.take 2)) (insertionSort before (items.drop 2))

/-- Sort one half of some items: those after the first four are inserted, and those
after the first one if there are fewer than eight in both halves. -/
def sortHalf {α : Type} (before : α → α → Bool) (both : Nat) (items : List α) : List α :=
  if 8 ≤ both then insertAll before (sortFour before (items.take 4)) (items.drop 4)
  else insertionSort before items

/-- Sort a short list by its halves, merged from both ends up to the middle. -/
def sortHalves {α : Type} (before : α → α → Bool) (items : List α) : List α :=
  let middle := items.length / 2
  merge before middle (sortHalf before items.length (items.take middle))
    (sortHalf before items.length (items.drop middle))

theorem mergeBack_perm {α : Type} (before : α → α → Bool) (lefts rights merged : List α) :
    (mergeBack before lefts rights merged).Perm (lefts ++ rights ++ merged) := by
  fun_induction mergeBack before lefts rights merged with
  | case1 rights merged =>
      rw [List.reverseAux_eq, List.nil_append]
      exact (List.reverse_perm rights).append_right merged
  | case2 left lefts merged =>
      rw [List.reverseAux_eq, List.append_nil]
      exact (List.reverse_perm _).append_right merged
  | case3 left lefts right rights merged _ ih =>
      exact ih.trans List.perm_middle
  | case4 left lefts right rights merged _ ih =>
      refine ih.trans (List.perm_middle.trans ?_)
      rw [List.append_assoc, List.append_assoc, List.cons_append]
      have hmiddle : (left :: lefts ++ right :: (rights ++ merged)).Perm
          (right :: (left :: lefts ++ (rights ++ merged))) := List.perm_middle
      exact hmiddle.symm

/-- Merging gives the items of both lists. -/
theorem merge_perm {α : Type} (before : α → α → Bool) (front : Nat) (lefts rights : List α) :
    (merge before front lefts rights).Perm (lefts ++ rights) := by
  fun_induction merge before front lefts rights with
  | case1 lefts rights =>
      refine (mergeBack_perm before _ _ _).trans ?_
      rw [List.append_nil]
      exact (List.reverse_perm lefts).append (List.reverse_perm rights)
  | case2 => exact .refl _
  | case3 => rw [List.append_nil]
  | case4 front left lefts right rights _ ih =>
      have hmiddle : (left :: lefts ++ right :: rights).Perm
          (right :: (left :: lefts ++ rights)) := List.perm_middle
      exact (ih.cons right).trans hmiddle.symm
  | case5 front left lefts right rights _ ih => exact ih.cons left

theorem mergeFromShorter_perm {α : Type} (before : α → α → Bool) (lefts rights : List α) :
    (mergeFromShorter before lefts rights).Perm (lefts ++ rights) :=
  merge_perm before _ lefts rights

theorem sortFour_perm {α : Type} (before : α → α → Bool) (items : List α) :
    (sortFour before items).Perm items := by
  refine (merge_perm before _ _ _).trans ?_
  refine ((insertionSort_perm before _).append (insertionSort_perm before _)).trans ?_
  rw [List.take_append_drop]

theorem sortHalf_perm {α : Type} (before : α → α → Bool) (both : Nat) (items : List α) :
    (sortHalf before both items).Perm items := by
  rw [sortHalf]
  split
  · refine (insertAll_perm before _ _).trans ?_
    refine ((sortFour_perm before _).append_right _).trans ?_
    rw [List.take_append_drop]
  · exact insertionSort_perm before items

theorem sortHalves_perm {α : Type} (before : α → α → Bool) (items : List α) :
    (sortHalves before items).Perm items := by
  refine (merge_perm before _ _ _).trans ?_
  refine ((sortHalf_perm before _ _).append (sortHalf_perm before _ _)).trans ?_
  rw [List.take_append_drop]

end Polystore.Sorting
