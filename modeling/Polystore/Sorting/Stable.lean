import Polystore.Sorting.Pivots

/-!
# Stable sorting

An order that is consistent on some items has one stable arrangement of them, and
insertion finds it.  An order may also contradict itself, as when two integers that
differ are both equal to one decimal.  A sort need not return then: it may panic.  If
it returns, the arrangement depends on the pairs that are compared: a short list is
sorted by insertion, and a longer one by runs.  The panics are left out here, so what
is told of sorted items holds of calls that return; that a call returns is told of
orders only that are consistent on the items.
-/

namespace Polystore.Sorting

/-- Whether the order is consistent on items that it has been used to arrange: no item
belongs before an earlier one, and two neighbours of which neither belongs before the
other are alike to all items after them. -/
def isGraded {α : Type} (before : α → α → Bool) : List α → Bool
  | first :: second :: rest =>
      (second :: rest).all (!before · first) &&
      rest.all (fun later =>
        before first later == (before first second || before second later)) &&
      isGraded before (second :: rest)
  | _ => true

/-- The longest list that is sorted by insertion under every order. -/
def insertedLength : Nat := 20

/-- The longest list whose runs are sorted as they are cut. -/
def eagerLength : Nat := 2 * shortLength

/-- Sort items; those of which neither belongs before the other keep their order. -/
def stableSort {α : Type} (before : α → α → Bool) (items : List α) : List α :=
  let inserted := insertionSort before items
  if items.length ≤ insertedLength || isGraded before inserted then inserted
  else sortRuns before (sortUnsorted before) (items.length ≤ eagerLength) items

/-- Sorting gives the items that were there. -/
theorem stableSort_perm {α : Type} (before : α → α → Bool) (items : List α) :
    (stableSort before items).Perm items := by
  rw [stableSort]
  split
  · exact insertionSort_perm before items
  · exact sortRuns_perm before (sortUnsorted_perm before) _ items

theorem isGraded_of_pairwise {α : Type} {before : α → α → Bool} (hbefore : Consistent before)
    (items : List α)
    (hitems : items.Pairwise fun earlier later => before later earlier = false) :
    isGraded before items = true := by
  fun_induction isGraded before items with
  | case1 first second rest ih =>
      obtain ⟨hfirst, hrest⟩ := List.pairwise_cons.mp hitems
      obtain ⟨hsecond, _⟩ := List.pairwise_cons.mp hrest
      simp only [Bool.and_eq_true, List.all_eq_true, beq_iff_eq]
      refine ⟨⟨fun later hlater => ?_, fun later hlater => ?_⟩, ih hrest⟩
      · rw [hfirst later hlater]
        rfl
      · rw [Bool.eq_iff_iff, Bool.or_eq_true]
        refine ⟨hbefore.between first second later, ?_⟩
        rintro (hlt | hlt)
        · exact (hbefore.between first later second hlt).resolve_right
            (Bool.eq_false_iff.mp (hsecond later hlater))
        · exact (hbefore.between second first later hlt).resolve_left
            (Bool.eq_false_iff.mp (hfirst second List.mem_cons_self))
  | case2 => rfl

end Polystore.Sorting
