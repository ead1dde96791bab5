/-!
# Sorting by insertion

Items are placed one after the other, each behind the last of those already
placed that it does not belong before.  Two items of which neither belongs before
the other keep their order.

The order is given as a test whether one item belongs before another.  Nothing is
asked of it: whatever it answers, the result has the items that were there.
-/

namespace Polystore.Sorting

/-- Put an item behind the last of some items that it does not belong before.  The
items are given from last to first, and so is the result. -/
def place {α : Type} (before : α → α → Bool) (item : α) : List α → List α
  | [] => [item]
  | last :: earlier =>
      if before item last then last :: place before item earlier
      else item :: last :: earlier

/-- Place items among others that are in order. -/
def insertAll {α : Type} (before : α → α → Bool) (placed items : List α) : List α :=
  (items.foldl (fun placed item => place before item placed) placed.reverse).reverse

/-- Sort by placing item after item. -/
def insertionSort {α : Type} (before : α → α → Bool) (items : List α) : List α :=
  insertAll before [] items

theorem place_perm {α : Type} (before : α → α → Bool) (item : α) (placed : List α) :
    (place before item placed).Perm (item :: placed) := by
  induction placed with
  | nil => exact .refl _
  | cons last earlier ih =>
      rw [place]
      split
      · exact (ih.cons last).trans (.swap item last earlier)
      · exact .refl _

theorem foldl_place_perm {α : Type} (before : α → α → Bool) (items placed : List α) :
    (items.foldl (fun placed item => place before item placed) placed).Perm
      (items ++ placed) := by
  induction items generalizing placed with
  | nil => exact .refl _
  | cons item rest ih =>
      rw [List.foldl_cons]
      refine (ih _).trans ?_
      refine ((place_perm before item placed).append_left rest).trans ?_
      exact List.perm_middle

theorem insertAll_perm {α : Type} (before : α → α → Bool) (placed items : List α) :
    (insertAll before placed items).Perm (placed ++ items) := by
  refine (List.reverse_perm _).trans ?_
  refine (foldl_place_perm before items placed.reverse).trans ?_
  exact ((List.reverse_perm placed).append_left items).trans List.perm_append_comm

/-- Sorting by insertion gives the items that were there. -/
theorem insertionSort_perm {α : Type} (before : α → α → Bool) (items : List α) :
    (insertionSort before items).Perm items :=
  insertAll_perm before [] items

/-- An order that does not contradict itself: no two items belong before each other,
and an item that belongs before another one belongs before any third item, or the
third one before the other. -/
structure Consistent {α : Type} (before : α → α → Bool) : Prop where
  asymm (left right : α) : before left right = true → before right left = false
  between (left middle right : α) :
    before left right = true → before left middle = true ∨ before middle right = true

/-- The items from last to first, where no item belongs before an earlier one. -/
def Descending {α : Type} (before : α → α → Bool) (placed : List α) : Prop :=
  placed.Pairwise fun later earlier => before later earlier = false

theorem descending_place {α : Type} {before : α → α → Bool} (hbefore : Consistent before)
    (item : α) {placed : List α} (hplaced : Descending before placed) :
    Descending before (place before item placed) := by
  induction placed with
  | nil => exact List.pairwise_singleton _ _
  | cons last earlier ih =>
      obtain ⟨hlast, hearlier⟩ := List.pairwise_cons.mp hplaced
      rw [place]
      split
      · next hitem =>
        refine List.pairwise_cons.mpr ⟨fun other hother => ?_, ih hearlier⟩
        rcases List.mem_cons.mp ((place_perm before item earlier).mem_iff.mp hother) with
          rfl | hother
        · exact hbefore.asymm _ _ hitem
        · exact hlast other hother
      · next hitem =>
        refine List.pairwise_cons.mpr ⟨fun other hother => ?_, hplaced⟩
        rcases List.mem_cons.mp hother with rfl | hother
        · exact Bool.eq_false_iff.mpr hitem
        · refine Bool.eq_false_iff.mpr fun hfirst => ?_
          rcases hbefore.between item last other hfirst with hlt | hlt
          · exact hitem hlt
          · exact Bool.eq_false_iff.mp (hlast other hother) hlt

/-- Insertion leaves no item behind one that it belongs before. -/
theorem pairwise_insertionSort {α : Type} {before : α → α → Bool}
    (hbefore : Consistent before) (items : List α) :
    (insertionSort before items).Pairwise fun earlier later => before later earlier = false := by
  have hfold (items placed : List α) (hplaced : Descending before placed) :
      Descending before
        (items.foldl (fun placed item => place before item placed) placed) := by
    induction items generalizing placed with
    | nil => exact hplaced
    | cons item rest ih => exact ih _ (descending_place hbefore item hplaced)
  exact List.pairwise_reverse.mpr (hfold items [] List.Pairwise.nil)

end Polystore.Sorting
