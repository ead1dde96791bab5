import Polystore.Sorting.Runs

/-!
# Sorting by pivots

A list is split by one of its items, the pivot, into what belongs before it and what
does not, and the two sides are sorted.  A pivot that does not belong after the pivot
of the side it stands on, or that nothing belongs before, has equals instead: these are
put in front and need no further sorting.

The number of splits in a row is limited, and a list that is still long afterwards is
sorted by runs.
-/

namespace Polystore.Sorting

/-- The middle one of three places, by a test whether the item at one place belongs
before that at another. -/
def middleOf (before : Nat → Nat → Bool) (first second third : Nat) : Nat :=
  if before first second = before first third then
    if before second third = before first second then second else third
  else first

/-- A place whose item is likely to lie in the middle of so many items from a start
on: the middle one of three places, each found in the same way among an eighth of
the items if there are many. -/
def likelyMiddle (before : Nat → Nat → Bool) (start size : Nat) : Nat :=
  let part := size / 8
  if 64 ≤ size then
    middleOf before (likelyMiddle before start part)
      (likelyMiddle before (start + 4 * part) part)
      (likelyMiddle before (start + 7 * part) part)
  else middleOf before start (start + 4 * part) (start + 7 * part)
termination_by size
decreasing_by all_goals omega

/-- The place of the pivot in a list. -/
def pivotPlace {α : Type} (before : α → α → Bool) (items : List α) : Nat :=
  let items := items.toArray
  likelyMiddle
    (fun left right =>
      match items[left]?, items[right]? with
      | some left, some right => before left right
      | _, _ => false)
    0 items.size

/-- Sort by pivots, with so many splits in a row at most.  The bound is the pivot that
nothing in the list belongs before, if there is one. -/
def sortPivots {α : Type} (before : α → α → Bool) (bound : Option α) :
    Nat → List α → List α
  | splits, items =>
      if items.length ≤ shortLength then sortHalves before items
      else
        match splits with
        | 0 => sortRuns before (sortHalves before) true items
        | splits + 1 =>
            let place := pivotPlace before items
            match items.drop place with
            | [] => sortHalves before items
            | pivot :: later =>
                let earlier := items.take place
                let smaller := (earlier ++ later).filter (before · pivot)
                if bound.any (!before · pivot) || smaller.isEmpty then
                  earlier.filter (!before pivot ·) ++ pivot :: later.filter (!before pivot ·) ++
                    sortPivots before none splits ((earlier ++ later).filter (before pivot))
                else
                  sortPivots before bound splits smaller ++
                    sortPivots before (some pivot) splits
                      (earlier.filter (!before · pivot) ++
                        pivot :: later.filter (!before · pivot))

/-- Sort what runs leave unsorted: by pivots, with twice as many splits in a row as the
length has bits after its first. -/
def sortUnsorted {α : Type} (before : α → α → Bool) (items : List α) : List α :=
  sortPivots before none (2 * items.length.log2) items

/-- What a test picks, and what it leaves with an item at its place, are the items that
were there. -/
theorem filter_perm {α : Type} (test : α → Bool) (earlier later : List α) (item : α) :
    ((earlier ++ later).filter test ++
      (earlier.filter (!test ·) ++ item :: later.filter (!test ·))).Perm
        (earlier ++ item :: later) := by
  have hsplit (items : List α) : (items.filter test ++ items.filter (!test ·)).Perm items := by
    induction items with
    | nil => exact .refl _
    | cons first rest ih =>
        cases h : test first
        · simpa [h] using List.perm_middle.trans (ih.cons first)
        · simpa [h] using ih.cons first
  refine (List.Perm.append_left _ List.perm_middle).trans (List.perm_middle.trans ?_)
  refine List.Perm.trans ?_ List.perm_middle.symm
  rw [← List.filter_append]
  exact (hsplit (earlier ++ later)).cons item

theorem sortPivots_perm {α : Type} (before : α → α → Bool) (bound : Option α) (splits : Nat)
    (items : List α) : (sortPivots before bound splits items).Perm items := by
  induction splits generalizing bound items with
  | zero =>
      rw [sortPivots]
      split
      · exact sortHalves_perm before items
      · exact sortRuns_perm before (sortHalves_perm before) true items
  | succ splits ih =>
      rw [sortPivots]
      split
      · exact sortHalves_perm before items
      · dsimp only
        split
        · exact sortHalves_perm before items
        · next pivot later hdrop =>
          have hitems : items.take (pivotPlace before items) ++ pivot :: later = items := by
            rw [← hdrop, List.take_append_drop]
          generalize items.take (pivotPlace before items) = earlier at hitems ⊢
          subst hitems
          split
          · refine (List.Perm.append_left _ (ih _ _)).trans (List.perm_append_comm.trans ?_)
            simpa using filter_perm (before pivot) earlier later pivot
          · exact ((ih _ _).append (ih _ _)).trans
              (filter_perm (before · pivot) earlier later pivot)

theorem sortUnsorted_perm {α : Type} (before : α → α → Bool) (items : List α) :
    (sortUnsorted before items).Perm items :=
  sortPivots_perm before none _ items

end Polystore.Sorting
