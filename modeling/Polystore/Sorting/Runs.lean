import Polystore.Sorting.Merging

/-!
# Sorting by runs

A list is cut into runs.  A stretch that rises or falls already is a run if it is
long enough; between such stretches the list is cut to a fixed length.  Neighbours
are then joined until one run is left.

Which neighbours are joined first follows from where the runs lie: the place between
two runs has a depth in the binary tree over the whole list, and deeper places are
joined first.  A run may stay unsorted while it is only joined with unsorted ones.
-/

namespace Polystore.Sorting

/-- Neighbouring items that are treated as one. -/
structure Run (α : Type) where
  items : List α
  sorted : Bool

namespace Run

/-- The items of a run in order, by a way to sort those of an unsorted one. -/
def settled {α : Type} (finish : List α → List α) (run : Run α) : List α :=
  if run.sorted then run.items else finish run.items

/-- Join two neighbours.  Two unsorted runs make an unsorted one. -/
def join {α : Type} (before : α → α → Bool) (finish : List α → List α)
    (left right : Run α) : Run α :=
  if left.sorted || right.sorted then
    { items := mergeFromShorter before (left.settled finish) (right.settled finish)
      sorted := true }
  else { items := left.items ++ right.items, sorted := false }

end Run

/-- How far a list goes on from its last item in one direction. -/
def stretch {α : Type} (goesOn : α → α → Bool) (last : α) : List α → Nat
  | [] => 0
  | next :: rest => if goesOn last next then stretch goesOn next rest + 1 else 0

/-- The least length of a stretch that is taken as a run, in a list of some length:
half of the list and at most 64, or near the square root in a long list. -/
def goodLength (length : Nat) : Nat :=
  if length ≤ 4096 then min (length - length / 2) 64
  else
    let root := Nat.pow 2 ((1 + length.log2) / 2)
    (root + length / root) / 2

/-- The longest list that is sorted by its halves. -/
def shortLength : Nat := 32

/-- Cut a list into runs.  Where no good stretch begins, an eager cut sorts a short
piece, and another leaves a piece of the good length unsorted. -/
def cutRuns {α : Type} (before : α → α → Bool) (eager : Bool) (good : Nat) :
    List α → List (Run α)
  | [] => []
  | first :: rest =>
      let falling := rest.head?.any (before · first)
      let goesOn (last next : α) : Bool :=
        if falling then before next last else !before next last
      let more := stretch goesOn first rest
      if good ≤ more + 1 then
        let items := first :: rest.take more
        { items := if falling then items.reverse else items, sorted := true } ::
          cutRuns before eager good (rest.drop more)
      else if eager then
        { items := sortHalves before (first :: rest.take (shortLength - 1)), sorted := true } ::
          cutRuns before eager good (rest.drop (shortLength - 1))
      else
        { items := first :: rest.take (good - 1), sorted := false } ::
          cutRuns before eager good (rest.drop (good - 1))
termination_by items => items.length
decreasing_by all_goals simp only [List.length_drop, List.length_cons]; omega

/-- The depth of the place between two neighbours: how many leading bits the middles
of the two have in common, as parts of the whole list.  The scale makes the length of
the list fill 62 bits, and a middle is written by twice its distance. -/
def placeDepth (scale start middle stop : Nat) : Nat :=
  let difference := (scale * (start + middle)) ^^^ (scale * (middle + stop))
  if difference = 0 then 64 else 63 - difference.log2

/-- Join a run with those that wait on its left, nearest first, as long as the places
between them are at least as deep as the next place. -/
def joinDeeper {α : Type} (before : α → α → Bool) (finish : List α → List α) (depth : Nat) :
    List (Run α × Nat) → Run α → List (Run α × Nat) × Run α
  | [], run => ([], run)
  | (left, between) :: waiting, run =>
      if depth ≤ between then
        joinDeeper before finish depth waiting (left.join before finish run)
      else ((left, between) :: waiting, run)

/-- Join all runs: those that wait on the left, one that ends at a place, and those
after it. -/
def joinRuns {α : Type} (before : α → α → Bool) (finish : List α → List α) (scale : Nat) :
    List (Run α × Nat) → Run α → Nat → List (Run α) → Run α
  | waiting, run, _, [] => (joinDeeper before finish 0 waiting run).2
  | waiting, run, stop, next :: rest =>
      let nextStop := stop + next.items.length
      let depth := placeDepth scale (stop - run.items.length) stop nextStop
      let (waiting, joined) := joinDeeper before finish depth waiting run
      joinRuns before finish scale ((joined, depth) :: waiting) next nextStop rest

/-- Sort by runs, with a way to sort what is left unsorted. -/
def sortRuns {α : Type} (before : α → α → Bool) (finish : List α → List α) (eager : Bool)
    (items : List α) : List α :=
  let scale := (Nat.pow 2 62 + items.length - 1) / items.length
  match cutRuns before eager (goodLength items.length) items with
  | [] => []
  | run :: rest =>
      (joinRuns before finish scale [] run run.items.length rest).settled finish

/-- The items of runs, from the first run to the last. -/
def itemsOf {α : Type} (runs : List (Run α)) : List α :=
  runs.flatMap Run.items

/-- The items of runs that wait, which are kept from the last run to the first. -/
def itemsWaiting {α : Type} (waiting : List (Run α × Nat)) : List α :=
  itemsOf (waiting.map Prod.fst)

theorem itemsOf_cons {α : Type} (run : Run α) (runs : List (Run α)) :
    itemsOf (run :: runs) = run.items ++ itemsOf runs :=
  rfl

theorem itemsWaiting_cons {α : Type} (left : Run α) (depth : Nat)
    (waiting : List (Run α × Nat)) :
    itemsWaiting ((left, depth) :: waiting) = left.items ++ itemsWaiting waiting :=
  rfl

theorem Run.settled_perm {α : Type} {finish : List α → List α}
    (hfinish : ∀ items, (finish items).Perm items) (run : Run α) :
    (run.settled finish).Perm run.items := by
  rw [Run.settled]
  split
  · exact .refl _
  · exact hfinish run.items

theorem Run.join_perm {α : Type} (before : α → α → Bool) {finish : List α → List α}
    (hfinish : ∀ items, (finish items).Perm items) (left right : Run α) :
    (left.join before finish right).items.Perm (left.items ++ right.items) := by
  rw [Run.join]
  split
  · exact (mergeFromShorter_perm before _ _).trans
      ((left.settled_perm hfinish).append (right.settled_perm hfinish))
  · exact .refl _

theorem cutRuns_perm {α : Type} (before : α → α → Bool) (eager : Bool) (good : Nat)
    (items : List α) : (itemsOf (cutRuns before eager good items)).Perm items := by
  fun_induction cutRuns before eager good items with
  | case1 => exact .refl _
  | case2 first rest falling goesOn more _ run ih =>
      rw [itemsOf_cons]
      have hrun : (if falling then run.reverse else run).Perm run := by
        split
        · exact List.reverse_perm run
        · exact .refl _
      refine (hrun.append ih).trans ?_
      rw [List.cons_append, List.take_append_drop]
  | case3 first rest falling goesOn more _ _ ih =>
      rw [itemsOf_cons]
      refine ((sortHalves_perm before _).append ih).trans ?_
      rw [List.cons_append, List.take_append_drop]
  | case4 first rest falling goesOn more _ _ ih =>
      rw [itemsOf_cons]
      refine (ih.append_left _).trans ?_
      rw [List.cons_append, List.take_append_drop]

theorem joinDeeper_perm {α : Type} (before : α → α → Bool) {finish : List α → List α}
    (hfinish : ∀ items, (finish items).Perm items) (depth : Nat)
    (waiting : List (Run α × Nat)) (run : Run α) :
    (itemsWaiting (joinDeeper before finish depth waiting run).1 ++
      (joinDeeper before finish depth waiting run).2.items).Perm
        (itemsWaiting waiting ++ run.items) := by
  fun_induction joinDeeper before finish depth waiting run with
  | case1 => exact .refl _
  | case2 left between waiting run _ ih =>
      refine ih.trans (((left.join_perm before hfinish run).append_left _).trans ?_)
      rw [← List.append_assoc]
      refine List.Perm.append_right _ ?_
      rw [itemsWaiting_cons]
      exact List.perm_append_comm
  | case3 => exact .refl _

theorem joinDeeper_zero {α : Type} (before : α → α → Bool) (finish : List α → List α)
    (waiting : List (Run α × Nat)) (run : Run α) :
    (joinDeeper before finish 0 waiting run).1 = [] := by
  fun_induction joinDeeper before finish 0 waiting run with
  | case1 => rfl
  | case2 _ _ _ _ _ ih => exact ih
  | case3 _ between _ _ hdeep => exact absurd (Nat.zero_le between) hdeep

theorem joinRuns_perm {α : Type} (before : α → α → Bool) {finish : List α → List α}
    (hfinish : ∀ items, (finish items).Perm items) (scale : Nat)
    (waiting : List (Run α × Nat)) (run : Run α) (stop : Nat) (runs : List (Run α)) :
    (joinRuns before finish scale waiting run stop runs).items.Perm
      (itemsWaiting waiting ++ run.items ++ itemsOf runs) := by
  induction runs generalizing waiting run stop with
  | nil =>
      have h := joinDeeper_perm before hfinish 0 waiting run
      rw [joinDeeper_zero] at h
      rw [joinRuns, itemsOf, List.flatMap_nil, List.append_nil]
      exact h
  | cons next rest ih =>
      rw [joinRuns]
      refine (ih _ _ _).trans ?_
      generalize placeDepth scale _ stop _ = depth
      rw [itemsOf_cons, ← List.append_assoc]
      refine List.Perm.append_right _ (List.Perm.append_right _ ?_)
      refine List.Perm.trans ?_ (joinDeeper_perm before hfinish depth waiting run)
      rw [itemsWaiting_cons]
      exact List.perm_append_comm

/-- Sorting by runs gives the items that were there. -/
theorem sortRuns_perm {α : Type} (before : α → α → Bool) {finish : List α → List α}
    (hfinish : ∀ items, (finish items).Perm items) (eager : Bool) (items : List α) :
    (sortRuns before finish eager items).Perm items := by
  have hcut := cutRuns_perm before eager (goodLength items.length) items
  rw [sortRuns]
  split
  · next hnone =>
      rw [hnone] at hcut
      exact hcut
  · next run rest hsome =>
      rw [hsome] at hcut
      refine (Run.settled_perm hfinish _).trans ?_
      refine (joinRuns_perm before hfinish _ _ _ _ _).trans ?_
      simpa [itemsWaiting, itemsOf] using hcut

end Polystore.Sorting
