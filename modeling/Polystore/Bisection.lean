/-!
# Bisection

Where a list passes from the items that have a property to those that have not is
found by halving: each step looks at one item and keeps one side of it.  Half the
items are left behind whatever the item is, so the number of steps depends on the
length alone.

On a list that has all items with the property first, `bisect` counts them.  On
another list it gives some place that the steps lead to.
-/

namespace Polystore

/-- Search `size` items from `base` on. -/
def bisectFrom {α : Type} (first : α → Bool) (items : Array α) (base size : Nat) : Nat :=
  if 1 < size then
    let middle := base + size / 2
    bisectFrom first items (if items[middle]?.any first then middle else base) (size - size / 2)
  else if items[base]?.any first then base + 1
  else base
termination_by size

/-- Where a list passes from items with a property to items without it. -/
def bisect {α : Type} (first : α → Bool) (items : List α) : Nat :=
  bisectFrom first items.toArray 0 items.length

/-- With exactly the first `count` items having the property, the search finds
their number if it lies in what is searched. -/
theorem bisectFrom_eq {α : Type} (first : α → Bool) (items : Array α) (count : Nat)
    (partitioned : ∀ i, i < items.size → items[i]?.any first = decide (i < count))
    (base size : Nat) (nonempty : 0 < size) (inside : base + size ≤ items.size)
    (least : base ≤ count) (most : count ≤ base + size) :
    bisectFrom first items base size = count := by
  induction size using Nat.strongRecOn generalizing base with
  | ind size ih =>
      rw [bisectFrom]
      split
      · next several =>
        have hmiddle := partitioned (base + size / 2) (by omega)
        simp only [hmiddle, decide_eq_true_eq]
        split
        · exact ih _ (by omega) _ (by omega) (by omega) (by omega) (by omega)
        · exact ih _ (by omega) _ (by omega) (by omega) (by omega) (by omega)
      · have hbase := partitioned base (by omega)
        simp only [hbase, decide_eq_true_eq]
        split <;> omega

/-- A list whose items with the property come first passes where they end. -/
theorem bisect_append {α : Type} (first : α → Bool) (before after : List α)
    (hbefore : ∀ item ∈ before, first item = true)
    (hafter : ∀ item ∈ after, first item = false) :
    bisect first (before ++ after) = before.length := by
  rcases Nat.eq_zero_or_pos (before ++ after).length with hempty | hpos
  · have hnil : before = [] ∧ after = [] := by
      simpa [List.length_append] using hempty
    simp [hnil, bisect, bisectFrom]
  · refine bisectFrom_eq first _ before.length ?_ 0 _ hpos (by simp) (Nat.zero_le _) (by simp)
    intro i hi
    rw [List.getElem?_toArray]
    by_cases hlt : i < before.length
    · rw [List.getElem?_append_left hlt, List.getElem?_eq_getElem hlt]
      simp [hlt, hbefore _ (List.getElem_mem hlt)]
    · have hle : before.length ≤ i := Nat.le_of_not_lt hlt
      have hlt' : i - before.length < after.length := by
        simp at hi
        omega
      rw [List.getElem?_append_right hle, List.getElem?_eq_getElem hlt']
      simp [hlt, hafter _ (List.getElem_mem hlt')]

end Polystore
