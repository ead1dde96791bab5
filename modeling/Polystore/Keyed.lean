/-!
# Keyed entries

Objects, collections and node contents are all lists of named entries kept in
ascending order of their names.  Names compare by code points, which is the
order of their UTF-8 bytes.

The reading operations look for the first entry of a name and the writing
operations keep at most one, so the view through `get?` needs no hypothesis on
the order of the list: `get?_insert` and `get?_erase` hold for every list.
-/

namespace Polystore

universe u

/-- Entries under names, in ascending order of the names. -/
abbrev Keyed (α : Type u) := List (String × α)

namespace Keyed

variable {α : Type u}

/-- The value stored under a name. -/
def get? (entries : Keyed α) (name : String) : Option α :=
  List.lookup name entries

/-- Whether some entry has the name. -/
def contains (entries : Keyed α) (name : String) : Bool :=
  (entries.get? name).isSome

/-- Store a value under a name, in place of the value stored there before. -/
def insert (name : String) (value : α) : Keyed α → Keyed α
  | [] => [(name, value)]
  | entry :: rest =>
      if name < entry.1 then (name, value) :: entry :: rest
      else if name = entry.1 then (name, value) :: rest
      else entry :: insert name value rest

/-- Remove what is stored under a name. -/
def erase (name : String) (entries : Keyed α) : Keyed α :=
  entries.filter fun entry => entry.1 ≠ name

/-- The names of the entries, in order. -/
def names (entries : Keyed α) : List String :=
  entries.map Prod.fst

/-- The stored values, in the order of their names. -/
def values (entries : Keyed α) : List α :=
  entries.map Prod.snd

/-- Replace the value stored under a name, if there is one. -/
def adjust (name : String) (change : α → α) (entries : Keyed α) : Keyed α :=
  entries.map fun entry =>
    if entry.1 = name then (entry.1, change entry.2) else entry

/-- Every name is smaller than the names after it. -/
def Sorted (entries : Keyed α) : Prop :=
  entries.Pairwise fun left right => left.1 < right.1

@[simp]
theorem get?_nil (name : String) : get? ([] : Keyed α) name = none :=
  rfl

theorem get?_cons (entry : String × α) (rest : Keyed α) (name : String) :
    get? (entry :: rest) name =
      if name = entry.1 then some entry.2 else get? rest name := by
  obtain ⟨key, value⟩ := entry
  by_cases h : name = key
  · subst h
    simp [get?]
  · have hbeq : (name == key) = false := by simpa using h
    simp [get?, List.lookup_cons, hbeq, h]

/-- A stored value is read back. -/
@[simp]
theorem get?_insert_self (name : String) (value : α) (entries : Keyed α) :
    get? (insert name value entries) name = some value := by
  induction entries with
  | nil => simp [insert, get?_cons]
  | cons entry rest ih =>
      rw [insert]
      split
      · simp [get?_cons]
      · split
        · simp [get?_cons]
        · next hne => simp [get?_cons, hne, ih]

/-- Storing a value changes no other name. -/
theorem get?_insert_of_ne {name other : String} (value : α)
    (entries : Keyed α) (hne : other ≠ name) :
    get? (insert name value entries) other = get? entries other := by
  induction entries with
  | nil => simp [insert, get?_cons, hne]
  | cons entry rest ih =>
      rw [insert]
      split
      · simp [get?_cons, hne]
      · split
        · next heq => simp [get?_cons, ← heq, hne]
        · simp [get?_cons, ih]

theorem get?_insert (name other : String) (value : α) (entries : Keyed α) :
    get? (insert name value entries) other =
      if other = name then some value else get? entries other := by
  by_cases h : other = name
  · subst h
    simp
  · simp [get?_insert_of_ne value entries h, h]

theorem get?_erase (name other : String) (entries : Keyed α) :
    get? (erase name entries) other =
      if other = name then none else get? entries other := by
  induction entries with
  | nil => simp [erase]
  | cons entry rest ih =>
      have ih' : get? (rest.filter fun entry => entry.1 ≠ name) other =
          if other = name then none else get? rest other := ih
      rw [erase, List.filter_cons]
      by_cases hentry : entry.1 = name
      · simp only [hentry, ne_eq, not_true_eq_false, decide_false,
          Bool.false_eq_true, if_false]
        rw [ih', get?_cons, hentry]
        by_cases hother : other = name <;> simp [hother]
      · simp only [ne_eq, hentry, not_false_eq_true, decide_true, if_true]
        rw [get?_cons, ih', get?_cons]
        by_cases hother : other = entry.1
        · have : other ≠ name := fun h => hentry (hother ▸ h)
          simp [hother, hentry]
        · simp [hother]

theorem get?_adjust (name other : String) (change : α → α) (entries : Keyed α) :
    get? (adjust name change entries) other =
      (get? entries other).map fun value =>
        if other = name then change value else value := by
  induction entries with
  | nil => rfl
  | cons entry rest ih =>
      have ih' : get? (rest.map fun entry =>
          if entry.1 = name then (entry.1, change entry.2) else entry) other =
          (get? rest other).map fun value =>
            if other = name then change value else value := ih
      rw [adjust, List.map_cons, get?_cons, get?_cons, ih']
      by_cases hentry : entry.1 = name
      · by_cases hother : other = entry.1
        · simp [hentry, hother]
        · have hne : other ≠ name := fun h => hother (h.trans hentry.symm)
          simp [hentry, hne]
      · by_cases hother : other = entry.1 <;> simp [hentry, hother]

end Keyed

end Polystore
