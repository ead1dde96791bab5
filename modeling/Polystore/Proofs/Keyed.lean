import Polystore.Keyed

/-!
# Entries in order

Writing keeps the names of keyed entries in ascending order, so every name occurs
once, and the entries are what `get?` reads.
-/

namespace Polystore.Keyed

universe u

variable {α : Type u}

theorem sorted_nil : Sorted ([] : Keyed α) :=
  List.Pairwise.nil

theorem sorted_cons_iff (entry : String × α) (rest : Keyed α) :
    Sorted (entry :: rest) ↔ (∀ other ∈ rest, entry.1 < other.1) ∧ Sorted rest :=
  List.pairwise_cons

theorem mem_insert {entry : String × α} {name : String} {value : α} {entries : Keyed α}
    (member : entry ∈ insert name value entries) : entry = (name, value) ∨ entry ∈ entries := by
  induction entries with
  | nil => exact Or.inl (List.mem_singleton.mp member)
  | cons first rest ih =>
      rw [insert] at member
      split at member
      · exact List.mem_cons.mp member
      · split at member
        · rcases List.mem_cons.mp member with new | old
          · exact Or.inl new
          · exact Or.inr (List.mem_cons_of_mem _ old)
        · rcases List.mem_cons.mp member with old | later
          · exact Or.inr (List.mem_cons.mpr (Or.inl old))
          · rcases ih later with new | old
            · exact Or.inl new
            · exact Or.inr (List.mem_cons_of_mem _ old)

theorem sorted_insert {entries : Keyed α} (sorted : Sorted entries) (name : String) (value : α) :
    Sorted (insert name value entries) := by
  induction entries with
  | nil => exact List.pairwise_singleton _ _
  | cons first rest ih =>
      obtain ⟨least, restSorted⟩ := (sorted_cons_iff first rest).mp sorted
      rw [insert]
      split
      · next before =>
        refine (sorted_cons_iff _ _).mpr ⟨?_, sorted⟩
        intro other member
        rcases List.mem_cons.mp member with rfl | member
        · exact before
        · exact Std.lt_trans before (least other member)
      · next notBefore =>
        split
        · next same =>
          subst same
          exact (sorted_cons_iff _ _).mpr ⟨least, restSorted⟩
        · next differ =>
          refine (sorted_cons_iff _ _).mpr ⟨?_, ih restSorted⟩
          intro other member
          rcases mem_insert member with rfl | member
          · rcases Std.lt_trichotomy name first.1 with before | same | beyond
            · exact absurd before notBefore
            · exact absurd same differ
            · exact beyond
          · exact least other member

theorem sorted_erase {entries : Keyed α} (sorted : Sorted entries) (name : String) :
    Sorted (erase name entries) :=
  sorted.sublist List.filter_sublist

theorem sorted_adjust {entries : Keyed α} (sorted : Sorted entries) (name : String)
    (change : α → α) : Sorted (adjust name change entries) := by
  refine List.pairwise_map.mpr (sorted.imp ?_)
  intro left right before
  split <;> split <;> exact before

/-- The names of ordered entries differ. -/
theorem nodup_names {entries : Keyed α} (sorted : Sorted entries) : (names entries).Nodup := by
  rw [names, List.Nodup, List.pairwise_map]
  apply sorted.imp
  intro left right before same
  rw [same] at before
  exact Std.lt_irrefl before

/-- The entries are what `get?` reads. -/
theorem mem_iff_get?_eq_some {entries : Keyed α} (sorted : Sorted entries) (name : String)
    (value : α) : (name, value) ∈ entries ↔ get? entries name = some value := by
  induction entries with
  | nil => simp
  | cons first rest ih =>
      obtain ⟨least, restSorted⟩ := (sorted_cons_iff first rest).mp sorted
      rw [get?_cons, List.mem_cons]
      by_cases same : name = first.1
      · have absent : (name, value) ∉ rest := by
          intro member
          exact Std.lt_irrefl (same ▸ least _ member)
        rw [if_pos same, or_iff_left absent, Option.some.injEq, Prod.ext_iff]
        exact ⟨fun equal => equal.2.symm, fun equal => ⟨same, equal.symm⟩⟩
      · have differ : (name, value) ≠ first := fun equal => same (congrArg Prod.fst equal)
        rw [if_neg same, or_iff_right differ]
        exact ih restSorted

/-- Ordered entries are told by what `get?` reads. -/
theorem eq_of_get?_eq {entries others : Keyed α} (sorted : Sorted entries)
    (otherSorted : Sorted others) (same : ∀ name, get? entries name = get? others name) :
    entries = others := by
  have nodup {listed : Keyed α} (ordered : Sorted listed) : listed.Nodup := by
    apply ordered.imp
    rintro left _ before rfl
    exact Std.lt_irrefl before
  have permuted : entries.Perm others := by
    refine (List.perm_ext_iff_of_nodup (nodup sorted) (nodup otherSorted)).mpr ?_
    rintro ⟨name, value⟩
    rw [mem_iff_get?_eq_some sorted, mem_iff_get?_eq_some otherSorted, same]
  refine permuted.eq_of_pairwise ?_ sorted otherSorted
  intro left right _ _ before after
  exact absurd (Std.lt_trans before after) Std.lt_irrefl

theorem erase_cons (entry : String × α) (rest : Keyed α) (name : String) :
    erase name (entry :: rest) =
      if name = entry.1 then erase name rest else entry :: erase name rest := by
  rw [erase, List.filter_cons, erase]
  by_cases same : name = entry.1
  · simp [same]
  · simp [same, Ne.symm same]

theorem erase_of_get?_eq_none {entries : Keyed α} {name : String}
    (absent : get? entries name = none) : erase name entries = entries := by
  induction entries with
  | nil => rfl
  | cons first rest ih =>
      rw [get?_cons] at absent
      split at absent
      · contradiction
      · next differ => rw [erase_cons, if_neg differ, ih absent]

/-- What is stored under a name is removed with the name. -/
theorem erase_insert (name : String) (value : α) (entries : Keyed α) :
    erase name (insert name value entries) = erase name entries := by
  induction entries with
  | nil => rw [insert, erase_cons, if_pos rfl]
  | cons first rest ih =>
      rw [insert]
      split
      · rw [erase_cons, if_pos rfl]
      · split
        · next same => rw [erase_cons, if_pos rfl, erase_cons, if_pos same]
        · next differ => rw [erase_cons, if_neg differ, erase_cons, if_neg differ, ih]

/-- Of two values stored under a name, the later one is kept. -/
theorem insert_insert (name : String) (value other : α) (entries : Keyed α) :
    insert name value (insert name other entries) = insert name value entries := by
  induction entries with
  | nil => simp [insert]
  | cons first rest ih =>
      rw [insert, insert]
      split
      · simp [insert]
      · next notBefore =>
        split
        · simp [insert]
        · next differ => rw [insert, if_neg notBefore, if_neg differ, ih]

/-- Storing what is stored changes nothing. -/
theorem insert_of_get?_eq_some {entries : Keyed α} (sorted : Sorted entries) {name : String}
    {value : α} (found : get? entries name = some value) : insert name value entries = entries := by
  induction entries with
  | nil => contradiction
  | cons first rest ih =>
      obtain ⟨least, restSorted⟩ := (sorted_cons_iff first rest).mp sorted
      rw [get?_cons] at found
      rw [insert]
      split at found
      · next same =>
        cases found
        subst same
        rw [if_neg Std.lt_irrefl, if_pos rfl]
      · next differ =>
        have beyond := least _ ((mem_iff_get?_eq_some restSorted name value).mpr found)
        have notBefore : ¬name < first.1 := fun before =>
          Std.lt_irrefl (Std.lt_trans before beyond)
        rw [if_neg notBefore, if_neg differ, ih restSorted found]

end Polystore.Keyed
