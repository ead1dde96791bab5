import Polystore.Disk.Folder
import Polystore.Proofs.Disk.Places
import Polystore.Proofs.Keyed

/-!
# Folders in order

A folder that was made on a disk lists its entries in ascending order of their names, each of
which can be looked up: it was empty at first, and a change of an entry leaves folders in order.
-/

namespace Polystore

namespace Disk

variable {disk after entries : Disk} {path other : List String} {place : Place}

/-- Entries that ascend by their names, none of which is too long. -/
structure Ordered (entries : Disk) : Prop where
  sorted : Keyed.Sorted entries
  short : ∀ entry ∈ entries, tooLong entry.1 = false

/-- The names of the files among some entries. -/
def fileNamesIn (entries : Disk) : List String :=
  entries.filterMap fun
    | (name, .file _) => some name
    | (_, .folder _) => none

namespace Ordered

theorem nil : Ordered [] where
  sorted := Keyed.sorted_nil
  short := List.forall_mem_nil _

theorem insert (ordered : Ordered entries) {name : String} (short : tooLong name = false)
    (entry : Entry) : Ordered (Keyed.insert name entry entries) where
  sorted := Keyed.sorted_insert ordered.sorted name entry
  short other member := by
    rcases Keyed.mem_insert member with rfl | old
    · exact short
    · exact ordered.short other old

theorem erase (ordered : Ordered entries) (name : String) :
    Ordered (Keyed.erase name entries) where
  sorted := Keyed.sorted_erase ordered.sorted name
  short other member := ordered.short other (List.mem_filter.mp member).1

/-- An entry is found under its name. -/
theorem mem_iff_look (ordered : Ordered entries) (name : String) (entry : Entry) :
    (name, entry) ∈ entries ↔ look [name] entries = some entry := by
  rw [Keyed.mem_iff_get?_eq_some ordered.sorted, look_cons]
  constructor
  · intro found
    have short := ordered.short _ ((Keyed.mem_iff_get?_eq_some ordered.sorted _ _).mpr found)
    rw [if_neg (Bool.eq_false_iff.mp short), found]
    exact Entry.look_nil entry
  · intro found
    split at found
    · contradiction
    · obtain ⟨held, here, same⟩ := Option.bind_eq_some_iff.mp found
      rw [here, ← same]
      exact (Entry.look_nil held).symm

theorem mem_fileNamesIn_iff (ordered : Ordered entries) (name : String) :
    name ∈ fileNamesIn entries ↔ ∃ content, look [name] entries = some (.file content) := by
  rw [fileNamesIn, List.mem_filterMap]
  constructor
  · rintro ⟨⟨other, entry⟩, member, same⟩
    cases entry with
    | file content =>
        cases same
        exact ⟨content, (ordered.mem_iff_look _ _).mp member⟩
    | folder inner => contradiction
  · rintro ⟨content, found⟩
    exact ⟨_, (ordered.mem_iff_look _ _).mpr found, rfl⟩

theorem pairwise_fileNamesIn (ordered : Ordered entries) :
    (fileNamesIn entries).Pairwise (· < ·) := by
  refine List.Pairwise.filterMap _ ?_ ordered.sorted
  rintro ⟨left, leftEntry⟩ ⟨right, rightEntry⟩ before name same other also
  cases leftEntry with
  | folder inner => contradiction
  | file content =>
      cases rightEntry with
      | folder inner => contradiction
      | file held =>
          cases same
          cases also
          exact before

end Ordered

/-- Whatever folder a path leads to is in order. -/
def OrderedAt (path : List String) (disk : Disk) : Prop :=
  ∀ entries, look path disk = some (.folder entries) → Ordered entries

theorem orderedAt_of_not_hasFolder (nothing : ¬HasFolder disk path) : OrderedAt path disk :=
  fun entries found => absurd ⟨entries, found⟩ nothing

/-! ## Changes -/

variable {change : Option Entry → Except FileFault (Option Entry)}

theorem Ordered.changeAt (ordered : Ordered disk)
    (changed : changeAt change path disk = .ok after) : Ordered after := by
  cases path with
  | nil => contradiction
  | cons name rest =>
      have short : tooLong name = false := by
        apply Bool.eq_false_iff.mpr
        intro long
        rw [Disk.changeAt, if_pos long] at changed
        contradiction
      by_cases last : rest = []
      · rw [Disk.changeAt, if_neg (Bool.eq_false_iff.mp short), if_pos last] at changed
        split at changed
        · contradiction
        · next entry _ =>
          cases changed
          exact ordered.insert short entry
        · cases changed
          exact ordered.erase name
      · obtain ⟨inner, next, -, -, rfl⟩ := exists_inner_of_changeAt_cons last changed
        exact ordered.insert short _

/-- What comes of a change holds nothing, so the folders are in order that were so before. -/
theorem OrderedAt.changeAt (ordered : OrderedAt other disk)
    (bare : ∀ {before result}, change before = .ok result → IsBare result)
    (changed : changeAt change path disk = .ok after) : OrderedAt other after := by
  induction path generalizing disk after other with
  | nil => contradiction
  | cons name rest ih =>
      intro entries found
      cases other with
      | nil =>
          cases found
          exact (ordered disk rfl).changeAt changed
      | cons first more =>
          rw [look_cons] at found
          split at found
          · contradiction
          · next short =>
            have same {entry : Option Entry} (held : Keyed.get? disk first = entry)
                {there : Disk} (led : entry.bind (Entry.look more) = some (.folder there)) :
                Ordered there := by
              apply ordered there
              rw [look_cons, if_neg short, held]
              exact led
            by_cases last : rest = []
            · subst last
              obtain ⟨result, outcome, here, others⟩ := get?_of_changeAt_name changed
              by_cases there : first = name
              · subst there
                rw [here] at found
                have empty := bare outcome
                cases more with
                | cons next later =>
                    rw [bind_look_of_isBare empty] at found
                    contradiction
                | nil =>
                    obtain ⟨entry, rfl, led⟩ := Option.bind_eq_some_iff.mp found
                    rw [Entry.look_nil] at led
                    cases led
                    cases entries with
                    | nil => exact .nil
                    | cons entry others => exact empty.elim
              · exact same (others first there).symm found
            · obtain ⟨inner, next, held, below, rfl⟩ := exists_inner_of_changeAt_cons last changed
              by_cases there : first = name
              · subst there
                rw [Keyed.get?_insert_self] at found
                exact ih (fun there led => same held led) below entries found
              · rw [Keyed.get?_insert_of_ne _ _ there] at found
                exact same rfl found

theorem OrderedAt.changeEntry (ordered : OrderedAt other disk) {dots : FileFault}
    (bare : ∀ {before result}, change before = .ok result → IsBare result)
    (changed : changeEntry dots change place disk = .ok after) : OrderedAt other after := by
  obtain ⟨before, last, here, -, -, -, -, changed⟩ := exists_changeAt changed
  exact ordered.changeAt bare changed

/-! ## Operations -/

theorem OrderedAt.makeFolder (ordered : OrderedAt other disk)
    (made : makeFolder place disk = .ok after) : OrderedAt other after := by
  refine ordered.changeEntry ?_ made
  intro before result outcome
  cases before with
  | none =>
      cases outcome
      trivial
  | some entry => contradiction

theorem OrderedAt.ensureFolder (ordered : OrderedAt other disk) (place : Place) :
    OrderedAt other (ensureFolder place disk).2 := by
  rw [Disk.ensureFolder]
  split
  · next made => exact ordered.makeFolder made
  · split
    · exact ordered
    · exact ordered
  · exact ordered

theorem OrderedAt.makeFoldersWithin (ordered : OrderedAt other disk) (fuel : Nat)
    (place : Place) : OrderedAt other (makeFoldersWithin fuel place disk).2 := by
  induction fuel generalizing place disk with
  | zero => exact ordered
  | succ fuel ih =>
      have first := ordered.ensureFolder place
      rw [Disk.makeFoldersWithin]
      split
      · next left missing =>
        rw [missing] at first
        cases above : place.parent? with
        | none => exact first
        | some parent =>
            have further := ih first parent
            rw [Option.map_some]
            split
            · next outcome =>
              rw [Option.some.inj outcome] at further
              exact further
            · next middle outcome =>
              rw [Option.some.inj outcome] at further
              exact further.ensureFolder place
            · next outcome => contradiction
      · exact first

theorem OrderedAt.putFile (ordered : OrderedAt other disk) {content : List UInt8}
    (put : putFile content place disk = .ok after) : OrderedAt other after := by
  refine ordered.changeEntry ?_ put
  intro before result outcome
  split at outcome
  · contradiction
  · split at outcome
    · contradiction
    · cases outcome
      trivial

theorem OrderedAt.removeFile (ordered : OrderedAt other disk)
    (removed : removeFile place disk = .ok after) : OrderedAt other after := by
  refine ordered.changeEntry ?_ removed
  intro before result outcome
  split at outcome
  · split at outcome
    · contradiction
    · cases outcome
      trivial
  · contradiction
  · contradiction

end Disk

namespace Folder

open Disk

variable {folder : Folder} {disk : Disk} {path : List String}

theorem orderedAt_writeAt (ordered : OrderedAt path disk) (names : List String)
    (content : List UInt8) : OrderedAt path (folder.writeAt names content disk).2 := by
  have made := ordered.makeFoldersWithin
    ((folder.place names).parent?.getD (folder.place names)).parts.length
    ((folder.place names).parent?.getD (folder.place names))
  rw [writeAt]
  split
  · next outcome =>
    rw [makeFolders] at outcome
    rw [outcome] at made
    exact made
  · next left outcome =>
    rw [makeFolders] at outcome
    rw [outcome] at made
    cases put : checked ((((folder.place names).parent?.getD (folder.place names))).below
        [draftName]) (Disk.putFile content (folder.place names) left) with
    | error fault => exact made
    | ok after => exact made.putFile (checked_eq_ok_iff.mp put).2

theorem orderedAt_deleteAt (ordered : OrderedAt path disk) (names : List String) :
    OrderedAt path (folder.deleteAt names disk).2 := by
  rw [deleteAt]
  cases removed : Disk.removeFile (folder.place names) disk with
  | error fault => exact ordered
  | ok after => exact ordered.removeFile removed

end Folder

end Polystore
