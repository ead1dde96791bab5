import Polystore.Proofs.Disk.Resolution
import Polystore.Proofs.Disk.Writable

/-!
# Removing folders from a pool

A pool of collections has folders one name below its root, which hold files only.  Removing a
folder leaves whatever does not lie in it.  The path of a folder is followed first, though: a
path that leads to the root removes everything, and a path may lead to a folder of another
name than it is written with.
-/

namespace Polystore

namespace Disk

variable {disk after last : Disk} {path other : List String} {place : Place}

/-! ## What a change leaves -/

/-- What does not lie below a path is found on both disks alike, or is a folder on both. -/
def Spares (path : List String) (disk after : Disk) : Prop :=
  ∀ other, ¬path <+: other →
    find other after = find other disk ∨ (HasFolder disk other ∧ HasFolder after other)

namespace Spares

theorem refl (path : List String) (disk : Disk) : Spares path disk disk :=
  fun _ _ => Or.inl rfl

theorem hasFolder (spares : Spares path disk after) (apart : ¬path <+: other)
    (there : HasFolder disk other) : HasFolder after other := by
  rcases spares other apart with same | ⟨-, found⟩
  · rwa [HasFolder, look, same]
  · exact found

theorem trans (first : Spares path disk after) (second : Spares path after last) :
    Spares path disk last := by
  intro other apart
  rcases first other apart with same | ⟨before, between⟩
  · rcases second other apart with again | ⟨between, there⟩
    · exact Or.inl (again.trans same)
    · rw [HasFolder, look, same] at between
      exact Or.inr ⟨between, there⟩
  · exact Or.inr ⟨before, second.hasFolder apart between⟩

end Spares

/-- What is found at a name is found there if the entries of that name are the same. -/
theorem find_cons_congr {name : String} (same : Keyed.get? after name = Keyed.get? disk name)
    (rest : List String) : find (name :: rest) after = find (name :: rest) disk := by
  rw [find, find, same]

/-- A change of an entry spares what does not lie below it. -/
theorem spares_of_changeAt {change : Option Entry → Except FileFault (Option Entry)}
    (changed : changeAt change path disk = .ok after) : Spares path disk after := by
  induction path generalizing disk after with
  | nil => contradiction
  | cons name rest ih =>
      intro other apart
      cases other with
      | nil => exact Or.inr ⟨hasFolder_nil disk, hasFolder_nil after⟩
      | cons first more =>
          by_cases deeper : rest = []
          · subst deeper
            rcases get?_of_changeAt_name changed with ⟨result, -, -, others⟩
            have differ : first ≠ name := by
              rintro rfl
              exact apart (List.prefix_cons_inj first |>.mpr List.nil_prefix)
            exact Or.inl (find_cons_congr (others first differ) more)
          · have short : ¬tooLong name = true := by
              intro long
              rw [changeAt, if_pos long] at changed
              contradiction
            rcases exists_inner_of_changeAt_cons deeper changed with
              ⟨inner, next, found, below, rfl⟩
            by_cases here : first = name
            · subst here
              have inside : ¬rest <+: more := by
                intro before
                exact apart ((List.prefix_cons_inj first).mpr before)
              have down (other : List String) : find (first :: other) disk = find other inner := by
                rw [find, if_neg short, found]
              have downAfter (other : List String) :
                  find (first :: other) (Keyed.insert first (.folder next) disk) =
                    find other next := by
                rw [find, if_neg short, Keyed.get?_insert_self]
              rw [HasFolder, HasFolder, look, look, down, downAfter]
              exact ih below more inside
            · exact Or.inl (find_cons_congr (Keyed.get?_insert_of_ne _ _ here) more)

/-- A disk from which everything below a path was taken. -/
theorem spares_clearAt (nonempty : path ≠ []) (disk : Disk) :
    Spares path disk (clearAt path disk) := by
  rw [clearAt, if_neg nonempty]
  cases changed : changeAt (fun _ => .ok (some (.folder []))) path disk with
  | error fault => exact .refl _ _
  | ok after => exact spares_of_changeAt changed

/-- Names lead straight down. -/
theorem eq_append_of_walk {here there parts : List String}
    (named : ∀ part ∈ parts, Place.isDots part = false)
    (walked : walk disk here parts = .ok there) : there = here ++ parts := by
  have down : ".." ∉ parts := by
    intro member
    have dots := named ".." member
    contradiction
  have kept : names parts = parts := by
    apply List.filter_eq_self.mpr
    intro part member
    apply decide_eq_true
    rintro rfl
    have dot := named "." member
    contradiction
  have straight := eq_of_walk down walked
  rwa [kept] at straight

end Disk

namespace Folder

open Disk

variable {folder : Folder} {home : List String} {origin disk after : Disk} {names : List String}

/-! ## Pools of collections -/

/-- The root leads to a folder that was empty once.  The folders that were there at that time
are there still, and all that came into the root are folders of files. -/
structure Shelved (folder : Folder) (home : List String) (origin disk : Disk) : Prop where
  led : origin.walk [] folder.parts = .ok home
  bare : ∀ name, ¬HasFolder origin (home ++ [name])
  grown : ∀ path, HasFolder origin path → HasFolder disk path
  collections : ∀ name, disk.files (home ++ [name]) = none
  level : ∀ collection file, ¬HasFolder disk (home ++ [collection, file])

/-- A pool that is opened on an empty folder has no collections yet. -/
theorem exists_shelved {text : String} (opened : entryAt text disk = .ok (.folder [])) :
    ∃ home, Shelved ⟨text⟩ home disk disk := by
  rw [entryAt] at opened
  split at opened
  · contradiction
  · rcases exists_walk_of_entry opened with ⟨home, walked, found⟩
    have nothing (name : String) (more : List String) :
        look (home ++ name :: more) disk = none := by
      rw [look_append, found, Option.bind_some, Entry.look, look_cons]
      split
      · rfl
      · rfl
    refine ⟨home, walked, ?_, fun _ there => there, ?_, ?_⟩
    · rintro name ⟨entries, there⟩
      rw [nothing] at there
      contradiction
    · intro name
      rw [files, nothing]
      rfl
    · rintro collection file ⟨entries, there⟩
      rw [nothing] at there
      contradiction

namespace Shelved

/-- The root still leads where it led. -/
theorem walk (shelved : folder.Shelved home origin disk) :
    disk.walk [] folder.parts = .ok home :=
  walk_of_grown shelved.grown shelved.led

theorem isHome (shelved : folder.Shelved home origin disk) : folder.IsHome home disk :=
  Or.inl shelved.walk

theorem hasFolder (shelved : folder.Shelved home origin disk) : HasFolder disk home :=
  hasFolder_of_walk (hasFolder_nil disk) shelved.walk

/-- Changes of files in collections leave a pool of collections. -/
theorem reworked (shelved : folder.Shelved home origin disk) (reworked : Reworked home disk after) :
    folder.Shelved home origin after where
  led := shelved.led
  bare := shelved.bare
  grown path found := reworked.later.grown path (shelved.grown path found)
  collections name := by
    rw [reworked.elsewhere _ (by rw [List.length_append]; exact Nat.ne_of_lt (Nat.lt_succ_self _))]
    exact shelved.collections name
  level collection file there := by
    rcases reworked.later.shallow _ there with before | short
    · exact shelved.level collection file before
    · rw [List.length_append] at short
      exact Nat.not_succ_le_self _ short

end Shelved

/-! ## Removing a collection -/

/-- The names that a path stands for are neither `.` nor `..`. -/
theorem named_of_resolve {path : String} (resolved : resolve path = .ok names) :
    ∀ name ∈ names, Place.isDots name = false :=
  fun name member => (isPlain_of_resolve resolved name member).isDots

namespace Shelved

/-- A place below a collection is no folder. -/
theorem eq_singleton_of_entry (shelved : folder.Shelved home origin disk)
    (named : ∀ name ∈ names, Place.isDots name = false) (below : names ≠ []) {entries : Disk}
    (found : Disk.entry (folder.place names) disk = .ok (.folder entries)) :
    ∃ name, names = [name] := by
  rcases exists_walk_of_entry found with ⟨there, walked, led⟩
  match names, below with
  | [name], _ => exact ⟨name, rfl⟩
  | collection :: file :: more, _ =>
      rw [parts_place, walk_append, shelved.walk] at walked
      cases eq_append_of_walk named walked
      rw [List.append_cons home, List.append_cons] at led
      have inside : HasFolder disk (home ++ [collection, file]) := by
        rw [List.append_cons]
        exact hasFolder_of_append ⟨entries, led⟩
      exact absurd inside (shelved.level collection file)

/-- The way to the root does not go through its collections. -/
theorem walk_of_spares (shelved : folder.Shelved home origin disk) {name : String}
    (spares : Spares (home ++ [name]) disk after) : after.walk [] folder.parts = .ok home := by
  apply walk_of_grown _ shelved.led
  intro path there
  apply spares.hasFolder _ (shelved.grown path there)
  rintro ⟨more, rfl⟩
  exact shelved.bare name (hasFolder_of_append there)

/-- Removing a folder removes a collection, or nothing. -/
theorem spares_removeFolder (shelved : folder.Shelved home origin disk)
    (named : ∀ name ∈ names, Place.isDots name = false) (below : names ≠ []) :
    (Disk.removeFolder (folder.place names) disk).2 = disk ∨
      ∃ name, names = [name] ∧
        Spares (home ++ [name]) disk (Disk.removeFolder (folder.place names) disk).2 := by
  rw [removeFolder]
  cases found : Disk.entry (folder.place names) disk with
  | error fault => exact Or.inl rfl
  | ok entry =>
      cases entry with
      | file content => exact Or.inl rfl
      | folder entries =>
          rcases shelved.eq_singleton_of_entry named below found with ⟨name, rfl⟩
          refine Or.inr ⟨name, rfl, ?_⟩
          have nameNamed := named name List.mem_cons_self
          have written := parts_place folder name []
          have walked : disk.walk [] (folder.place [name]).parts = .ok (home ++ [name]) := by
            rcases exists_walk_of_entry found with ⟨there, walked, led⟩
            rw [written] at walked
            rcases (walk_collection_eq_ok_iff shelved.isHome nameNamed).mp walked with ⟨rfl, -⟩
            rw [written, walked]
          have cleared := spares_clearAt (List.append_ne_nil_of_right_ne_nil home
            (List.cons_ne_nil name [])) disk
          have again := shelved.walk_of_spares cleared
          rw [walked]
          dsimp only
          rw [dropFolder]
          split
          · next after removed =>
            rcases exists_changeAt removed with ⟨before, last, here, rest, -, -, reached, changed⟩
            rcases List.append_inj' (written.symm.trans rest) rfl with ⟨rfl, same⟩
            cases same
            cases again.symm.trans reached
            exact cleared.trans (spares_of_changeAt changed)
          · exact cleared
          · exact cleared

end Shelved

end Folder

end Polystore
