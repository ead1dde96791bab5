import Polystore.Disk.Folder
import Polystore.Proofs.Disk.Passable

/-!
# Files in the folders of a pool

The files of a pool lie two names below its home, which is where its root leads, or where
it will lead once it is made.  Writing such a file and removing it change that file only.
-/

namespace Polystore.Folder

open Disk

/-- The parts of the root. -/
def parts (folder : Folder) : List String :=
  (Place.ofText folder.text).parts

/-- The root of a pool leads to a folder, or goes straight down to where one can be made. -/
def IsHome (folder : Folder) (home : List String) (disk : Disk) : Prop :=
  disk.walk [] folder.parts = .ok home ∨
    (".." ∉ folder.parts ∧ home = Disk.names folder.parts)

/-- The place of the draft of a file in a collection. -/
def draftPlace (folder : Folder) (collection : String) : Place :=
  folder.place [collection, draftName]

section

variable {folder : Folder} {home there : List String} {disk after : Disk}

theorem IsHome.eq_of_walk (isHome : folder.IsHome home disk)
    (walked : disk.walk [] folder.parts = .ok there) : there = home := by
  rcases isHome with led | ⟨down, rfl⟩
  · exact Except.ok.inj (walked.symm.trans led)
  · exact Disk.eq_of_walk down walked

theorem IsHome.walk_of_hasFolder (isHome : folder.IsHome home disk)
    (found : HasFolder disk home) : disk.walk [] folder.parts = .ok home := by
  rcases isHome with led | ⟨down, rfl⟩
  · exact led
  · exact Disk.walk_of_hasFolder down found

theorem IsHome.later {depth : Nat} (isHome : folder.IsHome home disk)
    (later : Later depth disk after) : folder.IsHome home after :=
  isHome.imp_left (walk_of_grown later.grown)

end

/-! ## Places of files -/

section

variable {folder : Folder} {home here : List String} {disk after : Disk} {collection file : String}

theorem parts_place (folder : Folder) (name : String) (more : List String) :
    (folder.place (name :: more)).parts = folder.parts ++ name :: more :=
  Place.parts_below _ _

theorem slash_place (folder : Folder) (name : String) (more : List String) :
    (folder.place (name :: more)).slash = false :=
  Place.slash_below (List.cons_ne_nil name more) _

theorem parts_file (folder : Folder) (collection file : String) :
    (folder.place [collection, file]).parts = (folder.parts ++ [collection]) ++ [file] := by
  rw [parts_place, List.append_assoc]
  rfl

/-- A file is written in the folder of its collection. -/
theorem parent?_file (collectionNamed : Place.isDots collection = false)
    (fileNamed : Place.isDots file = false) :
    (folder.place [collection, file]).parent? = some (folder.place [collection]) :=
  parent?_append_append _ collectionNamed fileNamed

theorem below_draft (folder : Folder) (collection : String) :
    (folder.place [collection]).below [draftName] = folder.draftPlace collection :=
  rfl

/-- The way to a file leads through the home and the folder of the collection. -/
theorem walk_collection_eq_ok_iff (isHome : folder.IsHome home disk)
    (collectionNamed : Place.isDots collection = false) :
    disk.walk [] (folder.parts ++ [collection]) = .ok here ↔
      here = home ++ [collection] ∧ HasFolder disk (home ++ [collection]) := by
  constructor
  · intro walked
    obtain ⟨there, root, next⟩ := exists_walk_of_append walked
    obtain ⟨found, last⟩ := (walk_name_eq_ok_iff collectionNamed).mp next
    cases isHome.eq_of_walk root
    cases last
    exact ⟨rfl, found⟩
  · rintro ⟨rfl, found⟩
    rw [walk_append, isHome.walk_of_hasFolder (hasFolder_of_append found)]
    exact (walk_name_eq_ok_iff collectionNamed).mpr ⟨found, rfl⟩

theorem placeFault?_collection (clear : placeFault? (folder.place [collection, file]) = none) :
    placeFault? (folder.place [collection]) = none :=
  (continues_below (folder.place [collection]) [file]).placeFault? clear

/-! ## Reading -/

/-- A file is read where it lies. -/
theorem readFile_eq_ok_iff (isHome : folder.IsHome home disk)
    (collectionNamed : Place.isDots collection = false) (fileNamed : Place.isDots file = false)
    (content : List UInt8) :
    Disk.readFile (folder.place [collection, file]) disk = .ok content ↔
      placeFault? (folder.place [collection, file]) = none ∧
        disk.files (home ++ [collection, file]) = some content := by
  have split : home ++ [collection, file] = (home ++ [collection]) ++ [file] :=
    List.append_cons home collection [file]
  have led : Disk.entry (folder.place [collection, file]) disk = .ok (.file content) ↔
      placeFault? (folder.place [collection, file]) = none ∧
        disk.files (home ++ [collection, file]) = some content := by
    rw [entry_eq (parts_file folder collection file) fileNamed (slash_place _ _ _),
      checked_eq_ok_iff, files_eq_some_iff, split]
    apply and_congr_right
    intro _
    constructor
    · intro found
      cases walked : disk.walk [] (folder.parts ++ [collection]) with
      | error fault =>
          rw [walked] at found
          contradiction
      | ok here =>
          rw [walked] at found
          obtain ⟨rfl, -⟩ := (walk_collection_eq_ok_iff isHome collectionNamed).mp walked
          exact find_eq_ok_iff.mp found
    · intro found
      have inside := hasFolder_of_look_append (List.cons_ne_nil file []) found
      rw [(walk_collection_eq_ok_iff isHome collectionNamed).mpr ⟨rfl, inside⟩]
      exact find_eq_ok_iff.mpr found
  rw [← led, Disk.readFile]
  cases Disk.entry (folder.place [collection, file]) disk with
  | error fault => exact iff_of_false nofun nofun
  | ok entry =>
      cases entry with
      | folder entries => exact iff_of_false nofun nofun
      | file held =>
          constructor
          · rintro ⟨⟩
            rfl
          · rintro ⟨⟩
            rfl

/-- Where a file is said to be missing, its place could be written, and nothing lies there. -/
theorem of_readFile_missing (isHome : folder.IsHome home disk)
    (collectionNamed : Place.isDots collection = false) (fileNamed : Place.isDots file = false)
    (missing : Disk.readFile (folder.place [collection, file]) disk = .error .missing) :
    placeFault? (folder.place [collection, file]) = none ∧
      look (home ++ [collection, file]) disk = none := by
  have nothing : Disk.entry (folder.place [collection, file]) disk = .error .missing := by
    rw [Disk.readFile] at missing
    split at missing
    · contradiction
    · cases missing
    · next fault failed =>
      rw [failed, Except.error.inj missing]
  rw [entry_eq (parts_file folder collection file) fileNamed (slash_place _ _ _), checked] at nothing
  cases clear : placeFault? (folder.place [collection, file]) with
  | some wrong =>
      rw [clear] at nothing
      exact absurd (Except.error.inj nothing) (ne_missing_of_placeFault? clear)
  | none =>
      refine ⟨rfl, ?_⟩
      rw [clear] at nothing
      cases there : look (home ++ [collection, file]) disk with
      | none => rfl
      | some entry =>
          rw [List.append_cons] at there
          have inside := hasFolder_of_look_append (List.cons_ne_nil file []) there
          rw [(walk_collection_eq_ok_iff isHome collectionNamed).mpr ⟨rfl, inside⟩] at nothing
          have found := find_eq_ok_iff.mpr there
          have clash := found.symm.trans nothing
          contradiction

/-! ## Writing and removing -/

theorem later_makeFolders (isHome : folder.IsHome home disk)
    (collectionNamed : Place.isDots collection = false) :
    Later (home.length + 1) disk (Disk.makeFolders (folder.place [collection]) disk).2 ∧
      (Disk.makeFolders (folder.place [collection]) disk).2.files = disk.files := by
  have written := parts_place folder collection []
  rcases isHome with led | ⟨down, rfl⟩
  · rw [makeFolders_of_walk written collectionNamed led]
    apply later_ensureFolder
    intro before last here again _ walked
    obtain ⟨rfl, -⟩ := List.append_inj' (written.symm.trans again) rfl
    cases led.symm.trans walked
    exact Nat.lt_succ_self _
  · apply later_makeFoldersWithin
    · rw [written]
      exact down_concat down collectionNamed
    · rw [written, names_concat collectionNamed, List.length_append]
      exact Nat.le_refl _

/-- A change of a file leaves all folders and all other files. -/
theorem changed_of_replaces (isHome : folder.IsHome home disk)
    (collectionNamed : Place.isDots collection = false) {before : List String} {last : String}
    {old new : Option Entry}
    (written : (folder.place [collection, file]).parts = before ++ [last])
    (walked : disk.walk [] before = .ok here) (plainOld : IsFile old)
    (replaces : Replaces (here ++ [last]) old new disk after) (plain : IsFile new) :
    (∀ path, HasFolder after path ↔ HasFolder disk path) ∧
      after.files = Function.update disk.files (home ++ [collection, file])
        (new.bind Entry.content?) := by
  obtain ⟨rfl, last⟩ :=
    List.append_inj' ((parts_file folder collection file).symm.trans written) rfl
  cases last
  obtain ⟨rfl, -⟩ := (walk_collection_eq_ok_iff isHome collectionNamed).mp walked
  rw [← List.append_cons] at replaces
  exact replaces.of_isFile plainOld plain

/-- Writing a file changes that file only, or nothing. -/
theorem writeAt_cases (isHome : folder.IsHome home disk)
    (collectionNamed : Place.isDots collection = false) (fileNamed : Place.isDots file = false)
    (content : List UInt8) :
    ∃ result left, folder.writeAt [collection, file] content disk = (result, left) ∧
      Later (home.length + 1) disk left ∧
      ((result = .ok () ∧ placeFault? (folder.draftPlace collection) = none ∧
          left.files = Function.update disk.files (home ++ [collection, file]) (some content)) ∨
        ∃ cause, result = .error cause ∧ left.files = disk.files) := by
  obtain ⟨later, same⟩ := later_makeFolders isHome collectionNamed
  rw [writeAt, parent?_file collectionNamed fileNamed, Option.getD_some, below_draft]
  split
  · next fault made outcome =>
    rw [outcome] at later same
    exact ⟨_, _, rfl, later, Or.inr ⟨_, rfl, same⟩⟩
  · next made outcome =>
    rw [outcome] at later same
    cases put : checked (folder.draftPlace collection)
        (Disk.putFile content (folder.place [collection, file]) made) with
    | error fault => exact ⟨_, _, rfl, later, Or.inr ⟨_, rfl, same⟩⟩
    | ok after =>
        obtain ⟨clear, changed⟩ := checked_eq_ok_iff.mp put
        obtain ⟨before, last, here, old, written, -, walked, plain, replaces⟩ :=
          replaces_of_putFile changed
        obtain ⟨folders, left⟩ := changed_of_replaces (isHome.later later) collectionNamed written
          walked plain replaces trivial
        rw [same] at left
        exact ⟨_, _, rfl, later.trans (.of_iff folders), Or.inl ⟨rfl, clear, left⟩⟩

/-- Removing a file that is there changes that file only. -/
theorem deleteAt_cases (isHome : folder.IsHome home disk)
    (collectionNamed : Place.isDots collection = false) (file : String) :
    ∃ result left, folder.deleteAt [collection, file] disk = (result, left) ∧
      ((result = .ok () ∧ (∀ path, HasFolder left path ↔ HasFolder disk path) ∧
          left.files = Function.update disk.files (home ++ [collection, file]) none) ∨
        ∃ cause, result = .error cause ∧ left = disk) := by
  rw [deleteAt]
  cases removed : Disk.removeFile (folder.place [collection, file]) disk with
  | error fault => exact ⟨_, _, rfl, Or.inr ⟨_, rfl, rfl⟩⟩
  | ok after =>
      obtain ⟨before, last, here, old, written, -, walked, plain, replaces⟩ :=
        replaces_of_removeFile removed
      obtain ⟨folders, left⟩ :=
        changed_of_replaces isHome collectionNamed written walked plain replaces trivial
      exact ⟨_, _, rfl, Or.inl ⟨rfl, folders, left⟩⟩

/-! ## Writing and removing what can be -/

/-- In a folder that is there no folder is made. -/
theorem makeFolders_of_hasFolder (isHome : folder.IsHome home disk)
    (collectionNamed : Place.isDots collection = false)
    (clear : placeFault? (folder.place [collection]) = none)
    (there : HasFolder disk (home ++ [collection])) :
    Disk.makeFolders (folder.place [collection]) disk = (.ok (), disk) := by
  have walked := isHome.walk_of_hasFolder (hasFolder_of_append there)
  have written := parts_place folder collection []
  rw [makeFolders_of_walk written collectionNamed walked]
  exact ensureFolder_of_hasFolder written collectionNamed clear walked there

/-- In a folder that is there, a file can be written where there is no folder. -/
theorem writeAt_of_hasFolder (isHome : folder.IsHome home disk)
    (collectionNamed : Place.isDots collection = false) (fileNamed : Place.isDots file = false)
    (clear : placeFault? (folder.place [collection, file]) = none)
    (draftClear : placeFault? (folder.draftPlace collection) = none)
    (there : HasFolder disk (home ++ [collection])) (short : tooLong file = false)
    (vacant : ¬HasFolder disk (home ++ [collection, file])) (content : List UInt8) :
    (folder.writeAt [collection, file] content disk).1 = .ok () := by
  have made := makeFolders_of_hasFolder isHome collectionNamed (placeFault?_collection clear) there
  have walked := (walk_collection_eq_ok_iff isHome collectionNamed).mpr ⟨rfl, there⟩
  obtain ⟨after, put⟩ : ∃ after,
      Disk.putFile content (folder.place [collection, file]) disk = .ok after := by
    rw [putFile, changeEntry_eq (parts_file folder collection file) fileNamed clear walked]
    apply exists_of_outcome
    rw [outcome_changeAt there, if_neg (Bool.eq_false_iff.mp short), ← List.append_cons,
      if_neg (Bool.eq_false_iff.mp (slash_place folder collection [file]))]
    cases found : look (home ++ [collection, file]) disk with
    | none => rfl
    | some entry =>
        cases entry with
        | file held => rfl
        | folder entries => exact absurd ⟨entries, found⟩ vacant
  rw [writeAt, parent?_file collectionNamed fileNamed, Option.getD_some, below_draft, made]
  dsimp only
  rw [put, checked, draftClear]
  rfl

/-- A file that is there can be removed. -/
theorem deleteAt_of_files (isHome : folder.IsHome home disk)
    (collectionNamed : Place.isDots collection = false) (fileNamed : Place.isDots file = false)
    (clear : placeFault? (folder.place [collection, file]) = none) {content : List UInt8}
    (held : disk.files (home ++ [collection, file]) = some content) :
    (folder.deleteAt [collection, file] disk).1 = .ok () := by
  have found := files_eq_some_iff.mp held
  rw [List.append_cons] at found
  have there := hasFolder_of_look_append (List.cons_ne_nil file []) found
  have walked := (walk_collection_eq_ok_iff isHome collectionNamed).mpr ⟨rfl, there⟩
  obtain ⟨after, removed⟩ : ∃ after,
      Disk.removeFile (folder.place [collection, file]) disk = .ok after := by
    rw [removeFile, changeEntry_eq (parts_file folder collection file) fileNamed clear walked]
    apply exists_of_outcome
    rw [outcome_changeAt there, if_neg (Bool.eq_false_iff.mp (not_tooLong_of_look found)), found]
    dsimp only
    rw [if_neg (Bool.eq_false_iff.mp (slash_place folder collection [file]))]
    rfl
  rw [deleteAt, removed]
  rfl

end

end Polystore.Folder
