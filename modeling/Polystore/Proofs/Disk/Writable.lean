import Polystore.Proofs.Disk.Folder

/-!
# Files that can be written

A file of a pool can be written exactly if its names are short, no file lies on the way to it
and it is no folder itself.  The root of the pool may be missing, if it can be made again.
Changes of other files two names below the root leave that as it was, so what can be written
stays what can be written.
-/

namespace Polystore

namespace Folder

open Disk

variable {folder : Folder} {home : List String} {disk after : Disk} {collection file : String}
  {content : List UInt8}

/-! ## Reading -/

/-- The folder of a collection that can be made is there, or something on the way is missing. -/
theorem IsHome.walk_collection_cases (isHome : folder.IsHome home disk)
    (passable : Passable disk (home ++ [collection]))
    (collectionNamed : Place.isDots collection = false) :
    (disk.walk [] (folder.parts ++ [collection]) = .ok (home ++ [collection]) ∧
        HasFolder disk (home ++ [collection])) ∨
      (disk.walk [] (folder.parts ++ [collection]) = .error .missing ∧
        ¬HasFolder disk (home ++ [collection])) := by
  have decided : disk.walk [] (folder.parts ++ [collection]) = .ok (home ++ [collection]) ∨
      disk.walk [] (folder.parts ++ [collection]) = .error .missing := by
    rcases isHome with led | ⟨down, rfl⟩
    · have alone : [collection] = Disk.names [collection] := (names_concat collectionNamed []).symm
      have start := hasFolder_of_walk (hasFolder_nil disk) led
      rw [walk_append, led]
      rw [alone] at passable
      have onwards := passable.walk_cases (down_concat List.not_mem_nil collectionNamed) start
      rw [← alone] at onwards
      exact onwards
    · rw [← names_concat collectionNamed] at passable ⊢
      have onwards : Passable disk ([] ++ Disk.names (folder.parts ++ [collection])) := passable
      exact onwards.walk_cases (down_concat down collectionNamed) (hasFolder_nil disk)
  rcases decided with walked | missing
  · exact Or.inl ⟨walked, ((walk_collection_eq_ok_iff isHome collectionNamed).mp walked).2⟩
  · refine Or.inr ⟨missing, ?_⟩
    intro there
    rw [(walk_collection_eq_ok_iff isHome collectionNamed).mpr ⟨rfl, there⟩] at missing
    contradiction

/-- What lies at the place of a file is what its names lead to from the root. -/
theorem entry_file (led : disk.walk [] folder.parts = .ok home)
    (collectionNamed : Place.isDots collection = false) (fileNamed : Place.isDots file = false) :
    Disk.entry (folder.place [collection, file]) disk =
      checked (folder.place [collection, file]) (find (home ++ [collection, file]) disk) := by
  rw [Place.isDots, Bool.or_eq_false_iff, beq_eq_false_iff_ne, beq_eq_false_iff_ne]
    at collectionNamed
  rw [entry_eq (parts_file folder collection file) fileNamed (slash_place _ _ _), walk_append, led]
  congr 1
  change (disk.walk home [collection]).bind _ = _
  rw [walk, if_neg collectionNamed.1, if_neg collectionNamed.2,
    List.append_cons home collection [file],
    find_append (home ++ [collection]) (List.cons_ne_nil file [])]
  cases found : find (home ++ [collection]) disk with
  | error fault => rfl
  | ok entry =>
      cases entry with
      | file content => rfl
      | folder inner =>
          change find ((home ++ [collection]) ++ [file]) disk = find [file] inner
          rw [find_append (home ++ [collection]) (List.cons_ne_nil file []), found]
          rfl

/-! ## Files that can be written -/

/-- A file that can be written: its place and that of its draft have no fault, the way to it is
passable, its name is short, and it is no folder. -/
structure Writable (folder : Folder) (home : List String) (disk : Disk)
    (collection file : String) : Prop where
  clear : placeFault? (folder.place [collection, file]) = none
  draftClear : placeFault? (folder.draftPlace collection) = none
  passable : Passable disk (home ++ [collection])
  fileShort : tooLong file = false
  fileFree : ¬HasFolder disk (home ++ [collection, file])

/-- A file that can be written is there or missing. -/
theorem Writable.readFile (writable : folder.Writable home disk collection file)
    (isHome : folder.IsHome home disk) (collectionNamed : Place.isDots collection = false)
    (fileNamed : Place.isDots file = false) :
    Disk.readFile (folder.place [collection, file]) disk =
      match disk.files (home ++ [collection, file]) with
      | some content => .ok content
      | none => .error .missing := by
  have split : home ++ [collection, file] = (home ++ [collection]) ++ [file] :=
    List.append_cons home collection [file]
  have short := writable.fileShort
  have vacant := writable.fileFree
  rw [split] at vacant ⊢
  rw [Disk.readFile, entry_eq (parts_file folder collection file) fileNamed (slash_place _ _ _),
    checked, writable.clear]
  rcases isHome.walk_collection_cases writable.passable collectionNamed with
    ⟨walked, there⟩ | ⟨missing, absent⟩
  · rw [walked]
    dsimp only [Except.bind]
    rw [find_of_short there short, files]
    cases found : look ((home ++ [collection]) ++ [file]) disk with
    | none => rfl
    | some entry =>
        cases entry with
        | file content => rfl
        | folder entries => exact absurd ⟨entries, found⟩ vacant
  · have nothing : disk.files ((home ++ [collection]) ++ [file]) = none := by
      rw [Option.eq_none_iff_forall_ne_some]
      intro content found
      exact absent (hasFolder_of_look_append (List.cons_ne_nil _ _) (files_eq_some_iff.mp found))
    rw [missing, nothing]
    rfl

/-- Where a folder can be, it is there once it was made. -/
theorem exists_makeFolders (isHome : folder.IsHome home disk)
    (collectionNamed : Place.isDots collection = false)
    (clear : placeFault? (folder.place [collection]) = none)
    (passable : Passable disk (home ++ [collection])) :
    ∃ made, Disk.makeFolders (folder.place [collection]) disk = (.ok (), made) ∧
      HasFolder made (home ++ [collection]) := by
  have written := parts_place folder collection []
  rcases isHome with led | ⟨down, rfl⟩
  · rw [makeFolders_of_walk written collectionNamed led]
    exact exists_ensureFolder written collectionNamed clear led passable.short_last
      (passable.free List.prefix_rfl)
  · rw [← names_concat collectionNamed, ← written] at passable ⊢
    apply exists_makeFoldersWithin _ (Nat.le_refl _) written collectionNamed clear _ passable
    rw [written]
    exact down_concat down collectionNamed

/-- What can be written is written. -/
theorem Writable.writeAt (writable : folder.Writable home disk collection file)
    (isHome : folder.IsHome home disk)
    (collectionNamed : Place.isDots collection = false) (fileNamed : Place.isDots file = false)
    (content : List UInt8) : (folder.writeAt [collection, file] content disk).1 = .ok () := by
  have collectionClear := placeFault?_collection writable.clear
  rcases exists_makeFolders isHome collectionNamed collectionClear writable.passable with
    ⟨made, outcome, there⟩
  have later := (later_makeFolders isHome collectionNamed).1
  rw [outcome] at later
  have vacant : ¬HasFolder made (home ++ [collection, file]) := by
    intro folder
    rcases later.shallow _ folder with before | short
    · exact writable.fileFree before
    · rw [List.length_append] at short
      exact Nat.not_succ_le_self _ short
  have madeHome := isHome.later later
  have written := writeAt_of_hasFolder madeHome collectionNamed fileNamed writable.clear
    writable.draftClear there writable.fileShort vacant content
  -- once the folder is made, making it again does nothing
  rw [Folder.writeAt, parent?_file collectionNamed fileNamed, Option.getD_some,
    makeFolders_of_hasFolder madeHome collectionNamed collectionClear there] at written
  rw [Folder.writeAt, parent?_file collectionNamed fileNamed, Option.getD_some, outcome]
  exact written

/-- What was written can be. -/
theorem writable_of_writeAt (isHome : folder.IsHome home disk)
    (collectionNamed : Place.isDots collection = false) (fileNamed : Place.isDots file = false)
    (written : (folder.writeAt [collection, file] content disk).1 = .ok ()) :
    folder.Writable home disk collection file := by
  have clear : placeFault? (folder.place [collection, file]) = none := by
    rw [Folder.writeAt] at written
    split at written
    · contradiction
    · next made _ =>
      cases put : checked ((((folder.place [collection, file]).parent?.getD
          (folder.place [collection, file]))).below [draftName])
          (Disk.putFile content (folder.place [collection, file]) made) with
      | error fault =>
          rw [put] at written
          contradiction
      | ok after =>
          rcases checked_eq_ok_iff.mp put with ⟨-, changed⟩
          rcases exists_changeAt changed with ⟨before, last, here, -, -, clear, -, -⟩
          exact clear
  obtain ⟨result, left, outcome, later, ⟨-, draftClear, files⟩ | ⟨cause, failed, -⟩⟩ :=
    writeAt_cases isHome collectionNamed fileNamed content
  · have found : look ((home ++ [collection]) ++ [file]) left = some (.file content) := by
      rw [← List.append_cons, ← files_eq_some_iff, files, Function.update_self]
    have there := hasFolder_of_look_append (List.cons_ne_nil file []) found
    refine ⟨clear, draftClear, ?_, not_tooLong_of_look found, ?_⟩
    · apply (Passable.of_hasFolder there).congr
      intro before within
      rw [files, Function.update_of_ne]
      rintro rfl
      have length := within.length_le
      rw [List.length_append, List.length_append] at length
      exact Nat.not_succ_le_self _ length
    · intro folder
      have again := later.grown _ folder
      rw [List.append_cons, HasFolder, found] at again
      rcases again with ⟨entries, ⟨⟩⟩
  · rw [outcome, failed] at written
    contradiction

/-! ## Removing what is missing -/

/-- A file that could be written and is missing is not removed. -/
theorem Writable.deleteAt (writable : folder.Writable home disk collection file)
    (isHome : folder.IsHome home disk)
    (collectionNamed : Place.isDots collection = false) (fileNamed : Place.isDots file = false)
    (missing : disk.files (home ++ [collection, file]) = none) :
    folder.deleteAt [collection, file] disk = (.error (.file .missing), disk) := by
  have removed : Disk.removeFile (folder.place [collection, file]) disk = .error .missing := by
    rcases isHome.walk_collection_cases writable.passable collectionNamed with
      ⟨walked, there⟩ | ⟨lost, -⟩
    · have nothing : look (home ++ [collection, file]) disk = none :=
        (look_eq_none_or_hasFolder missing).resolve_right writable.fileFree
      rw [removeFile, changeEntry_eq (parts_file folder collection file) fileNamed writable.clear
        walked]
      apply eq_error_of_outcome
      rw [outcome_changeAt there, if_neg (Bool.eq_false_iff.mp writable.fileShort),
        ← List.append_cons, nothing]
      rfl
    · exact changeEntry_of_error (parts_file folder collection file) writable.clear lost
  rw [Folder.deleteAt, removed]
  rfl

/-! ## Changes below the root -/

/-- A disk on which files two names below a folder were changed, and folders were made no
deeper than one name below it. -/
structure Reworked (home : List String) (disk after : Disk) : Prop where
  later : Later (home.length + 1) disk after
  elsewhere : ∀ path, path.length ≠ home.length + 2 → after.files path = disk.files path

namespace Reworked

variable {last : Disk}

theorem refl (home : List String) (disk : Disk) : Reworked home disk disk where
  later := .refl _ _
  elsewhere _ _ := rfl

theorem trans (first : Reworked home disk after) (second : Reworked home after last) :
    Reworked home disk last where
  later := first.later.trans second.later
  elsewhere path differ := (second.elsewhere path differ).trans (first.elsewhere path differ)

theorem of_update (later : Later (home.length + 1) disk after) {content : Option (List UInt8)}
    (files : after.files = Function.update disk.files (home ++ [collection, file]) content) :
    Reworked home disk after where
  later := later
  elsewhere path differ := by
    rw [files, Function.update_of_ne]
    rintro rfl
    exact differ List.length_append

theorem of_same (later : Later (home.length + 1) disk after) (files : after.files = disk.files) :
    Reworked home disk after where
  later := later
  elsewhere path _ := congrFun files path

/-- What can be written stays what can be written. -/
theorem writable_iff (reworked : Reworked home disk after) :
    folder.Writable home after collection file ↔ folder.Writable home disk collection file := by
  have files {before : List String} (within : before <+: home ++ [collection]) :
      after.files before = disk.files before := by
    apply reworked.elsewhere
    have length := within.length_le
    rw [List.length_append] at length
    exact Nat.ne_of_lt (Nat.lt_succ_of_le length)
  constructor
  · rintro ⟨clear, draftClear, passable, fileShort, fileFree⟩
    exact ⟨clear, draftClear, passable.congr fun within => (files within).symm, fileShort,
      fun there => fileFree (reworked.later.grown _ there)⟩
  · rintro ⟨clear, draftClear, passable, fileShort, fileFree⟩
    refine ⟨clear, draftClear, passable.congr files, fileShort, ?_⟩
    intro there
    rcases reworked.later.shallow _ there with before | short
    · exact fileFree before
    · rw [List.length_append] at short
      exact Nat.not_succ_le_self _ short

end Reworked

theorem reworked_writeAt (isHome : folder.IsHome home disk)
    (collectionNamed : Place.isDots collection = false) (fileNamed : Place.isDots file = false)
    (content : List UInt8) :
    Reworked home disk (folder.writeAt [collection, file] content disk).2 := by
  obtain ⟨result, left, outcome, later, ⟨-, -, files⟩ | ⟨-, -, same⟩⟩ :=
    writeAt_cases isHome collectionNamed fileNamed content
  · rw [outcome]
    exact .of_update later files
  · rw [outcome]
    exact .of_same later same

theorem reworked_deleteAt (isHome : folder.IsHome home disk)
    (collectionNamed : Place.isDots collection = false) (file : String) :
    Reworked home disk (folder.deleteAt [collection, file] disk).2 := by
  obtain ⟨result, left, outcome, ⟨-, folders, files⟩ | ⟨-, -, same⟩⟩ :=
    deleteAt_cases isHome collectionNamed file
  · rw [outcome]
    exact .of_update (.of_iff folders) files
  · rw [outcome, same]
    exact .refl _ _

end Folder

end Polystore
