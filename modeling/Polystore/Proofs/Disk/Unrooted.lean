import Polystore.Proofs.Disk.Calls
import Polystore.Proofs.Disk.Writable

/-!
# Pools whose root leads nowhere

The root of a pool can be gone.  A file that is written then makes it again, as far as this can be
done.  Making a folder again where it was made or could not be made changes nothing, so there are
two kinds of such pools: those whose root is made by any file that can be written, and those in
which no file can be written, whatever is tried.
-/

namespace Polystore

namespace Disk

variable {disk after : Disk} {place parent : Place} {here there : List String} {fault : FileFault}

/-! ## Making folders again -/

/-- A folder that is there is not made. -/
theorem makeFoldersWithin_of_walk (fuel : Nat) (clear : placeFault? place = none)
    (walked : walk disk [] place.parts = .ok there) :
    makeFoldersWithin fuel place disk = (.ok (), disk) := by
  rw [← run_folderCalls]
  exact (run_folderCalls_of_walk fuel clear walked).1

/-- Where no folder is made, nothing is changed. -/
theorem eq_of_ensureFolder (failed : ensureFolder place disk = (.error fault, after)) :
    after = disk := by
  rw [ensureFolder] at failed
  split at failed
  · cases failed
  · split at failed
    · cases failed
    · cases failed
      rfl
  · cases failed
    rfl

/-- A folder that could be made has a place without fault, in a folder. -/
theorem exists_walk_of_parent (made : ensureFolder place disk = (.ok (), after)) :
    placeFault? place = none ∧ ∀ parent, place.parent? = some parent →
      ∃ there, walk disk [] parent.parts = .ok there := by
  rw [ensureFolder] at made
  split at made
  · next outcome =>
    obtain ⟨before, last, here, written, named, clear, walked, -⟩ := exists_changeAt outcome
    refine ⟨clear, ?_⟩
    intro parent above
    obtain ⟨reversed, same, texts⟩ := exists_ofTrimmed written named
    cases above.symm.trans same
    rw [walk_ofTrimmed, texts]
    exact ⟨here, walked⟩
  · split at made
    · next present =>
      rw [isFolder] at present
      split at present
      · next entries found =>
        have clear := found
        rw [entry, checked_eq_ok_iff] at clear
        refine ⟨clear.1, ?_⟩
        intro parent above
        obtain ⟨there, walked, -⟩ := exists_walk_of_entry found
        obtain ⟨more, divided⟩ := exists_parts_append above
        rw [divided] at walked
        obtain ⟨between, first, -⟩ := exists_walk_of_append walked
        exact ⟨between, first⟩
      · contradiction
    · cases made
  · cases made

/-- Making a folder goes the second time as it went the first time. -/
theorem ensureFolder_again {result : Except FileFault Unit}
    (outcome : ensureFolder place disk = (result, after)) :
    ensureFolder place after = (result, after) := by
  rcases result with fault | ⟨⟨⟩⟩
  · cases eq_of_ensureFolder outcome
    exact outcome
  · obtain ⟨there, walked⟩ := exists_walk_of_ensureFolder outcome
    exact ensureFolder_of_walk (exists_walk_of_parent outcome).1 walked

/-- Only what is missing makes folders be made first. -/
theorem makeFoldersWithin_of_ne_missing (fuel : Nat) {result : Except FileFault Unit}
    (first : ensureFolder place disk = (result, after)) (other : result ≠ .error .missing) :
    makeFoldersWithin (fuel + 1) place disk = (result, after) := by
  rw [makeFoldersWithin, first]
  split
  · next missing => exact absurd (congrArg Prod.fst missing) other
  · rfl

theorem makeFoldersWithin_of_missing (fuel : Nat)
    (missing : ensureFolder place disk = (.error .missing, disk))
    (above : place.parent? = some parent) :
    makeFoldersWithin (fuel + 1) place disk =
      match makeFoldersWithin fuel parent disk with
      | (.error fault, left) => (.error fault, left)
      | (.ok (), left) => ensureFolder place left := by
  rw [makeFoldersWithin, missing, above]
  dsimp only [Option.map]
  rcases makeFoldersWithin fuel parent disk with ⟨_ | ⟨⟨⟩⟩, left⟩
  · rfl
  · rfl

/-- Where the folder that a place is written in cannot be made, no folder is made. -/
theorem exists_error_of_parent {fuel : Nat} (above : place.parent? = some parent)
    (refused : makeFoldersWithin fuel parent disk = (.error fault, disk)) :
    ∃ again, makeFoldersWithin (fuel + 1) place disk = (.error again, disk) := by
  rcases outcome : ensureFolder place disk with ⟨wrong | ⟨⟨⟩⟩, left⟩
  · cases eq_of_ensureFolder outcome
    by_cases missing : wrong = .missing
    · subst missing
      refine ⟨fault, ?_⟩
      rw [makeFoldersWithin_of_missing fuel outcome above, refused]
    · exact ⟨wrong, makeFoldersWithin_of_ne_missing fuel outcome
        fun same => missing (Except.error.inj same)⟩
  · obtain ⟨clear, led⟩ := exists_walk_of_parent outcome
    obtain ⟨there, walked⟩ := led parent above
    rw [makeFoldersWithin_of_walk fuel ((continues_parent? above).placeFault? clear) walked]
      at refused
    cases refused

/-- Making folders for the second time goes as it went for the first time, and changes nothing. -/
theorem makeFoldersWithin_again {fuel : Nat} {result : Except FileFault Unit}
    (made : makeFoldersWithin fuel place disk = (result, after)) :
    ∃ again, makeFoldersWithin fuel place after = (again, after) ∧ again.isOk = result.isOk := by
  induction fuel generalizing place disk result after with
  | zero =>
      cases made
      exact ⟨_, rfl, rfl⟩
  | succ fuel ih =>
      rcases first : ensureFolder place disk with ⟨outcome, left⟩
      by_cases missing : outcome = .error .missing
      · subst missing
        cases eq_of_ensureFolder first
        cases above : place.parent? with
        | none =>
            have nothing : makeFoldersWithin (fuel + 1) place disk = (.ok (), disk) := by
              rw [makeFoldersWithin, first, above]
              rfl
            cases made.symm.trans nothing
            exact ⟨_, made, rfl⟩
        | some parent =>
            rw [makeFoldersWithin_of_missing fuel first above] at made
            rcases below : makeFoldersWithin fuel parent disk with ⟨refused | ⟨⟨⟩⟩, left⟩
            · rw [below] at made
              cases made
              rcases ih below with ⟨fault | done, twice, alike⟩
              · rcases exists_error_of_parent above twice with ⟨again, refused⟩
                exact ⟨_, refused, rfl⟩
              · contradiction
            · rw [below] at made
              rcases ih below with ⟨fault | ⟨⟨⟩⟩, twice, alike⟩
              · contradiction
              · have second := ensureFolder_again made
                by_cases absent : result = .error .missing
                · subst absent
                  cases eq_of_ensureFolder made
                  refine ⟨_, ?_, rfl⟩
                  rw [makeFoldersWithin_of_missing fuel second above, twice]
                  exact second
                · exact ⟨_, makeFoldersWithin_of_ne_missing fuel second absent, rfl⟩
      · cases made.symm.trans (makeFoldersWithin_of_ne_missing fuel first missing)
        exact ⟨_, makeFoldersWithin_of_ne_missing fuel (ensureFolder_again first) missing, rfl⟩

/-! ## Places behind an obstacle -/

/-- No folder is made at a place with a fault of its own. -/
theorem ensureFolder_of_placeFault? (wrong : placeFault? place = some fault) (disk : Disk) :
    ensureFolder place disk = (.error fault, disk) := by
  rw [ensureFolder, makeFolder, changeEntry, checked, wrong]
  split
  · next made => contradiction
  · next same =>
    rw [isFolder, entry, checked, wrong, Except.error.inj same]
    rfl
  · next same => rw [Except.error.inj same]

end Disk

namespace Folder

open Disk

variable {folder : Folder} {home : List String} {disk made : Disk} {collection file : String}
  {content : List UInt8} {fault : FileFault}

/-! ## Making the root -/

/-- Where the folders of collections are made: the root without single dots at its end. -/
def rootPlace (folder : Folder) : Place :=
  .ofTrimmed (Place.ofText folder.text).absolute (Place.ofText folder.text).written.reverse

/-- Make the root and the folders that it is written in, as far as they are missing. -/
def makeRoot (folder : Folder) (disk : Disk) : Except FileFault Unit × Disk :=
  Disk.makeFoldersWithin folder.parts.length folder.rootPlace disk

theorem walk_rootPlace (folder : Folder) (disk : Disk) :
    disk.walk [] folder.rootPlace.parts = disk.walk [] folder.parts := by
  rw [rootPlace, walk_ofTrimmed, List.reverse_reverse]
  rfl

theorem length_parts_rootPlace (folder : Folder) :
    folder.rootPlace.parts.length ≤ folder.parts.length := by
  rw [rootPlace, parts, Place.parts, Place.parts, List.length_map, List.length_map,
    Place.ofTrimmed]
  split
  · rw [List.length_reverse]
    exact (List.dropWhile_sublist _).length_le.trans_eq List.length_reverse
  · split
    · exact Nat.zero_le _
    · rw [List.reverse_reverse]
      exact List.length_take_le' _ _

/-- The folder of a collection is written in the root. -/
theorem parent?_collection (collectionNamed : Place.isDots collection = false) :
    (folder.place [collection]).parent? = some folder.rootPlace :=
  parent?_append _ collectionNamed

theorem placeFault?_rootPlace (collectionNamed : Place.isDots collection = false)
    (clear : placeFault? (folder.place [collection]) = none) :
    placeFault? folder.rootPlace = none :=
  (continues_parent? (parent?_collection collectionNamed)).placeFault? clear

/-- A disk on which the root of a pool is missing, and the disk on which it was made. -/
structure Mended (folder : Folder) (home : List String) (disk made : Disk) : Prop where
  missing : disk.walk [] folder.parts = .error .missing
  makes : folder.makeRoot disk = (.ok (), made)
  led : made.walk [] folder.parts = .ok home

/-- A disk on which the root of a pool leads nowhere and cannot be made. -/
structure Lost (folder : Folder) (disk : Disk) : Prop where
  obstructed : ∃ fault, disk.walk [] folder.parts = .error fault
  refused : disk.walk [] folder.parts = .error .missing →
    ∃ fault, (folder.makeRoot disk).1 = .error fault

/-- The root of a pool leads to a folder, or to where one can be made, or it can be made after
what it is written in, or it leads nowhere. -/
theorem root_cases (folder : Folder) (disk : Disk) :
    (∃ home, folder.IsHome home disk) ∨ (∃ home made, folder.Mended home disk made) ∨
      folder.Lost disk := by
  cases walked : disk.walk [] folder.parts with
  | ok home => exact Or.inl ⟨home, Or.inl walked⟩
  | error fault =>
      apply Or.inr
      rcases outcome : folder.makeRoot disk with ⟨wrong | ⟨⟨⟩⟩, made⟩
      · refine Or.inr ⟨⟨fault, walked⟩, ?_⟩
        intro missing
        exact ⟨wrong, congrArg Prod.fst outcome⟩
      · by_cases missing : fault = .missing
        · subst missing
          rcases exists_walk_of_makeFoldersWithin folder.length_parts_rootPlace outcome with
            ⟨home, led⟩
          rw [walk_rootPlace] at led
          exact Or.inl ⟨home, made, walked, outcome, led⟩
        · refine Or.inr ⟨⟨fault, walked⟩, ?_⟩
          intro same
          exact absurd (Except.error.inj (walked.symm.trans same)) missing

/-! ## Making collections -/

/-- The folder of a collection is made after the root, if the root is missing. -/
theorem makeFolders_of_missing (collectionNamed : Place.isDots collection = false)
    (clear : placeFault? (folder.place [collection]) = none)
    (missing : disk.walk [] folder.parts = .error .missing) :
    Disk.makeFolders (folder.place [collection]) disk =
      match folder.makeRoot disk with
      | (.error fault, left) => (.error fault, left)
      | (.ok (), left) => ensureFolder (folder.place [collection]) left := by
  have written := parts_place folder collection []
  rw [Disk.makeFolders, written, List.length_append]
  exact makeFoldersWithin_of_missing _ (ensureFolder_of_error written clear missing)
    (parent?_collection collectionNamed)

theorem makeFolders_of_error {cause : FileFault} (other : cause ≠ .missing)
    (refused : ensureFolder (folder.place [collection]) disk = (.error cause, disk)) :
    Disk.makeFolders (folder.place [collection]) disk = (.error cause, disk) := by
  rw [Disk.makeFolders, parts_place, List.length_append]
  exact makeFoldersWithin_of_ne_missing _ refused fun same => other (Except.error.inj same)

theorem makeFolders_of_placeFault? (wrong : placeFault? (folder.place [collection]) = some fault)
    (disk : Disk) : Disk.makeFolders (folder.place [collection]) disk = (.error fault, disk) :=
  makeFolders_of_error (ne_missing_of_placeFault? wrong) (ensureFolder_of_placeFault? wrong disk)

/-- A root that leads nowhere still does after it could not be made. -/
theorem Lost.makeFolders (lost : folder.Lost disk)
    (collectionNamed : Place.isDots collection = false) :
    ∃ cause after, Disk.makeFolders (folder.place [collection]) disk = (.error cause, after) ∧
      folder.Lost after := by
  cases clear : placeFault? (folder.place [collection]) with
  | some wrong => exact ⟨wrong, disk, makeFolders_of_placeFault? clear disk, lost⟩
  | none =>
      rcases lost.obstructed with ⟨fault, failed⟩
      by_cases missing : fault = .missing
      · subst missing
        rcases lost.refused failed with ⟨cause, refused⟩
        rw [makeFolders_of_missing collectionNamed clear failed]
        rcases outcome : folder.makeRoot disk with ⟨_ | done, after⟩
        · rcases makeFoldersWithin_again outcome with ⟨again, twice, alike⟩
          refine ⟨_, after, rfl, ?_, ?_⟩
          · cases walked : after.walk [] folder.parts with
            | error fault => exact ⟨fault, rfl⟩
            | ok there =>
                rw [← walk_rootPlace] at walked
                rw [makeFoldersWithin_of_walk _ (placeFault?_rootPlace collectionNamed clear)
                  walked] at twice
                cases twice
                contradiction
          · intro
            rw [makeRoot, twice]
            cases again with
            | error fault => exact ⟨fault, rfl⟩
            | ok done => contradiction
        · rw [outcome] at refused
          contradiction
      · exact ⟨fault, disk, makeFolders_of_error missing
          (ensureFolder_of_error (parts_place folder collection []) clear failed), lost⟩

/-- The root is made before the folder of a collection. -/
theorem Mended.makeFolders (mended : folder.Mended home disk made)
    (collectionNamed : Place.isDots collection = false)
    (clear : placeFault? (folder.place [collection]) = none) :
    Disk.makeFolders (folder.place [collection]) disk =
      Disk.makeFolders (folder.place [collection]) made := by
  rw [makeFolders_of_missing collectionNamed clear mended.missing, mended.makes,
    makeFolders_of_walk (parts_place folder collection []) collectionNamed mended.led]

/-! ## Files -/

theorem Lost.writeAt (lost : folder.Lost disk) (collectionNamed : Place.isDots collection = false)
    (fileNamed : Place.isDots file = false) (content : List UInt8) :
    ∃ cause after, folder.writeAt [collection, file] content disk = (.error cause, after) ∧
      folder.Lost after := by
  rcases lost.makeFolders collectionNamed with ⟨cause, after, refused, still⟩
  refine ⟨.file cause, after, ?_, still⟩
  rw [Folder.writeAt, parent?_file collectionNamed fileNamed, Option.getD_some, refused]

/-- A file is written as if the root had been made before, or it is not written at all. -/
theorem Mended.writeAt (mended : folder.Mended home disk made)
    (collectionNamed : Place.isDots collection = false) (fileNamed : Place.isDots file = false)
    (content : List UInt8) :
    folder.writeAt [collection, file] content disk =
        folder.writeAt [collection, file] content made ∨
      ∃ cause, ∀ other, folder.writeAt [collection, file] content other = (.error cause, other) := by
  cases clear : placeFault? (folder.place [collection]) with
  | none =>
      apply Or.inl
      rw [Folder.writeAt, Folder.writeAt, parent?_file collectionNamed fileNamed,
        Option.getD_some, mended.makeFolders collectionNamed clear]
  | some wrong =>
      refine Or.inr ⟨.file wrong, ?_⟩
      intro other
      rw [Folder.writeAt, parent?_file collectionNamed fileNamed, Option.getD_some,
        makeFolders_of_placeFault? clear]

/-- Behind a root that leads nowhere no file is found. -/
theorem walk_collection_of_error (failed : disk.walk [] folder.parts = .error fault)
    (collection : String) : disk.walk [] (folder.parts ++ [collection]) = .error fault := by
  rw [walk_append, failed]
  rfl

theorem readAt_of_error (fileNamed : Place.isDots file = false)
    (failed : disk.walk [] folder.parts = .error fault) :
    folder.readAt [collection, file] disk =
      .error (.file ((placeFault? (folder.place [collection, file])).getD fault)) := by
  rw [Folder.readAt, Disk.readFile,
    entry_eq (parts_file folder collection file) fileNamed (slash_place _ _ _), checked,
    walk_collection_of_error failed]
  cases placeFault? (folder.place [collection, file]) with
  | some wrong => rfl
  | none => rfl

/-- Behind a root that leads nowhere no file is removed. -/
theorem deleteAt_of_error (failed : disk.walk [] folder.parts = .error fault) :
    ∃ cause, folder.deleteAt [collection, file] disk = (.error cause, disk) := by
  rw [Folder.deleteAt, Disk.removeFile]
  cases clear : placeFault? (folder.place [collection, file]) with
  | some wrong =>
      rw [changeEntry, checked, clear]
      exact ⟨_, rfl⟩
  | none =>
      rw [changeEntry_of_error (parts_file folder collection file) clear
        (walk_collection_of_error failed collection)]
      exact ⟨_, rfl⟩

end Folder

end Polystore
