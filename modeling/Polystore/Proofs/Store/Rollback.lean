import Polystore.Proofs.Disk.Folder
import Polystore.Store.Files

/-!
# Transactions over files

What a transaction changes is remembered file by file.  While it runs, putting the backups
back gives the files that there were at its start: of a file that was changed twice the
oldest backup is put back last.
-/

namespace Polystore.FileStore

open Disk

variable {folder : Folder} {home : List String} {disk after next start : Disk}
  {collection id file : String} {content : Option (List UInt8)}

/-! ## The files of documents -/

/-- What can be the name of a file is neither `.` nor `..`. -/
theorem isDots_of_isName {text : String} (named : isName text = true) :
    Place.isDots text = false := by
  rw [isName, decide_eq_true_iff, not_or, not_or] at named
  rw [Place.isDots, Bool.or_eq_false_iff, beq_eq_false_iff_ne, beq_eq_false_iff_ne]
  exact ⟨named.2.1, fun same => named.2.2 (Or.inl same)⟩

theorem isDots_append_extension (id : String) : Place.isDots (id ++ extension) = false := by
  have long : (id ++ extension).length = id.length + 5 := String.length_append _ _
  have dot : ".".length = 1 := rfl
  have dots : "..".length = 2 := rfl
  rw [Place.isDots, Bool.or_eq_false_iff, beq_eq_false_iff_ne, beq_eq_false_iff_ne]
  constructor
  · intro same
    rw [same] at long
    omega
  · intro same
    rw [same] at long
    omega

/-- The names on the way to a document are a collection and a file. -/
theorem place_eq_ok {names : List String} (placed : place collection id = .ok names) :
    names = [collection, id ++ extension] ∧ Place.isDots collection = false := by
  rw [place] at placed
  split at placed
  · contradiction
  · next bad =>
    have named := List.find?_eq_none.mp bad collection List.mem_cons_self
    rw [decide_eq_true_iff, not_not] at named
    exact ⟨(Except.ok.inj placed).symm, isDots_of_isName named⟩

/-- The content of the file of a document, if it can be read. -/
def held (folder : Folder) (disk : Disk) (collection id : String) : Option (List UInt8) :=
  (place collection id).toOption.bind fun names => (folder.readAt names disk).toOption

/-- What becomes of the file of a document. -/
def fileEffect (collection id : String) (found : Option (List UInt8)) :
    Operation → Option (List UInt8)
  | .put changed name stored =>
      if collection = changed ∧ id = name then some (encode stored) else found
  | .delete changed name => if collection = changed ∧ id = name then none else found
  | .drop _ => found

theorem readAt_eq_ok_iff {names : List String} {content : List UInt8} :
    folder.readAt names disk = .ok content ↔
      Disk.readFile (folder.place names) disk = .ok content := by
  rw [Folder.readAt, Folder.faulted]
  cases Disk.readFile (folder.place names) disk with
  | ok found =>
      constructor
      · rintro ⟨⟩
        rfl
      · rintro ⟨⟩
        rfl
  | error fault => exact iff_of_false nofun nofun

/-- What was read before a change lies there, and where nothing was, there is no folder. -/
theorem contentAt_eq_ok (isHome : folder.IsHome home disk)
    (collectionNamed : Place.isDots collection = false) (fileNamed : Place.isDots file = false)
    (read : contentAt folder [collection, file] disk = .ok content) :
    placeFault? (folder.place [collection, file]) = none ∧
      disk.files (home ++ [collection, file]) = content ∧
      ¬HasFolder disk (home ++ [collection, file]) := by
  rw [contentAt] at read
  split at read
  · next found there =>
    cases read
    obtain ⟨clear, lies⟩ := (Folder.readFile_eq_ok_iff isHome collectionNamed fileNamed _).mp
      (readAt_eq_ok_iff.mp there)
    refine ⟨clear, lies, ?_⟩
    intro folder
    rw [files_of_hasFolder folder] at lies
    cases lies
  · next cause failed =>
    split at read
    · next notFound =>
      cases read
      have missing : Disk.readFile (folder.place [collection, file]) disk = .error .missing := by
        rw [Folder.readAt, Folder.faulted] at failed
        cases outcome : Disk.readFile (folder.place [collection, file]) disk with
        | ok found =>
            rw [outcome] at failed
            cases failed
        | error fault =>
            rw [outcome] at failed
            cases failed
            cases fault with
            | missing => rfl
            | _ => contradiction
      obtain ⟨clear, nothing⟩ :=
        Folder.of_readFile_missing isHome collectionNamed fileNamed missing
      refine ⟨clear, ?_, ?_⟩
      · rw [files, nothing]
        rfl
      · rintro ⟨entries, found⟩
        rw [nothing] at found
        cases found
    · contradiction

/-! ## Putting files back -/

/-- Putting a file back changes that file only, or nothing. -/
theorem restoreFile_cases (isHome : folder.IsHome home disk)
    (collectionNamed : Place.isDots collection = false) (fileNamed : Place.isDots file = false)
    (content : Option (List UInt8)) :
    Later (home.length + 1) disk (restoreFile folder disk ⟨[collection, file], content⟩) ∧
      ((restoreFile folder disk ⟨[collection, file], content⟩).files =
          Function.update disk.files (home ++ [collection, file]) content ∨
        (restoreFile folder disk ⟨[collection, file], content⟩).files = disk.files) := by
  rw [restoreFile]
  cases content with
  | some bytes =>
      obtain ⟨result, left, written, later, changed⟩ :=
        Folder.writeAt_cases isHome collectionNamed fileNamed bytes
      dsimp only
      rw [written]
      refine ⟨later, ?_⟩
      rcases changed with ⟨-, -, changed⟩ | ⟨-, -, same⟩
      · exact Or.inl changed
      · exact Or.inr same
  | none =>
      obtain ⟨result, left, removed, changed⟩ :=
        Folder.deleteAt_cases isHome collectionNamed file
      dsimp only
      rw [removed]
      rcases changed with ⟨-, folders, changed⟩ | ⟨-, -, same⟩
      · exact ⟨.of_iff folders, Or.inl changed⟩
      · rw [same]
        exact ⟨.refl _ _, Or.inr rfl⟩

/-- The place of a draft that is not too long has no fault that its collection does not
have. -/
theorem placeFault?_draft (clear : placeFault? (folder.place [collection, file]) = none)
    (room : (folder.draftPlace collection).size < 4096) :
    placeFault? (folder.draftPlace collection) = none := by
  have collectionClear := Folder.placeFault?_collection clear
  rw [placeFault?] at collectionClear ⊢
  split at collectionClear
  · contradiction
  · next letters =>
    rw [Folder.parts_place] at letters
    rw [Folder.draftPlace, Folder.parts_file, List.any_append, if_neg, if_neg]
    · exact Nat.not_le_of_lt room
    · rw [Bool.or_eq_true, not_or]
      exact ⟨letters, by decide⟩

/-- A file that was read before changes can be put back after them. -/
theorem files_restoreFile (isHome : folder.IsHome home disk)
    (collectionNamed : Place.isDots collection = false) (fileNamed : Place.isDots file = false)
    (read : contentAt folder [collection, file] disk = .ok content)
    (draftClear : content ≠ none → placeFault? (folder.draftPlace collection) = none)
    (later : Later (home.length + 1) disk after) :
    (restoreFile folder after ⟨[collection, file], content⟩).files =
      Function.update after.files (home ++ [collection, file]) content := by
  obtain ⟨clear, lies, vacant⟩ := contentAt_eq_ok isHome collectionNamed fileNamed read
  have afterHome := isHome.later later
  rw [restoreFile]
  cases content with
  | some bytes =>
      dsimp only
      have found := files_eq_some_iff.mp lies
      rw [List.append_cons] at found
      have there := later.grown _ (hasFolder_of_look_append (List.cons_ne_nil file []) found)
      have afterVacant : ¬HasFolder after (home ++ [collection, file]) := by
        intro folder
        rcases later.shallow _ folder with before | short
        · exact vacant before
        · rw [List.length_append] at short
          exact Nat.not_succ_le_self _ short
      have succeeds := Folder.writeAt_of_hasFolder afterHome collectionNamed fileNamed clear
        (draftClear nofun) there (not_tooLong_of_look found) afterVacant bytes
      obtain ⟨result, left, written, -, ⟨-, -, changed⟩ | ⟨cause, failed, -⟩⟩ :=
        Folder.writeAt_cases afterHome collectionNamed fileNamed bytes
      · rw [written]
        exact changed
      · rw [written, failed] at succeeds
        cases succeeds
  | none =>
      dsimp only
      obtain ⟨result, left, removed, ⟨-, -, changed⟩ | ⟨cause, failed, same⟩⟩ :=
        Folder.deleteAt_cases afterHome collectionNamed file
      · rw [removed]
        exact changed
      · cases present : after.files (home ++ [collection, file]) with
        | some bytes =>
            have succeeds :=
              Folder.deleteAt_of_files afterHome collectionNamed fileNamed clear present
            rw [removed, failed] at succeeds
            cases succeeds
        | none =>
            rw [removed, same, ← present, Function.update_eq_self]

/-! ## Backups -/

/-- Whatever folders are made, putting the backups back gives the files of the start. -/
def Undoes (folder : Folder) (home : List String) (disk : Disk) (backups : List Backup)
    (start : Disk) : Prop :=
  ∀ after, Later (home.length + 1) disk after → after.files = disk.files →
    (restore folder backups after).files = start.files

theorem undoes_nil (folder : Folder) (home : List String) (disk : Disk) :
    Undoes folder home disk [] disk :=
  fun _ _ same => same

variable {backups : List Backup} {backup : Backup}

/-- One more backup undoes a change. -/
theorem Undoes.push (undoes : Undoes folder home disk backups start)
    (later : Later (home.length + 1) disk next)
    (back : ∀ after, Later (home.length + 1) next after → after.files = next.files →
      Later (home.length + 1) after (restoreFile folder after backup) ∧
        (restoreFile folder after backup).files = disk.files) :
    Undoes folder home next (backup :: backups) start := by
  intro after afterLater same
  obtain ⟨restored, files⟩ := back after afterLater same
  exact undoes _ ((later.trans afterLater).trans restored) files

/-- A change of a file is undone by the backup of what was read before. -/
theorem Undoes.change (undoes : Undoes folder home disk backups start)
    (isHome : folder.IsHome home disk)
    (collectionNamed : Place.isDots collection = false) (fileNamed : Place.isDots file = false)
    (read : contentAt folder [collection, file] disk = .ok content)
    (draftClear : content ≠ none → placeFault? (folder.draftPlace collection) = none)
    (later : Later (home.length + 1) disk next) {new : Option (List UInt8)}
    (changed : next.files = Function.update disk.files (home ++ [collection, file]) new) :
    Undoes folder home next (⟨[collection, file], content⟩ :: backups) start := by
  apply undoes.push later
  intro after afterLater same
  obtain ⟨-, lies, -⟩ := contentAt_eq_ok isHome collectionNamed fileNamed read
  constructor
  · exact (restoreFile_cases ((isHome.later later).later afterLater) collectionNamed fileNamed
      content).1
  · rw [files_restoreFile isHome collectionNamed fileNamed read draftClear (later.trans afterLater),
      same, changed, Function.update_idem, ← lies, Function.update_eq_self]

/-- A write that failed needs no undoing, whatever comes of putting its file back. -/
theorem Undoes.keep (undoes : Undoes folder home disk backups start)
    (isHome : folder.IsHome home disk)
    (collectionNamed : Place.isDots collection = false) (fileNamed : Place.isDots file = false)
    (read : contentAt folder [collection, file] disk = .ok content)
    (later : Later (home.length + 1) disk next) (kept : next.files = disk.files) :
    Undoes folder home next (⟨[collection, file], content⟩ :: backups) start := by
  apply undoes.push later
  intro after afterLater same
  obtain ⟨-, lies, -⟩ := contentAt_eq_ok isHome collectionNamed fileNamed read
  obtain ⟨restored, files⟩ := restoreFile_cases ((isHome.later later).later afterLater)
    collectionNamed fileNamed content
  refine ⟨restored, ?_⟩
  rcases files with updated | unchanged
  · rw [updated, same, kept, ← lies, Function.update_eq_self]
  · rw [unchanged, same, kept]

/-! ## Operations -/

/-- What can be read of a document is the file at its place, if the place has no fault. -/
theorem held_eq_some_iff (isHome : folder.IsHome home disk) {names : List String}
    (placed : place collection id = .ok names) (content : List UInt8) :
    held folder disk collection id = some content ↔
      placeFault? (folder.place names) = none ∧ disk.files (home ++ names) = some content := by
  obtain ⟨rfl, collectionNamed⟩ := place_eq_ok placed
  rw [held, placed,
    ← Folder.readFile_eq_ok_iff isHome collectionNamed (isDots_append_extension id),
    ← readAt_eq_ok_iff]
  change (folder.readAt [collection, id ++ extension] disk).toOption = some content ↔ _
  cases folder.readAt [collection, id ++ extension] disk with
  | error cause => exact iff_of_false nofun nofun
  | ok found =>
      constructor
      · rintro ⟨⟩
        rfl
      · rintro ⟨⟩
        rfl

/-- The change of one file is a change of one document. -/
theorem held_of_update (isHome : folder.IsHome home disk) (nextHome : folder.IsHome home next)
    {changed name : String} {names : List String} (placed : place changed name = .ok names)
    (clear : placeFault? (folder.place names) = none)
    (files : next.files = Function.update disk.files (home ++ names) content)
    (collection id : String) :
    held folder next collection id =
      if collection = changed ∧ id = name then content
      else held folder disk collection id := by
  cases other : place collection id with
  | error cause =>
      rw [held, held, other]
      split
      · next same =>
        rw [same.1, same.2, placed] at other
        cases other
      · rfl
  | ok otherNames =>
      apply Option.ext
      intro bytes
      rw [held_eq_some_iff nextHome other, files]
      obtain ⟨rfl, -⟩ := place_eq_ok placed
      obtain ⟨rfl, -⟩ := place_eq_ok other
      split
      · next same =>
        rw [same.1, same.2, Function.update_self]
        exact and_iff_right clear
      · next differ =>
        rw [held_eq_some_iff isHome other, Function.update_of_ne]
        intro same
        apply differ
        obtain ⟨head, tail⟩ := List.cons.inj (List.append_cancel_left same)
        refine ⟨head, ?_⟩
        have letters := congrArg String.toList (List.cons.inj tail).1
        rw [String.toList_append, String.toList_append] at letters
        exact String.toList_inj.mp (List.append_cancel_right letters)

/-- What a step leaves is taken back by its backups.  If the step succeeds, it changes the
document of its operation and no other. -/
structure Performed (folder : Folder) (home : List String) (start disk : Disk)
    (operation : Operation) (outcome : Outcome (List Backup × Disk) Unit) : Prop where
  later : Later (home.length + 1) disk outcome.2.2
  undoes : Undoes folder home outcome.2.2 outcome.2.1 start
  effects : outcome.1 = .ok () → ∀ collection id, held folder outcome.2.2 collection id =
    fileEffect collection id (held folder disk collection id) operation

theorem performed_of_refused {operation : Operation} {cause : Error}
    (undoes : Undoes folder home disk backups start) :
    Performed folder home start disk operation (.error cause, backups, disk) :=
  ⟨.refl _ _, undoes, nofun⟩

theorem performed_put (isHome : folder.IsHome home disk)
    (undoes : Undoes folder home disk backups start) (collection id : String) (stored : Json) :
    Performed folder home start disk (.put collection id stored)
      (perform folder (.put collection id stored) backups disk) := by
  rw [perform]
  cases placed : place collection id with
  | error cause => exact performed_of_refused undoes
  | ok names =>
      obtain ⟨rfl, collectionNamed⟩ := place_eq_ok placed
      have fileNamed := isDots_append_extension id
      dsimp only
      cases read : contentAt folder [collection, id ++ extension] disk with
      | error cause => exact performed_of_refused undoes
      | ok content =>
          obtain ⟨clear, -, -⟩ := contentAt_eq_ok isHome collectionNamed fileNamed read
          obtain ⟨result, left, written, later, outcome⟩ :=
            Folder.writeAt_cases isHome collectionNamed fileNamed (encode stored)
          dsimp only
          rw [written]
          rcases outcome with ⟨rfl, draftClear, files⟩ | ⟨cause, rfl, same⟩
          · have undone := undoes.change isHome collectionNamed fileNamed read
              (fun _ => draftClear) later files
            exact ⟨later, undone, fun _ =>
              held_of_update isHome (isHome.later later) placed clear files⟩
          · have undone := undoes.keep isHome collectionNamed fileNamed read later same
            exact ⟨later, undone, nofun⟩

/-- A document that was deleted can be put back if its draft finds room. -/
theorem performed_delete (isHome : folder.IsHome home disk)
    (undoes : Undoes folder home disk backups start) (collection id : String)
    (room : (folder.draftPlace collection).size < 4096) :
    Performed folder home start disk (.delete collection id)
      (perform folder (.delete collection id) backups disk) := by
  rw [perform]
  cases placed : place collection id with
  | error cause => exact performed_of_refused undoes
  | ok names =>
      obtain ⟨rfl, collectionNamed⟩ := place_eq_ok placed
      have fileNamed := isDots_append_extension id
      dsimp only
      cases read : contentAt folder [collection, id ++ extension] disk with
      | error cause => exact performed_of_refused undoes
      | ok content =>
          obtain ⟨clear, lies, -⟩ := contentAt_eq_ok isHome collectionNamed fileNamed read
          cases content with
          | none =>
              have same : disk.files =
                  Function.update disk.files (home ++ [collection, id ++ extension]) none := by
                rw [← lies, Function.update_eq_self]
              exact ⟨.refl _ _, undoes, fun _ => held_of_update isHome isHome placed clear same⟩
          | some bytes =>
              obtain ⟨result, left, removed, outcome⟩ :=
                Folder.deleteAt_cases isHome collectionNamed (id ++ extension)
              dsimp only
              rw [removed]
              rcases outcome with ⟨rfl, folders, files⟩ | ⟨cause, rfl, rfl⟩
              · have later : Later (home.length + 1) disk left := .of_iff folders
                have undone := undoes.change isHome collectionNamed fileNamed read
                  (fun _ => placeFault?_draft clear room) later files
                exact ⟨later, undone, fun _ =>
                  held_of_update isHome (isHome.later later) placed clear files⟩
              · have undone :=
                  undoes.keep isHome collectionNamed fileNamed read (.refl _ _) rfl
                exact ⟨.refl _ _, undone, nofun⟩

/-- A step changes the document of its operation, and its backups undo it. -/
theorem performed_perform (isHome : folder.IsHome home disk)
    (undoes : Undoes folder home disk backups start) {operation : Operation}
    (kept : dropped? operation = none)
    (room : ∀ collection id, operation = .delete collection id →
      (folder.draftPlace collection).size < 4096) :
    Performed folder home start disk operation (perform folder operation backups disk) := by
  cases operation with
  | drop collection => contradiction
  | put collection id stored => exact performed_put isHome undoes collection id stored
  | delete collection id =>
      exact performed_delete isHome undoes collection id (room collection id rfl)

/-- Operations in order change their documents, or nothing. -/
theorem performAll_cases (isHome : folder.IsHome home disk)
    (undoes : Undoes folder home disk backups start) {operations : List Operation}
    (kept : ∀ operation ∈ operations, dropped? operation = none)
    (room : ∀ collection id, .delete collection id ∈ operations →
      (folder.draftPlace collection).size < 4096) :
    ∃ result after, performAll folder operations backups disk = (result, after) ∧
      ((result = .ok () ∧ ∀ collection id, held folder after collection id =
          operations.foldl (fileEffect collection id) (held folder disk collection id)) ∨
        ∃ cause, result = .error cause ∧ after.files = start.files) := by
  induction operations generalizing disk backups with
  | nil => exact ⟨_, _, rfl, Or.inl ⟨rfl, fun _ _ => rfl⟩⟩
  | cons operation rest ih =>
      have performed := performed_perform isHome undoes (kept operation List.mem_cons_self)
        (fun collection id same => room collection id (same ▸ List.mem_cons_self))
      rw [performAll]
      generalize perform folder operation backups disk = step at performed ⊢
      rcases step with ⟨result, more, next⟩
      obtain ⟨later, undone, effects⟩ := performed
      cases result with
      | error cause => exact ⟨_, _, rfl, Or.inr ⟨_, rfl, undone next (.refl _ _) rfl⟩⟩
      | ok _ =>
          obtain ⟨last, after, carried, outcome⟩ := ih (isHome.later later) undone
            (fun operation member => kept operation (List.mem_cons_of_mem _ member))
            (fun collection id member => room collection id (List.mem_cons_of_mem _ member))
          refine ⟨last, after, carried, outcome.imp_left ?_⟩
          rintro ⟨succeeded, documents⟩
          refine ⟨succeeded, ?_⟩
          intro collection id
          rw [documents, effects rfl]
          rfl

/-! ## Transactions -/

/-- No document has an empty id. -/
theorem exists_place_error (collection : String) : ∃ cause, place collection "" = .error cause := by
  rw [place]
  split
  · exact ⟨_, rfl⟩
  · next bad =>
    have named := List.find?_eq_none.mp bad "" (List.mem_cons_of_mem _ List.mem_cons_self)
    exact absurd (by decide) named

/-- Without room for a draft, a document that is deleted is lost when the transaction fails. -/
theorem commit_loses_without_room (isHome : folder.IsHome home disk) {names : List String}
    (placed : place collection id = .ok names) {bytes : List UInt8}
    (read : folder.readAt names disk = .ok bytes)
    (crowded : placeFault? (folder.draftPlace collection) ≠ none) (stored : Json) :
    ∃ cause after,
      commit [.delete collection id, .put collection "" stored] folder disk =
        (.error cause, after) ∧
      held folder after collection id = none := by
  obtain ⟨rfl, collectionNamed⟩ := place_eq_ok placed
  have fileNamed := isDots_append_extension id
  have before : contentAt folder [collection, id ++ extension] disk = .ok (some bytes) := by
    rw [contentAt, read]
  obtain ⟨clear, lies, -⟩ := contentAt_eq_ok isHome collectionNamed fileNamed before
  have removes := Folder.deleteAt_of_files isHome collectionNamed fileNamed clear lies
  obtain ⟨result, left, removed, ⟨rfl, folders, files⟩ | ⟨cause, rfl, -⟩⟩ :=
    Folder.deleteAt_cases isHome collectionNamed (id ++ extension)
  · have leftHome := isHome.later (.of_iff folders : Later 0 disk left)
    obtain ⟨cause, refused⟩ := exists_place_error collection
    obtain ⟨last, after, written, later, ⟨-, draftClear, -⟩ | ⟨-, -, same⟩⟩ :=
      Folder.writeAt_cases leftHome collectionNamed fileNamed bytes
    · exact absurd draftClear crowded
    · refine ⟨.rolledBack cause, after, ?_, ?_⟩
      · rw [commit]
        change performAll folder [.delete collection id, .put collection "" stored] [] disk = _
        rw [performAll, perform, placed]
        dsimp only
        rw [before]
        dsimp only
        rw [removed]
        dsimp only
        rw [performAll, perform, refused]
        dsimp only
        rw [restore, List.foldl_cons, List.foldl_nil, restoreFile]
        dsimp only
        rw [written]
      · cases found : held folder after collection id with
        | none => rfl
        | some content =>
            obtain ⟨-, there⟩ :=
              (held_eq_some_iff (leftHome.later later) placed content).mp found
            rw [same, files, Function.update_self] at there
            cases there
  · rw [removed] at removes
    cases removes

end Polystore.FileStore
