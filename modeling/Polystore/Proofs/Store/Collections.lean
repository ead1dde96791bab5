import Polystore.Proofs.Disk.Removal
import Polystore.Proofs.Store.Edits

/-!
# Collections of a store of files

Whatever is put, deleted and committed, a store of files that was opened on an empty folder
stays a pool of collections.  So the drop of a collection spares every other one, unless the
path of the collection leads elsewhere: the empty name leads to the root, and some names with
dots or slashes lead to a collection that is written otherwise.
-/

namespace Polystore

namespace FileStore

open Disk

variable {folder : Folder} {home : List String} {origin disk : Disk} {collection id : String}

/-! ## What operations change -/

/-- Edits change files of documents, and make the folders that these lie in. -/
theorem Edited.reworked {after : Disk} (edited : Edited folder disk after)
    (isHome : folder.IsHome home disk) : Folder.Reworked home disk after := by
  induction edited with
  | refl => exact .refl _ _
  | write edited placed content ih =>
      rcases place_eq_ok placed with ⟨rfl, collectionNamed⟩
      exact ih.trans (Folder.reworked_writeAt (isHome.later ih.later) collectionNamed
        (isDots_append_extension _) content)
  | delete edited placed ih =>
      rcases place_eq_ok placed with ⟨rfl, collectionNamed⟩
      exact ih.trans (Folder.reworked_deleteAt (isHome.later ih.later) collectionNamed _)

/-- An operation changes files of documents, and backs up such files. -/
theorem reworked_perform (isHome : folder.IsHome home disk) (operation : Operation)
    {backups : List Backup} (ofDocuments : ∀ backup ∈ backups, backup.OfDocument) :
    Folder.Reworked home disk (perform folder operation backups disk).2.2 ∧
      ∀ backup ∈ (perform folder operation backups disk).2.1, backup.OfDocument :=
  (Edited.refl.perform operation ofDocuments).imp_left fun edited => edited.reworked isHome

/-- A transaction changes files of documents, whatever comes of it. -/
theorem reworked_commit (isHome : folder.IsHome home disk) (operations : List Operation) :
    Folder.Reworked home disk (commit operations folder disk).2 :=
  (Edited.refl.commit operations).reworked isHome

/-! ## Runs -/

/-- The folder of a store is a pool of collections, which was opened empty. -/
def Shelved (store : FileStore) (home : List String) (origin : Disk) : Prop :=
  store.folder.Shelved home origin store.disk

variable {store : FileStore}

/-- Edits leave a pool of collections. -/
theorem Shelved.edited {later : FileStore} (shelved : store.Shelved home origin)
    (edited : store.EditedTo later) : later.Shelved home origin := by
  rcases later with ⟨folder, disk⟩
  rcases edited with ⟨rfl, edited⟩
  exact Folder.Shelved.reworked shelved (edited.reworked (Folder.Shelved.isHome shelved))

theorem Shelved.runAll {client : Client FileStore} (shelved : client.store.Shelved home origin)
    {steps : List ClientStep} (leave : ∀ step ∈ steps, step.collection? = none) :
    (Client.runAll steps client).2.store.Shelved home origin :=
  shelved.edited (EditedTo.runAll ⟨rfl, .refl⟩ leave)

/-! ## Drops -/

/-- Where two disks have the same at the place of a document, the same is read. -/
theorem get_congr (folder : Folder) {left right : Disk}
    (same : ∀ names, place collection id = .ok names →
      Disk.entry (folder.place names) left = Disk.entry (folder.place names) right) :
    get collection id ⟨folder, left⟩ = get collection id ⟨folder, right⟩ := by
  rw [get, get]
  cases placed : place collection id with
  | error cause => rfl
  | ok names =>
      dsimp only [Except.bind]
      rw [Folder.readAt, Folder.readAt, Disk.readFile, Disk.readFile, same names placed]

/-- The drop of a collection removes the folder that its path stands for, or nothing. -/
theorem deleteFolder_cases (folder : Folder) (path : String) (disk : Disk) :
    (folder.deleteFolder path disk).2 = disk ∨ ∃ names, Folder.resolve path = .ok names ∧
      (folder.deleteFolder path disk).2 = (Disk.removeFolder (folder.place names) disk).2 := by
  rw [Folder.deleteFolder]
  cases Folder.resolve path with
  | error cause => exact Or.inl rfl
  | ok names =>
      refine Or.inr ⟨names, rfl, ?_⟩
      dsimp only
      split
      · next removed => rw [removed]
      · next removed => rw [removed]

/-- A drop spares the collections that its path does not stand for. -/
theorem Shelved.get_dropCollection (shelved : store.Shelved home origin) {dropped : String}
    (elsewhere : ∀ names, Folder.resolve ("/" ++ dropped) = .ok names →
      names ≠ [] ∧ names ≠ [collection]) (id : String) :
    DocumentStore.get collection id (DocumentStore.dropCollection dropped store).2 =
      DocumentStore.get collection id store := by
  apply get_congr store.folder
  intro names placed
  rcases place_eq_ok placed with ⟨rfl, collectionNamed⟩
  have fileNamed := isDots_append_extension id
  change Disk.entry _ (store.folder.deleteFolder ("/" ++ dropped) store.disk).2 = _
  rcases deleteFolder_cases store.folder ("/" ++ dropped) store.disk with
    same | ⟨names, resolved, same⟩
  · rw [same]
  · rw [same]
    rcases elsewhere names resolved with ⟨below, other⟩
    rcases Folder.Shelved.spares_removeFolder shelved (Folder.named_of_resolve resolved) below with
      kept | ⟨name, rfl, spares⟩
    · rw [kept]
    · have apart : ¬home ++ [name] <+: home ++ [collection, id ++ extension] := by
        intro before
        rw [List.prefix_append_right_inj, List.cons_prefix_cons] at before
        exact other (congrArg (fun name => [name]) before.1)
      have led := Folder.Shelved.walk_of_spares shelved spares
      rcases spares _ apart with found | ⟨there, -⟩
      · rw [Folder.entry_file led collectionNamed fileNamed,
          Folder.entry_file (Folder.Shelved.walk shelved) collectionNamed fileNamed, found]
      · exact absurd there (shelved.level collection (id ++ extension))

/-- What can be the name of a collection stands for itself. -/
theorem resolve_of_isName (named : isName collection = true) :
    Folder.resolve ("/" ++ collection) = .ok [collection] := by
  rw [isName, decide_eq_true_iff, not_or, not_or, not_or] at named
  rcases named with ⟨nonempty, dot, dots, slash⟩
  have plain : Folder.IsPlain collection := ⟨nonempty, dot, dots, slash⟩
  have written : "/" ++ collection = Folder.plainPath [collection] := by
    apply String.toList_injective
    simp [Folder.plainPath, Text.join]
  rw [written]
  exact Folder.resolve_plainPath (List.forall_mem_singleton.mpr plain)

/-- Whatever was done to the documents of a store that was opened on an empty folder, the drop
of a collection leaves every answer about another collection as it was, if the path of the
collection stands neither for the root nor for that other collection. -/
theorem get_after_drop {client : Client FileStore}
    (opened : Folder.entryAt client.store.folder.text client.store.disk = .ok (.folder []))
    {steps : List ClientStep} (leave : ∀ step ∈ steps, step.collection? = none)
    {dropped collection : String}
    (elsewhere : ∀ names, Folder.resolve ("/" ++ dropped) = .ok names →
      names ≠ [] ∧ names ≠ [collection]) (id : String) :
    let store := (Client.runAll steps client).2.store
    DocumentStore.get collection id (DocumentStore.dropCollection dropped store).2 =
      DocumentStore.get collection id store := by
  rcases Folder.exists_shelved opened with ⟨home, shelved⟩
  have start : client.store.Shelved home client.store.disk := shelved
  exact (start.runAll leave).get_dropCollection elsewhere id

/-- A document is read as before when the collection beside its own is dropped. -/
theorem get_after_drop_of_neighbour :
    let client : Client FileStore := { store := ⟨⟨"/data"⟩, [("data", .folder [])]⟩ }
    let steps : List ClientStep := [.put "a" "x" (.object []), .stagePut 0 "b" "x" (.object []),
      .commit 0, .start 0, .stageDrop 0 "b", .commit 0]
    let store := (Client.runAll steps client).2.store
    let after := (DocumentStore.dropCollection "a" store).2
    DocumentStore.get "b" "x" after = DocumentStore.get "b" "x" store ∧
      (DocumentStore.get "b" "x" store).isOk = true ∧
      (DocumentStore.get "a" "x" after).isOk = false := by
  have elsewhere : ∀ names, Folder.resolve ("/" ++ "a") = .ok names →
      names ≠ [] ∧ names ≠ ["b"] := by
    intro names resolved
    cases (resolve_of_isName (by decide)).symm.trans resolved
    decide
  have opened : Folder.entryAt "/data" [("data", .folder [])] = .ok (.folder []) := rfl
  intro client steps
  have leave : ∀ step ∈ steps, step.collection? = none := by decide
  constructor
  · exact get_after_drop opened leave elsewhere "x"
  · decide +kernel

/-- The empty name stands for the root, and other names for collections that are written
otherwise: the drop of any of these loses a document of another collection. -/
theorem get_lost_after_drop :
    let client : Client FileStore := { store := ⟨⟨"/data"⟩, [("data", .folder [])]⟩ }
    let store := (Client.run (.put "c" "a" (.object [])) client).2.store
    ∀ dropped ∈ ["", ".", "b/..", "./c", "c/"], dropped ≠ "c" ∧
      (DocumentStore.get "c" "a" store).isOk = true ∧
      (DocumentStore.get "c" "a" (DocumentStore.dropCollection dropped store).2).isOk = false := by
  decide +kernel

end FileStore

end Polystore
