import Polystore.Proofs.Store.Filed
import Polystore.Proofs.Store.Rollback

/-!
# Edits of a store of files

Whatever is put, deleted and committed, the disk is changed by writing and by removing files of
documents, one after the other.  What holds after each single change holds after all of them.
-/

namespace Polystore

namespace FileStore

open Disk

variable {folder : Folder} {disk after : Disk}

/-- A disk after files of documents were written and removed. -/
inductive Edited (folder : Folder) (disk : Disk) : Disk → Prop
  | refl : Edited folder disk disk
  | write {after : Disk} {collection id : String} {names : List String}
      (edited : Edited folder disk after) (placed : place collection id = .ok names)
      (content : List UInt8) : Edited folder disk (folder.writeAt names content after).2
  | delete {after : Disk} {collection id : String} {names : List String}
      (edited : Edited folder disk after) (placed : place collection id = .ok names) :
      Edited folder disk (folder.deleteAt names after).2

/-- A backup of the file of a document. -/
def Backup.OfDocument (backup : Backup) : Prop :=
  ∃ collection id, place collection id = .ok backup.names

namespace Edited

theorem put (edited : Edited folder disk after) (collection id : String) (value : Json) :
    Edited folder disk (FileStore.put collection id value folder after).2 := by
  rw [FileStore.put]
  split
  · exact edited
  · exact edited
  · next placed _ => exact edited.write placed _

theorem remove (edited : Edited folder disk after) (collection id : String) :
    Edited folder disk (FileStore.delete collection id folder after).2 := by
  rw [FileStore.delete]
  split
  · exact edited
  · next placed => exact edited.delete placed

theorem restoreFile (edited : Edited folder disk after) {backup : Backup}
    (ofDocument : backup.OfDocument) :
    Edited folder disk (FileStore.restoreFile folder after backup) := by
  obtain ⟨collection, id, placed⟩ := ofDocument
  rw [FileStore.restoreFile]
  split
  · exact edited.write placed _
  · exact edited.delete placed

theorem restore (edited : Edited folder disk after) {backups : List Backup}
    (ofDocuments : ∀ backup ∈ backups, backup.OfDocument) :
    Edited folder disk (FileStore.restore folder backups after) := by
  induction backups generalizing after with
  | nil => exact edited
  | cons backup rest ih =>
      rw [List.forall_mem_cons] at ofDocuments
      exact ih (edited.restoreFile ofDocuments.1) ofDocuments.2

/-- An operation edits files of documents, and backs up such files. -/
theorem perform (edited : Edited folder disk after) (operation : Operation)
    {backups : List Backup} (ofDocuments : ∀ backup ∈ backups, backup.OfDocument) :
    Edited folder disk (FileStore.perform folder operation backups after).2.2 ∧
      ∀ backup ∈ (FileStore.perform folder operation backups after).2.1, backup.OfDocument := by
  have push {collection id : String} {names : List String}
      (placed : place collection id = .ok names) (content : Option (List UInt8)) :
      ∀ backup ∈ Backup.mk names content :: backups, backup.OfDocument :=
    List.forall_mem_cons.mpr ⟨⟨collection, id, placed⟩, ofDocuments⟩
  cases operation with
  | drop collection => exact ⟨edited, ofDocuments⟩
  | put collection id stored =>
      rw [FileStore.perform]
      split
      · exact ⟨edited, ofDocuments⟩
      · next placed =>
        split
        · exact ⟨edited, ofDocuments⟩
        · exact ⟨edited.write placed _, push placed _⟩
  | delete collection id =>
      rw [FileStore.perform]
      split
      · exact ⟨edited, ofDocuments⟩
      · next placed =>
        split
        · exact ⟨edited, ofDocuments⟩
        · exact ⟨edited, ofDocuments⟩
        · exact ⟨edited.delete placed, push placed _⟩

theorem performAll (edited : Edited folder disk after) (operations : List Operation)
    {backups : List Backup} (ofDocuments : ∀ backup ∈ backups, backup.OfDocument) :
    Edited folder disk (FileStore.performAll folder operations backups after).2 := by
  induction operations generalizing after backups with
  | nil => exact edited
  | cons operation rest ih =>
      obtain ⟨first, more⟩ := edited.perform operation ofDocuments
      rw [FileStore.performAll]
      generalize FileStore.perform folder operation backups after = step at first more ⊢
      rcases step with ⟨_ | _, backups, next⟩
      · exact first.restore more
      · exact ih first more

/-- A transaction edits files of documents, whatever comes of it. -/
theorem commit (edited : Edited folder disk after) (operations : List Operation) :
    Edited folder disk (FileStore.commit operations folder after).2 := by
  rw [FileStore.commit]
  split
  · exact edited
  · exact edited.performAll operations (List.forall_mem_nil _)

end Edited

/-! ## Runs -/

/-- A store after files of documents were written and removed. -/
def EditedTo (store later : FileStore) : Prop :=
  later.folder = store.folder ∧ Edited store.folder store.disk later.disk

/-- A step that neither creates a collection nor drops one edits files of documents. -/
theorem EditedTo.run {store : FileStore} {client : Client FileStore}
    (edited : store.EditedTo client.store) {step : ClientStep} (leaves : step.collection? = none) :
    store.EditedTo (client.run step).2.store := by
  rcases client with ⟨⟨folder, disk⟩, transactions⟩
  obtain ⟨rfl, edited⟩ := edited
  cases step with
  | put collection id value => exact ⟨rfl, edited.put collection id value⟩
  | get collection id => exact ⟨rfl, edited⟩
  | delete collection id => exact ⟨rfl, edited.remove collection id⟩
  | createCollection collection => contradiction
  | dropCollection collection => contradiction
  | query query => exact ⟨rfl, edited⟩
  | countDistinct query field => exact ⟨rfl, edited⟩
  | start number => exact ⟨rfl, edited⟩
  | stagePut number collection id value => exact ⟨rfl, edited⟩
  | stageDelete number collection id => exact ⟨rfl, edited⟩
  | stageDrop number collection => exact ⟨rfl, edited⟩
  | rollback number => exact ⟨rfl, edited⟩
  | commit number =>
      change store.EditedTo ((transactions number).commit _ ⟨store.folder, disk⟩).2.2
      have outcome := (transactions number).commit_store DocumentStore.commit
        (⟨store.folder, disk⟩ : FileStore)
      rcases outcome with same | committed
      · rw [same]
        exact ⟨rfl, edited⟩
      · rw [committed]
        exact ⟨rfl, edited.commit _⟩

theorem EditedTo.runAll {store : FileStore} {client : Client FileStore}
    (edited : store.EditedTo client.store) {steps : List ClientStep}
    (leave : ∀ step ∈ steps, step.collection? = none) :
    store.EditedTo (Client.runAll steps client).2.store := by
  induction steps generalizing client with
  | nil => exact edited
  | cons step rest ih =>
      rw [List.forall_mem_cons] at leave
      exact ih (edited.run leave.1) leave.2

end FileStore

end Polystore
