import Polystore.Proofs.Json.Reading
import Polystore.Proofs.Store.Collections

/-!
# Documents that a store of files accepts

A document can be put into a store of files exactly if its file can be written.  Neither puts
nor deletes nor transactions change that, so a transaction of puts goes through exactly if
every one of its documents could be put alone.
-/

namespace Polystore.FileStore

open Disk

variable {folder : Folder} {home : List String} {disk after : Disk} {collection id file : String}
  {backups : List Backup} {operation : Operation} {operations : List Operation}

/-! ## Reading what can be written -/

theorem readAt_of_writable (isHome : folder.IsHome home disk)
    (collectionNamed : Place.isDots collection = false) (fileNamed : Place.isDots file = false)
    (writable : folder.Writable home disk collection file) :
    folder.readAt [collection, file] disk =
      match disk.files (home ++ [collection, file]) with
      | some content => .ok content
      | none => .error (.file .missing) := by
  rw [Folder.readAt, writable.readFile isHome collectionNamed fileNamed]
  cases disk.files (home ++ [collection, file]) with
  | none => rfl
  | some content => rfl

theorem contentAt_of_writable (isHome : folder.IsHome home disk)
    (collectionNamed : Place.isDots collection = false) (fileNamed : Place.isDots file = false)
    (writable : folder.Writable home disk collection file) :
    contentAt folder [collection, file] disk = .ok (disk.files (home ++ [collection, file])) := by
  rw [contentAt, readAt_of_writable isHome collectionNamed fileNamed writable]
  cases disk.files (home ++ [collection, file]) with
  | none => rfl
  | some content => rfl

/-- A document that can be read back is decoded from its encoding. -/
theorem decode_encode {stored : Json} (readable : stored.Readable) :
    decode (encode stored) = .ok (Document.withoutId stored) := by
  rw [decode, encode, Json.readBytes?_render readable]

theorem get_of_held {stored : Json} (readable : stored.Readable)
    (found : held folder disk collection id = some (encode stored)) :
    get collection id ⟨folder, disk⟩ = .ok (Document.withoutId stored) := by
  rw [held] at found
  rw [get]
  cases placed : place collection id with
  | error cause =>
      rw [placed] at found
      contradiction
  | ok names =>
      rw [placed] at found
      change (folder.readAt names disk).toOption = _ at found
      dsimp only [Except.bind]
      cases read : folder.readAt names disk with
      | error cause =>
          rw [read] at found
          contradiction
      | ok content =>
          rw [read] at found
          cases found
          exact decode_encode readable

/-! ## Documents that are accepted -/

/-- The collection and the id can be names, and the file of the document can be written. -/
structure Accepts (folder : Folder) (home : List String) (disk : Disk) (collection id : String) :
    Prop where
  collectionNamed : isName collection = true
  idNamed : isName id = true
  writable : folder.Writable home disk collection (id ++ extension)

theorem place_eq_ok_iff {names : List String} :
    place collection id = .ok names ↔
      isName collection = true ∧ isName id = true ∧ names = [collection, id ++ extension] := by
  rw [place]
  cases collectionNamed : isName collection with
  | false => simp [collectionNamed]
  | true =>
      cases idNamed : isName id with
      | false => simp [collectionNamed, idNamed]
      | true =>
          have named : [collection, id].find? (fun text => ¬isName text) = none := by
            simp [collectionNamed, idNamed]
          rw [named]
          constructor
          · rintro ⟨⟩
            exact ⟨rfl, rfl, rfl⟩
          · rintro ⟨-, -, rfl⟩
            rfl

namespace Accepts

theorem place (accepts : Accepts folder home disk collection id) :
    place collection id = .ok [collection, id ++ extension] :=
  place_eq_ok_iff.mpr ⟨accepts.collectionNamed, accepts.idNamed, rfl⟩

/-- Changes of files in collections do not change what is accepted. -/
theorem iff_of_reworked (reworked : Folder.Reworked home disk after) :
    Accepts folder home after collection id ↔ Accepts folder home disk collection id := by
  constructor
  · rintro ⟨collectionNamed, idNamed, writable⟩
    exact ⟨collectionNamed, idNamed, reworked.writable_iff.mp writable⟩
  · rintro ⟨collectionNamed, idNamed, writable⟩
    exact ⟨collectionNamed, idNamed, reworked.writable_iff.mpr writable⟩

theorem contentAt (accepts : Accepts folder home disk collection id)
    (isHome : folder.IsHome home disk) :
    contentAt folder [collection, id ++ extension] disk =
      .ok (disk.files (home ++ [collection, id ++ extension])) :=
  contentAt_of_writable isHome (isDots_of_isName accepts.collectionNamed)
    (isDots_append_extension id) accepts.writable

theorem writeAt (accepts : Accepts folder home disk collection id)
    (isHome : folder.IsHome home disk) (content : List UInt8) :
    (folder.writeAt [collection, id ++ extension] content disk).1 = .ok () :=
  accepts.writable.writeAt isHome (isDots_of_isName accepts.collectionNamed)
    (isDots_append_extension id) content

end Accepts

/-- What was written is accepted. -/
theorem accepts_of_writeAt (isHome : folder.IsHome home disk) {names : List String}
    (placed : place collection id = .ok names) {content : List UInt8}
    (written : (folder.writeAt names content disk).1 = .ok ()) :
    Accepts folder home disk collection id := by
  rcases place_eq_ok_iff.mp placed with ⟨collectionNamed, idNamed, rfl⟩
  exact ⟨collectionNamed, idNamed, Folder.writable_of_writeAt isHome
    (isDots_of_isName collectionNamed) (isDots_append_extension id) written⟩

/-- A put succeeds exactly if the document has a stored form and is accepted. -/
theorem put_eq_ok_iff (isHome : folder.IsHome home disk) (value : Json) :
    (put collection id value folder disk).1 = .ok () ↔
      (∃ stored, Document.withId id value = .ok stored) ∧
        Accepts folder home disk collection id := by
  rw [put]
  constructor
  · intro written
    split at written
    · contradiction
    · contradiction
    · next placed form => exact ⟨⟨_, form⟩, accepts_of_writeAt isHome placed written⟩
  · rintro ⟨⟨stored, form⟩, accepts⟩
    rw [accepts.place, form]
    exact accepts.writeAt isHome _

/-! ## Operations that go through -/

/-- The document of an operation is accepted. -/
def Takes (folder : Folder) (home : List String) (disk : Disk) : Operation → Prop
  | .put collection id _ | .delete collection id => Accepts folder home disk collection id
  | .drop _ => False

theorem takes_iff_of_reworked (reworked : Folder.Reworked home disk after) :
    Takes folder home after operation ↔ Takes folder home disk operation := by
  cases operation with
  | put collection id stored => exact Accepts.iff_of_reworked reworked
  | delete collection id => exact Accepts.iff_of_reworked reworked
  | drop collection => exact Iff.rfl

theorem perform_of_takes (isHome : folder.IsHome home disk)
    (takes : Takes folder home disk operation) (backups : List Backup) :
    (perform folder operation backups disk).1 = .ok () := by
  cases operation with
  | put collection id stored =>
      have accepts : Accepts folder home disk collection id := takes
      rw [perform, accepts.place]
      dsimp only
      rw [accepts.contentAt isHome]
      exact accepts.writeAt isHome _
  | delete collection id =>
      have accepts : Accepts folder home disk collection id := takes
      rw [perform, accepts.place]
      dsimp only
      rw [accepts.contentAt isHome]
      cases lies : disk.files (home ++ [collection, id ++ extension]) with
      | none => rfl
      | some content =>
          exact Folder.deleteAt_of_files isHome (isDots_of_isName accepts.collectionNamed)
            (isDots_append_extension id) accepts.writable.clear lies
  | drop collection => exact takes.elim

/-- A put that went through was of a document that is accepted. -/
theorem accepts_of_perform (isHome : folder.IsHome home disk) {stored : Json}
    (done : (perform folder (.put collection id stored) backups disk).1 = .ok ()) :
    Accepts folder home disk collection id := by
  rw [perform] at done
  split at done
  · contradiction
  · next placed =>
    split at done
    · contradiction
    · exact accepts_of_writeAt isHome placed done

/-- Operations on documents that are accepted are all carried out. -/
theorem performAll_of_takes (isHome : folder.IsHome home disk)
    (ofDocuments : ∀ backup ∈ backups, backup.OfDocument)
    (take : ∀ operation ∈ operations, Takes folder home disk operation) :
    (performAll folder operations backups disk).1 = .ok () := by
  induction operations generalizing disk backups with
  | nil => rfl
  | cons operation rest ih =>
      rw [List.forall_mem_cons] at take
      rcases reworked_perform isHome operation ofDocuments with ⟨reworked, more⟩
      have done := perform_of_takes isHome take.1 backups
      rw [performAll]
      generalize perform folder operation backups disk = step at done reworked more ⊢
      rcases step with ⟨result, backups, next⟩
      cases done
      apply ih (isHome.later reworked.later) more
      intro later member
      exact (takes_iff_of_reworked reworked).mpr (take.2 later member)

/-- Puts that are all carried out are of documents that are accepted. -/
theorem takes_of_performAll (isHome : folder.IsHome home disk)
    (ofDocuments : ∀ backup ∈ backups, backup.OfDocument)
    (puts : ∀ operation ∈ operations, ∃ collection id stored,
      operation = .put collection id stored)
    (done : (performAll folder operations backups disk).1 = .ok ()) :
    ∀ operation ∈ operations, Takes folder home disk operation := by
  induction operations generalizing disk backups with
  | nil => exact List.forall_mem_nil _
  | cons operation rest ih =>
      rw [List.forall_mem_cons] at puts ⊢
      rcases reworked_perform isHome operation ofDocuments with ⟨reworked, more⟩
      rcases puts.1 with ⟨collection, id, stored, rfl⟩
      have first : (perform folder (.put collection id stored) backups disk).1 = .ok () →
          Takes folder home disk (.put collection id stored) := accepts_of_perform isHome
      rw [performAll] at done
      generalize perform folder (.put collection id stored) backups disk = step
        at done first reworked more
      rcases step with ⟨_ | _, backups, next⟩
      · contradiction
      · refine ⟨first rfl, ?_⟩
        intro later member
        apply (takes_iff_of_reworked reworked).mp
        exact ih (isHome.later reworked.later) more puts.2 done later member

/-! ## Transactions -/

/-- A transaction without drops is carried out operation by operation. -/
theorem commit_eq_performAll (kept : ∀ operation ∈ operations, dropped? operation = none) :
    commit operations folder disk = performAll folder operations [] disk := by
  rw [commit, List.findSome?_eq_none_iff.mpr kept]

theorem dropped?_of_puts (puts : ∀ operation ∈ operations, ∃ collection id stored,
      operation = .put collection id stored) :
    ∀ operation ∈ operations, dropped? operation = none := by
  intro operation member
  rcases puts operation member with ⟨collection, id, stored, rfl⟩
  rfl

/-- A transaction of puts goes through exactly if every document could be put alone. -/
theorem commit_eq_ok_iff (isHome : folder.IsHome home disk)
    (puts : ∀ operation ∈ operations, ∃ collection id stored,
      operation = .put collection id stored) :
    (commit operations folder disk).1 = .ok () ↔
      ∀ operation ∈ operations, Takes folder home disk operation := by
  have noBackups : ∀ backup ∈ ([] : List Backup), backup.OfDocument := List.forall_mem_nil _
  rw [commit_eq_performAll (dropped?_of_puts puts)]
  exact ⟨takes_of_performAll isHome noBackups puts, performAll_of_takes isHome noBackups⟩

end Polystore.FileStore
