import Polystore.Proofs.Disk.Unrooted
import Polystore.Proofs.Store.Written

/-!
# Stores of files whose root leads nowhere

A store whose root is missing takes puts as if the root had been made before, and a transaction
of puts goes through on it exactly if it would go through then.  If the root cannot be made, no
put goes through, and no transaction that puts something.
-/

namespace Polystore.FileStore

open Disk

variable {folder : Folder} {home : List String} {disk made : Disk} {collection id : String}
  {operations : List Operation} {fault : FileFault}

/-! ## Contents and backups -/

theorem contentAt_of_placeFault? {names : List String}
    (wrong : placeFault? (folder.place names) = some fault) (disk : Disk) :
    contentAt folder names disk = .error (.file fault) := by
  have unread : folder.readAt names disk = .error (.file fault) := by
    rw [Folder.readAt, Disk.readFile, Disk.entry, checked, wrong]
    rfl
  have told := ne_missing_of_placeFault? wrong
  rw [contentAt, unread]
  cases fault with
  | missing => exact absurd rfl told
  | _ => rfl

/-- A file that is read behind a missing root is missing. -/
theorem contentAt_of_missing (missing : disk.walk [] folder.parts = .error .missing)
    (clear : placeFault? (folder.place [collection, id ++ extension]) = none) :
    contentAt folder [collection, id ++ extension] disk = .ok none := by
  rw [contentAt, Folder.readAt_of_error (isDots_append_extension id) missing, clear]
  rfl

/-- Nothing is held behind a root that leads nowhere. -/
theorem contentAt_of_error (failed : disk.walk [] folder.parts = .error fault) :
    contentAt folder [collection, id ++ extension] disk = .ok none ∨
      ∃ cause, contentAt folder [collection, id ++ extension] disk = .error cause := by
  rw [contentAt, Folder.readAt_of_error (isDots_append_extension id) failed]
  dsimp only
  split
  · exact Or.inl rfl
  · exact Or.inr ⟨_, rfl⟩

theorem held_of_error (failed : disk.walk [] folder.parts = .error fault)
    (collection id : String) : held folder disk collection id = none := by
  rw [held]
  cases placed : place collection id with
  | error cause => rfl
  | ok names =>
      rcases place_eq_ok placed with ⟨rfl, -⟩
      change (folder.readAt _ disk).toOption = none
      rw [Folder.readAt_of_error (isDots_append_extension id) failed]
      rfl

/-- A file that was missing behind a root that leads nowhere is restored without a change. -/
theorem restoreFile_of_error (failed : disk.walk [] folder.parts = .error fault) (file : String) :
    restoreFile folder disk ⟨[collection, file], none⟩ = disk := by
  rcases Folder.deleteAt_of_error failed with ⟨cause, refused⟩
  rw [restoreFile, refused]

/-- What operations do does not depend on the backups taken before, unless they fail. -/
theorem performAll_backups (operations : List Operation) (backups others : List Backup)
    (disk : Disk) :
    (performAll folder operations backups disk).1.isOk =
        (performAll folder operations others disk).1.isOk ∧
      ((performAll folder operations backups disk).1.isOk = true →
        performAll folder operations backups disk = performAll folder operations others disk) := by
  induction operations generalizing backups others disk with
  | nil => exact ⟨rfl, fun _ => rfl⟩
  | cons operation rest ih =>
      have alike : (perform folder operation backups disk).1 =
            (perform folder operation others disk).1 ∧
          (perform folder operation backups disk).2.2 =
            (perform folder operation others disk).2.2 := by
        cases operation with
        | drop collection => exact ⟨rfl, rfl⟩
        | put collection id stored =>
            rw [perform, perform]
            split
            · exact ⟨rfl, rfl⟩
            · split
              · exact ⟨rfl, rfl⟩
              · exact ⟨rfl, rfl⟩
        | delete collection id =>
            rw [perform, perform]
            split
            · exact ⟨rfl, rfl⟩
            · split
              · exact ⟨rfl, rfl⟩
              · exact ⟨rfl, rfl⟩
              · exact ⟨rfl, rfl⟩
      rw [performAll, performAll]
      generalize perform folder operation backups disk = step at alike
      generalize perform folder operation others disk = other at alike
      rcases step with ⟨_ | _, backups, after⟩ <;> rcases other with ⟨_ | _, others, later⟩ <;>
        obtain ⟨⟨⟩, ⟨⟩⟩ := alike
      · exact ⟨rfl, Bool.false_ne_true.elim⟩
      · exact ih backups others after

/-! ## Roots that cannot be made -/

/-- No document is put behind a root that cannot be made. -/
theorem exists_put_of_lost (lost : folder.Lost disk) (collection id : String) (value : Json) :
    ∃ cause, (put collection id value folder disk).1 = .error cause := by
  rw [put]
  split
  · exact ⟨_, rfl⟩
  · exact ⟨_, rfl⟩
  · next placed _ =>
    rcases place_eq_ok placed with ⟨rfl, collectionNamed⟩
    rcases lost.writeAt collectionNamed (isDots_append_extension id) _ with
      ⟨cause, after, refused, -⟩
    exact ⟨cause, congrArg Prod.fst refused⟩

/-- A transaction that begins with a put fails behind a root that cannot be made, and leaves it
so. -/
theorem exists_commit_of_lost (lost : folder.Lost disk)
    (puts : ∀ operation ∈ operations, ∃ collection id stored,
      operation = .put collection id stored) (some : operations ≠ []) :
    ∃ cause after, commit operations folder disk = (.error cause, after) ∧ folder.Lost after := by
  rw [commit_eq_performAll (dropped?_of_puts puts)]
  rcases List.exists_cons_of_ne_nil some with ⟨operation, rest, rfl⟩
  rcases puts operation List.mem_cons_self with ⟨collection, id, stored, rfl⟩
  rw [performAll, perform]
  cases placed : place collection id with
  | error cause => exact ⟨_, disk, rfl, lost⟩
  | ok names =>
      rcases place_eq_ok placed with ⟨rfl, collectionNamed⟩
      rcases lost.obstructed with ⟨fault, failed⟩
      dsimp only
      rcases contentAt_of_error failed with nothing | ⟨cause, unread⟩
      · rcases lost.writeAt collectionNamed (isDots_append_extension id) (encode stored) with
          ⟨cause, after, refused, still⟩
        rcases still.obstructed with ⟨other, failed⟩
        have restored : restore folder [⟨[collection, id ++ extension], none⟩] after = after :=
          restoreFile_of_error failed _
        rw [nothing]
        dsimp only
        rw [refused]
        exact ⟨_, after, congrArg _ restored, still⟩
      · rw [unread]
        exact ⟨_, disk, rfl, lost⟩

/-! ## Roots that are made -/

/-- A document is put behind a missing root exactly if it could be put after the root was
made. -/
theorem isOk_put_of_mended (mended : folder.Mended home disk made) (collection id : String)
    (value : Json) :
    (put collection id value folder disk).1.isOk = (put collection id value folder made).1.isOk := by
  rw [put, put]
  split
  · rfl
  · rfl
  · next placed _ =>
    rcases place_eq_ok placed with ⟨rfl, collectionNamed⟩
    rcases mended.writeAt collectionNamed (isDots_append_extension id) _ with same | ⟨cause, refused⟩
    · rw [same]
    · rw [refused, refused]

/-- A transaction goes on a disk as it goes on the disk on which the root was made: the one goes
through exactly if the other does, and then they leave the same disk.  If it fails, the root may
stay missing. -/
structure GoesAs (folder : Folder) (home : List String) (disk made : Disk)
    (outcome other : Outcome Disk Unit) : Prop where
  alike : outcome.1.isOk = other.1.isOk
  equal : outcome.1.isOk = true → outcome = other
  leaves : outcome.2 = disk ∨ Folder.Reworked home made outcome.2

/-- What fails on both disks, and leaves the first one as it was or the root made. -/
theorem GoesAs.of_failed {outcome other : Outcome Disk Unit} (failed : outcome.1.isOk = false)
    (otherFailed : other.1.isOk = false)
    (leaves : outcome.2 = disk ∨ Folder.Reworked home made outcome.2) :
    GoesAs folder home disk made outcome other where
  alike := failed.trans otherFailed.symm
  equal goes := absurd (failed.symm.trans goes) Bool.false_ne_true
  leaves := leaves

/-- A transaction fails that begins with a put which is refused on every disk. -/
theorem isOk_performAll_of_refused {stored : Json} {cause : Error}
    (placed : place collection id = .ok [collection, id ++ extension])
    (refused : ∀ other, folder.writeAt [collection, id ++ extension] (encode stored) other =
      (.error cause, other)) (rest : List Operation) (disk : Disk) :
    (performAll folder (.put collection id stored :: rest) [] disk).1.isOk = false := by
  rw [performAll, perform, placed]
  dsimp only
  cases contentAt folder [collection, id ++ extension] disk with
  | error other => rfl
  | ok content =>
      dsimp only
      rw [refused]
      rfl

/-- Such a put leaves a disk without the root as it was. -/
theorem performAll_of_refused {stored : Json} {cause : Error}
    (missing : disk.walk [] folder.parts = .error .missing)
    (placed : place collection id = .ok [collection, id ++ extension])
    (refused : ∀ other, folder.writeAt [collection, id ++ extension] (encode stored) other =
      (.error cause, other)) (rest : List Operation) :
    (performAll folder (.put collection id stored :: rest) [] disk).2 = disk := by
  have looked : contentAt folder [collection, id ++ extension] disk = .ok none ∨
      ∃ cause, contentAt folder [collection, id ++ extension] disk = .error cause :=
    contentAt_of_error missing
  have restored : restore folder [⟨[collection, id ++ extension], none⟩] disk = disk :=
    restoreFile_of_error missing _
  rw [performAll, perform, placed]
  dsimp only
  rcases looked with nothing | ⟨other, unread⟩
  · rw [nothing]
    dsimp only
    rw [refused]
    exact restored
  · rw [unread]
    rfl

/-- A transaction that begins with a put which makes the root goes as if it had been made. -/
theorem goesAs_of_writeAt {stored : Json} (mended : folder.Mended home disk made)
    (placed : place collection id = .ok [collection, id ++ extension])
    (same : folder.writeAt [collection, id ++ extension] (encode stored) disk =
      folder.writeAt [collection, id ++ extension] (encode stored) made) (rest : List Operation) :
    GoesAs folder home disk made (performAll folder (.put collection id stored :: rest) [] disk)
      (performAll folder (.put collection id stored :: rest) [] made) := by
  have isHome : folder.IsHome home made := Or.inl mended.led
  have document : ∀ backup ∈ [Backup.mk [collection, id ++ extension] none], backup.OfDocument :=
    List.forall_mem_singleton.mpr ⟨collection, id, placed⟩
  have untouched : Edited folder made made := .refl
  have edited := untouched.write placed (encode stored)
  have accepted : (folder.writeAt [collection, id ++ extension] (encode stored) made).1 = .ok () →
      Accepts folder home made collection id := accepts_of_writeAt isHome placed
  rw [performAll, performAll, perform, perform, placed]
  dsimp only
  cases clear : placeFault? (folder.place [collection, id ++ extension]) with
  | some wrong =>
      rw [contentAt_of_placeFault? clear, contentAt_of_placeFault? clear]
      exact .of_failed rfl rfl (Or.inl rfl)
  | none =>
      rw [contentAt_of_missing mended.missing clear]
      dsimp only
      rw [same]
      rcases written : folder.writeAt [collection, id ++ extension] (encode stored) made with
        ⟨cause | ⟨⟨⟩⟩, after⟩
      · rw [written] at edited
        have reworked := (edited.restore document).reworked isHome
        cases contentAt folder [collection, id ++ extension] made with
        | error cause => exact .of_failed rfl rfl (Or.inr reworked)
        | ok content => exact .of_failed rfl rfl (Or.inr reworked)
      · rw [written] at edited accepted
        rw [(accepted rfl).contentAt isHome]
        rcases performAll_backups rest [⟨[collection, id ++ extension], none⟩]
          [⟨[collection, id ++ extension],
            made.files (home ++ [collection, id ++ extension])⟩] after with ⟨alike, equal⟩
        exact ⟨alike, equal, Or.inr ((edited.performAll rest document).reworked isHome)⟩

/-- A transaction of puts behind a missing root goes as if the root had been made before. -/
theorem commit_of_mended (mended : folder.Mended home disk made)
    (puts : ∀ operation ∈ operations, ∃ collection id stored,
      operation = .put collection id stored) (some : operations ≠ []) :
    GoesAs folder home disk made (commit operations folder disk)
      (commit operations folder made) := by
  rw [commit_eq_performAll (dropped?_of_puts puts), commit_eq_performAll (dropped?_of_puts puts)]
  rcases List.exists_cons_of_ne_nil some with ⟨operation, rest, rfl⟩
  rcases puts operation List.mem_cons_self with ⟨collection, id, stored, rfl⟩
  cases placed : place collection id with
  | error cause =>
      rw [performAll, performAll, perform, perform, placed]
      exact .of_failed rfl rfl (Or.inl rfl)
  | ok names =>
      rcases place_eq_ok placed with ⟨rfl, collectionNamed⟩
      rcases mended.writeAt collectionNamed (isDots_append_extension id) (encode stored) with
        same | ⟨cause, refused⟩
      · exact goesAs_of_writeAt mended placed same rest
      · have fails := isOk_performAll_of_refused placed refused rest
        exact .of_failed (fails disk) (fails made)
          (Or.inl (performAll_of_refused mended.missing placed refused rest))

end Polystore.FileStore
