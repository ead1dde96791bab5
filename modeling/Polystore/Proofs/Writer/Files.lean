import Polystore.Proofs.Store.OneMap
import Polystore.Proofs.Store.Unrooted
import Polystore.Proofs.Writer.Batches

/-!
# Watchers over files

A watcher over a store of files commits a batch exactly if each of its documents could be put
alone; whatever the other batches hold, such a batch is in the store after the sweep.  A
document that cannot be written takes down the documents of its own batch and no others.
-/

namespace Polystore

/-! ## Transactions of puts -/

namespace FileStore

open Disk

variable {folder : Folder} {home : List String} {disk after : Disk} {collection id : String}
  {operations : List Operation}

/-- Puts leave the file of a document as it is, or with what was put last. -/
theorem foldl_fileEffect_of_puts (puts : ∀ operation ∈ operations, ∃ collection id stored,
      operation = .put collection id stored) (before : Option Json)
    (found : Option (List UInt8)) :
    operations.foldl (fileEffect collection id) ((before.map encode).or found) =
      ((Operation.effects operations collection id before).map encode).or found := by
  induction operations generalizing before with
  | nil => rfl
  | cons operation rest ih =>
      rw [List.forall_mem_cons] at puts
      rcases puts.1 with ⟨changed, name, stored, rfl⟩
      have first : fileEffect collection id ((before.map encode).or found)
          (.put changed name stored) =
            ((Operation.effect collection id before (.put changed name stored)).map encode).or
              found := by
        rw [fileEffect, Operation.effect]
        split
        · rfl
        · rfl
      rw [List.foldl_cons, first, Operation.effects_cons]
      exact ih puts.2 _

/-- Disks with the same files hold the same documents. -/
theorem held_congr (isHome : folder.IsHome home disk) (afterHome : folder.IsHome home after)
    (same : after.files = disk.files) (collection id : String) :
    held folder after collection id = held folder disk collection id := by
  cases placed : place collection id with
  | error cause => rw [held, held, placed]; rfl
  | ok names =>
      apply Option.ext
      intro content
      rw [held_eq_some_iff afterHome placed, held_eq_some_iff isHome placed, same]

/-- A transaction of puts that goes through has put its documents, and one that fails has
changed none. -/
theorem held_commit (isHome : folder.IsHome home disk)
    (puts : ∀ operation ∈ operations, ∃ collection id stored,
      operation = .put collection id stored) (collection id : String) :
    held folder (commit operations folder disk).2 collection id =
      if (commit operations folder disk).1.isOk then
        ((Operation.effects operations collection id none).map encode).or
          (held folder disk collection id)
      else held folder disk collection id := by
  have kept := dropped?_of_puts puts
  have room : ∀ collection id, .delete collection id ∈ operations →
      (folder.draftPlace collection).size < 4096 := by
    intro collection id member
    rcases puts _ member with ⟨other, name, stored, ⟨⟩⟩
  have later := (reworked_commit isHome operations).later
  rw [commit_eq_performAll kept] at later ⊢
  obtain ⟨result, after, performed, ⟨rfl, effects⟩ | ⟨cause, rfl, same⟩⟩ :=
    performAll_cases isHome (undoes_nil folder home disk) kept room
  · rw [performed]
    exact (effects collection id).trans (foldl_fileEffect_of_puts puts none _)
  · rw [performed] at later ⊢
    exact held_congr isHome (isHome.later later) same collection id

end FileStore

namespace Session

/-! ## Documents that could be put alone -/

/-- Whether the document of a key could be put by itself as it is now. -/
def canPut {σ : Type} [DocumentStore σ] (session : Session σ) (key : String) : Bool :=
  match session.watch.documents.get? key with
  | some watched =>
      (DocumentStore.put watched.collection watched.id (session.document watched.handle).content
        session.store).1.isOk
  | none => false

/-- Whether every document of a batch could be put alone. -/
def isWhole {σ : Type} [DocumentStore σ] (session : Session σ) (batch : List String) : Bool :=
  batch.all session.canPut

/-- The keys of the documents that are due at a time. -/
def dueAt {σ : Type} (session : Session σ) (now : Nat) : List String :=
  match session.watch.deadline? now with
  | some deadline => (session.watch.due deadline).map Prod.fst
  | none => []

variable {session : Session FileStore} {home : List String}

theorem isOk_iff {result : Except Error Unit} : result.isOk = true ↔ result = .ok () := by
  cases result with
  | error cause => exact iff_of_false Bool.false_ne_true nofun
  | ok done => exact iff_of_true rfl rfl

/-- A document that could be put alone can be staged. -/
theorem isStageable_of_canPut {key : String} (can : session.canPut key = true) :
    session.isStageable key = true := by
  rw [canPut] at can
  rw [isStageable, stagedPut]
  cases found : session.watch.documents.get? key with
  | none =>
      rw [found] at can
      contradiction
  | some watched =>
      rw [found] at can
      change (FileStore.put watched.collection watched.id _ _ _).1.isOk = true at can
      rw [FileStore.put] at can
      split at can
      · contradiction
      · contradiction
      · next stored _ form =>
        dsimp only
        rw [form]
        rfl

/-- A document could be put alone exactly if it can be staged and its file can be written. -/
theorem canPut_iff (isHome : session.store.folder.IsHome home session.store.disk)
    (key : String) :
    session.canPut key = true ↔ ∃ operation, session.stagedPut key = some operation ∧
      FileStore.Takes session.store.folder home session.store.disk operation := by
  rw [canPut, stagedPut]
  cases session.watch.documents.get? key with
  | none => simp
  | some watched =>
      have put : (DocumentStore.put watched.collection watched.id
          (session.document watched.handle).content session.store).1 = .ok () ↔ _ :=
        FileStore.put_eq_ok_iff isHome _
      dsimp only
      rw [isOk_iff, put]
      cases Document.withId watched.id (session.document watched.handle).content with
      | error cause =>
          constructor
          · rintro ⟨⟨stored, ⟨⟩⟩, -⟩
          · rintro ⟨operation, ⟨⟩, -⟩
      | ok stored =>
          constructor
          · rintro ⟨-, accepts⟩
            exact ⟨_, rfl, accepts⟩
          · rintro ⟨operation, ⟨⟩, accepts⟩
            exact ⟨⟨stored, rfl⟩, accepts⟩

/-! ## Batches -/

theorem puts_of_filterMap (keyed : session.watch.WellKeyed) (batch : List String) :
    ∀ operation ∈ batch.filterMap session.stagedPut, ∃ collection id stored,
      operation = .put collection id stored := by
  intro operation member
  rcases List.mem_filterMap.mp member with ⟨key, -, staged⟩
  rcases key_of_stagedPut keyed staged with ⟨collection, id, stored, same, -⟩
  exact ⟨collection, id, stored, same⟩

/-- The fate of a batch: it is committed exactly if each of its documents could be put alone, its
documents are in the store then, and no other document is lost. -/
structure BatchFate (session : Session FileStore) (batch : List String) (before : Disk)
    (outcome : Outcome Disk Unit) : Prop where
  goes : outcome.1.isOk = session.isWhole batch
  writes : session.isWhole batch = true → ∀ {collection id : String} {stored : Json},
    watchKey collection id ∈ batch →
    session.stagedPut (watchKey collection id) = some (.put collection id stored) →
    FileStore.held session.store.folder outcome.2 collection id = some (FileStore.encode stored)
  spares : ∀ {collection id : String} {content : List UInt8}, watchKey collection id ∉ batch →
    FileStore.held session.store.folder before collection id = some content →
    FileStore.held session.store.folder outcome.2 collection id = some content

/-- On disks of some kind every batch has its fate, and leaves a disk of that kind. -/
def Settles (session : Session FileStore) (kind : Disk → Prop) : Prop :=
  ∀ (batch : List String) (disk : Disk), batch.Nodup →
    (∀ key ∈ batch, session.stagedPut key ≠ none) → kind disk →
    let outcome := FileStore.commit (batch.filterMap session.stagedPut) session.store.folder disk
    kind outcome.2 ∧ session.BatchFate batch disk outcome

/-- A batch is committed exactly if each of its documents could be put alone, also after other
batches. -/
theorem isOk_commit_batch (keyed : session.watch.WellKeyed)
    (isHome : session.store.folder.IsHome home session.store.disk)
    {batch : List String} (staged : ∀ key ∈ batch, session.stagedPut key ≠ none) {disk : Disk}
    (reworked : Folder.Reworked home session.store.disk disk) :
    (FileStore.commit (batch.filterMap session.stagedPut) session.store.folder disk).1.isOk =
      session.isWhole batch := by
  have goes := FileStore.commit_eq_ok_iff (isHome.later reworked.later)
    (puts_of_filterMap keyed batch)
  rw [Bool.eq_iff_iff, isOk_iff, goes, isWhole, List.all_eq_true]
  constructor
  · intro take key member
    rcases Option.ne_none_iff_exists'.mp (staged key member) with ⟨operation, put⟩
    have takes := take operation (List.mem_filterMap.mpr ⟨key, member, put⟩)
    exact (canPut_iff isHome key).mpr
      ⟨operation, put, (FileStore.takes_iff_of_reworked reworked).mp takes⟩
  · intro can operation member
    rcases List.mem_filterMap.mp member with ⟨key, inside, put⟩
    rcases (canPut_iff isHome key).mp (can key inside) with ⟨other, same, takes⟩
    cases put.symm.trans same
    exact (FileStore.takes_iff_of_reworked reworked).mpr takes

/-- Batches have their fate on disks that are reached from the one on which the root is. -/
theorem settles_of_isHome (keyed : session.watch.WellKeyed)
    (isHome : session.store.folder.IsHome home session.store.disk) :
    session.Settles (Folder.Reworked home session.store.disk) := by
  intro batch disk once staged reworked
  have goes := isOk_commit_batch keyed isHome staged reworked
  have held := FileStore.held_commit (isHome.later reworked.later) (puts_of_filterMap keyed batch)
  refine ⟨reworked.trans (FileStore.reworked_commit (isHome.later reworked.later) _), goes, ?_, ?_⟩
  · intro whole collection id stored member put
    rw [held, if_pos (goes.trans whole), effects_of_mem keyed once member put]
    rfl
  · intro collection id content absent before
    rw [held, effects_of_not_mem keyed absent, before]
    split
    · rfl
    · rfl

/-- The operations of a batch that holds a key. -/
theorem filterMap_ne_nil {batch : List String} (some : batch ≠ [])
    (staged : ∀ key ∈ batch, session.stagedPut key ≠ none) :
    batch.filterMap session.stagedPut ≠ [] := by
  rcases List.exists_cons_of_ne_nil some with ⟨key, rest, rfl⟩
  rcases Option.ne_none_iff_exists'.mp (staged key List.mem_cons_self) with ⟨operation, put⟩
  rw [List.filterMap_cons, put]
  exact List.cons_ne_nil _ _

/-- The batch without keys changes nothing. -/
theorem batchFate_nil (disk : Disk) :
    session.BatchFate [] disk (FileStore.commit [] session.store.folder disk) where
  goes := rfl
  writes _ := by
    intro collection id stored member
    contradiction
  spares _ before := before

/-- Batches have their fate where the root is missing and can be made. -/
theorem settles_of_mended (keyed : session.watch.WellKeyed) {made : Disk}
    (mended : session.store.folder.Mended home session.store.disk made) :
    session.Settles fun disk =>
      disk = session.store.disk ∨ Folder.Reworked home made disk := by
  let later : Session FileStore := { session with store := ⟨session.store.folder, made⟩ }
  have led : later.store.folder.IsHome home later.store.disk := Or.inl mended.led
  have settles : later.Settles (Folder.Reworked home made) := settles_of_isHome keyed led
  have can : later.canPut = session.canPut := by
    funext key
    rw [canPut, canPut]
    cases session.watch.documents.get? key with
    | none => rfl
    | some watched =>
        exact (FileStore.isOk_put_of_mended mended watched.collection watched.id _).symm
  have whole (batch : List String) : later.isWhole batch = session.isWhole batch := by
    rw [isWhole, isWhole, can]
  have asNow {batch : List String} {before : Disk} {outcome : Outcome Disk Unit}
      (fate : later.BatchFate batch before outcome) : session.BatchFate batch before outcome :=
    ⟨fate.goes.trans (whole batch), fun all => fate.writes ((whole batch).trans all), fate.spares⟩
  rintro batch disk once staged (rfl | reworked)
  · by_cases none : batch = []
    · subst none
      exact ⟨Or.inl rfl, batchFate_nil _⟩
    · rcases FileStore.commit_of_mended mended (puts_of_filterMap keyed batch)
        (filterMap_ne_nil none staged) with ⟨alike, same, left⟩
      have fate := asNow (settles batch made once staged (.refl _ _)).2
      refine ⟨left, alike.trans fate.goes, ?_, ?_⟩
      · intro all
        rw [same (alike.trans (fate.goes.trans all))]
        exact fate.writes all
      · intro collection id content absent before
        rw [FileStore.held_of_error mended.missing] at before
        contradiction
  · rcases settles batch disk once staged reworked with ⟨further, fate⟩
    exact ⟨Or.inr further, asNow fate⟩

/-- Batches have their fate where the root leads nowhere: all of them fail. -/
theorem settles_of_lost (keyed : session.watch.WellKeyed)
    (lost : session.store.folder.Lost session.store.disk) :
    session.Settles session.store.folder.Lost := by
  have cannot (key : String) : session.canPut key = false := by
    rw [canPut]
    cases session.watch.documents.get? key with
    | none => rfl
    | some watched =>
        rcases FileStore.exists_put_of_lost lost watched.collection watched.id
          (session.document watched.handle).content with ⟨cause, refused⟩
        change (FileStore.put watched.collection watched.id _ _ _).1.isOk = false
        rw [refused]
        rfl
  intro batch disk once staged still
  by_cases none : batch = []
  · subst none
    exact ⟨still, batchFate_nil _⟩
  · rcases List.exists_cons_of_ne_nil none with ⟨key, rest, rfl⟩
    have partly : session.isWhole (key :: rest) = false := by
      rw [isWhole, List.all_cons, cannot]
      rfl
    rcases FileStore.exists_commit_of_lost still (puts_of_filterMap keyed _)
      (filterMap_ne_nil none staged) with ⟨cause, after, refused, left⟩
    rcases still.obstructed with ⟨fault, failed⟩
    dsimp only
    rw [refused]
    refine ⟨left, partly.symm, ?_, ?_⟩
    · intro all
      rw [partly] at all
      contradiction
    · intro collection id content absent before
      rw [FileStore.held_of_error failed] at before
      contradiction

/-- Batches have their fate, wherever the root leads. -/
theorem exists_settles (keyed : session.watch.WellKeyed) :
    ∃ kind : Disk → Prop, kind session.store.disk ∧ session.Settles kind := by
  rcases Folder.root_cases session.store.folder session.store.disk with
    ⟨home, isHome⟩ | ⟨home, made, mended⟩ | lost
  · exact ⟨_, Folder.Reworked.refl _ _, settles_of_isHome keyed isHome⟩
  · exact ⟨_, Or.inl rfl, settles_of_mended keyed mended⟩
  · exact ⟨_, lost, settles_of_lost keyed lost⟩

/-- Batches are committed that hold only documents which could be put alone, their documents are
in the store then, and no document of a key in no batch is lost. -/
theorem exists_commitBatches {kind : Disk → Prop} (settles : session.Settles kind)
    {batches : List (List String)} (once : batches.flatten.Nodup)
    (staged : ∀ key ∈ batches.flatten, session.stagedPut key ≠ none) {disk : Disk}
    (ready : kind disk) :
    ∃ failed after,
      session.commitBatches batches ⟨session.store.folder, disk⟩ =
        (((batches.filter session.isWhole).flatten, failed),
          ⟨session.store.folder, after⟩) ∧
      (∀ {collection id : String} {stored : Json}, watchKey collection id ∈
          (batches.filter session.isWhole).flatten →
        session.stagedPut (watchKey collection id) = some (.put collection id stored) →
        FileStore.held session.store.folder after collection id =
          some (FileStore.encode stored)) ∧
      ∀ {collection id : String} {content : List UInt8},
        watchKey collection id ∉ batches.flatten →
        FileStore.held session.store.folder disk collection id = some content →
        FileStore.held session.store.folder after collection id = some content := by
  induction batches generalizing disk with
  | nil =>
      refine ⟨[], disk, rfl, ?_, fun _ before => before⟩
      intro collection id stored member
      contradiction
  | cons batch rest ih =>
      rw [List.flatten_cons, List.nodup_append] at once
      rw [List.flatten_cons, List.forall_mem_append] at staged
      rcases settles batch disk once.1 staged.1 ready with ⟨further, fate⟩
      rcases ih once.2.1 staged.2 further with ⟨failed, after, went, wrote, frame⟩
      have frames : ∀ {collection id : String} {content : List UInt8},
          watchKey collection id ∉ (batch :: rest).flatten →
          FileStore.held session.store.folder disk collection id = some content →
          FileStore.held session.store.folder after collection id = some content := by
        intro collection id content absent before
        rw [List.flatten_cons, List.mem_append, not_or] at absent
        exact frame absent.2 (fate.spares absent.1 before)
      have goes := fate.goes
      have between (result : Except Error Unit)
          (told : (FileStore.commit (batch.filterMap session.stagedPut) session.store.folder
            disk).1 = result) :
          DocumentStore.commit (batch.filterMap session.stagedPut)
            (⟨session.store.folder, disk⟩ : FileStore) = (result, ⟨session.store.folder,
              (FileStore.commit (batch.filterMap session.stagedPut) session.store.folder
                disk).2⟩) := Prod.ext told rfl
      by_cases whole : session.isWhole batch = true
      · rw [whole] at goes
        rw [List.filter_cons_of_pos whole, List.flatten_cons]
        refine ⟨failed, after, ?_, ?_, frames⟩
        · rw [commitBatches, between _ (isOk_iff.mp goes)]
          dsimp only
          rw [went]
        · intro collection id stored member put
          rcases List.mem_append.mp member with inside | later
          · have absent : watchKey collection id ∉ rest.flatten :=
              fun member => once.2.2 _ inside _ member rfl
            exact frame absent (fate.writes whole inside put)
          · exact wrote later put
      · rw [Bool.not_eq_true] at whole
        rw [whole] at goes
        rw [List.filter_cons_of_neg (by rw [whole]; exact Bool.false_ne_true)]
        cases told : (FileStore.commit (batch.filterMap session.stagedPut) session.store.folder
          disk).1 with
        | ok done =>
            rw [told] at goes
            contradiction
        | error cause =>
            refine ⟨batch ++ failed, after, ?_, wrote, frames⟩
            rw [commitBatches, between _ told]
            dsimp only
            rw [went]

/-! ## Sweeps -/

/-- The document of a key is clean after a sweep, and its file holds what it was before the
sweep, so that it is read back if it can be. -/
structure WroteBack (before after : Session FileStore) (key : String) (watched : Watched) :
    Prop where
  found : before.watch.documents.get? key = some watched
  clean : after.watch.isDirty watched.collection watched.id = false
  written : ∃ stored,
    Document.withId watched.id (before.document watched.handle).content = .ok stored ∧
      FileStore.held after.store.folder after.store.disk watched.collection watched.id =
        some (FileStore.encode stored)
  read : (before.document watched.handle).content.Readable →
    DocumentStore.get watched.collection watched.id after.store =
      .ok (before.document watched.handle).content

theorem wroteBack_of_held {after : Session FileStore} {key : String} {watched : Watched}
    (found : session.watch.documents.get? key = some watched)
    (clean : after.watch.isDirty watched.collection watched.id = false) {stored : Json}
    (form : Document.withId watched.id (session.document watched.handle).content = .ok stored)
    (held : FileStore.held after.store.folder after.store.disk watched.collection watched.id =
      some (FileStore.encode stored)) : session.WroteBack after key watched where
  found := found
  clean := clean
  written := ⟨stored, form, held⟩
  read readable := by
    rw [← Document.withoutId_of_withId form]
    exact FileStore.get_of_held (Document.readable_of_withId form readable) held

/-- A sweep counts as committed the documents of the batches that hold only documents which
could be put alone, and writes them. -/
theorem sweep_of_deadline (keyed : session.watch.WellKeyed)
    (room : session.watch.settings.HasRoom) {now deadline : Nat}
    (time : session.watch.deadline? now = some deadline) :
    let keys := (session.watch.due deadline).map Prod.fst
    let committed := ((session.batchesOf keys).filter session.isWhole).flatten
    (session.sweep quiet now).1.map FlushReport.committed = .ok committed.length ∧
      ∀ key ∈ committed, ∃ watched, session.WroteBack (session.sweep quiet now).2 key watched := by
  intro keys committed
  have listed : (session.batchesOf keys).flatten = keys.filter session.isStageable :=
    BatchWriter.flatten_batches _ [] _
  have once : (session.batchesOf keys).flatten.Nodup := by
    rw [listed]
    exact (Keyed.nodup_names (Watch.sorted_due keyed.ordered deadline)).filter _
  have staged : ∀ key ∈ (session.batchesOf keys).flatten, session.stagedPut key ≠ none := by
    intro key member
    rw [listed] at member
    exact Option.isSome_iff_ne_none.mp (List.mem_filter.mp member).2
  rcases exists_settles keyed with ⟨kind, ready, settles⟩
  rcases exists_commitBatches settles once staged ready with
    ⟨failed, after, went, wrote, -⟩
  have apart := not_mem_failed_of_mem_committed session once
    ⟨session.store.folder, session.store.disk⟩
  rw [went] at apart
  rcases exists_sweep keyed.ordered time (Or.inl room) with ⟨report, again, swept, counted, unwritten⟩
  rw [show session.commitBatches (session.batchesOf keys) session.store = _ from went]
    at swept counted unwritten
  rw [swept]
  refine ⟨congrArg Except.ok counted, ?_⟩
  intro key member
  have inside : key ∈ keys.filter session.isStageable := by
    rw [← listed]
    exact (List.filter_sublist.flatten).subset member
  rw [List.mem_filter] at inside
  rcases List.mem_map.mp inside.1 with ⟨⟨name, version⟩, due, rfl⟩
  rcases (Watch.mem_due_iff keyed.ordered deadline name version).mp due with ⟨watched, found, -⟩
  rcases Option.isSome_iff_exists.mp inside.2 with ⟨operation, put⟩
  rcases exists_stored_of_stagedPut found put with ⟨stored, form, rfl⟩
  have own : name = watchKey watched.collection watched.id := keyed.own found
  subst own
  refine ⟨watched, wroteBack_of_held found ?_ form (wrote member put)⟩
  apply isDirty_after_sweep found inside.1
  intro held
  rcases unwritten _ held with lost | unfit
  · exact apart _ member lost
  · rw [inside.2] at unfit
    contradiction

/-- A sweep puts the documents that are due and can be staged into batches in the order of their
keys.  It counts as committed the documents of those batches in which each document could be put
alone.  A document that could be put alone is in some batch, and if this holds of the others in
that batch, it is clean after the sweep and in the store as it was, whatever other batches hold. -/
theorem sweep_commits_whole_batches (keyed : session.watch.WellKeyed)
    (room : session.watch.settings.HasRoom) (now : Nat) :
    let batches := session.batchesOf (session.dueAt now)
    (session.sweep quiet now).1.map FlushReport.committed =
        .ok (batches.filter session.isWhole).flatten.length ∧
      ∀ key ∈ session.dueAt now, session.canPut key = true →
        ∃ batch ∈ batches, key ∈ batch ∧ (session.isWhole batch = true →
          ∃ watched, session.WroteBack (session.sweep quiet now).2 key watched) := by
  intro batches
  cases time : session.watch.deadline? now with
  | none =>
      have nothing : session.dueAt now = [] := by
        rw [dueAt, time]
      rw [sweep_of_early time, nothing]
      refine ⟨?_, List.forall_mem_nil _⟩
      rw [show batches = session.batchesOf (session.dueAt now) from rfl, nothing]
      rfl
  | some deadline =>
      have found : session.dueAt now = (session.watch.due deadline).map Prod.fst := by
        rw [dueAt, time]
      rcases sweep_of_deadline keyed room time with ⟨counted, wrote⟩
      rw [← found] at counted wrote
      refine ⟨counted, ?_⟩
      intro key due can
      have listed : key ∈ batches.flatten := by
        rw [show batches.flatten = _ from BatchWriter.flatten_batches _ [] _]
        exact List.mem_filter.mpr ⟨due, isStageable_of_canPut can⟩
      rcases List.mem_flatten.mp listed with ⟨batch, member, inside⟩
      refine ⟨batch, member, inside, ?_⟩
      intro whole
      exact wrote key (List.mem_flatten.mpr ⟨batch, List.mem_filter.mpr ⟨member, whole⟩, inside⟩)

/-- A store of files is always within reach. -/
instance : Networked FileStore where
  setOffline _ _ store := store

/-- A session over an empty folder, in which documents of one collection are watched and
changed. -/
def shelf (settings : WatchSettings) (documents : List SharedDocument) : Session FileStore :=
  WatchStep.runAll
    ((List.range documents.length).map (.watch "c" · 0) ++
      documents.map fun document => .update "c" document.id 0)
    { store := ⟨⟨"/data"⟩, [("data", .folder [])]⟩
      watch := { settings := settings }
      shared := documents }

theorem shelf_wellKeyed (settings : WatchSettings) (documents : List SharedDocument) :
    (shelf settings documents).watch.WellKeyed := by
  have fresh : ({ settings := settings } : Watch).WellKeyed :=
    { ordered := Keyed.sorted_nil
      own := fun found => nomatch found }
  exact WatchStep.runAll_wellKeyed fresh _

theorem sweep_commits_batch_after_bad_one :
    let session := shelf { batchSize := 2, durability := .atLeastOnce }
      [⟨"a", .object []⟩, ⟨"b/d", .object []⟩, ⟨"d", .null⟩, ⟨"e", .object []⟩, ⟨"f", .object []⟩]
    session.batchesOf (session.dueAt 2000000000) = [["c$a", "c$b/d"], ["c$e", "c$f"]] ∧
      (session.sweep quiet 2000000000).1.toOption =
        some { staged := 4, committed := 2, failed := 3 } ∧
      ∃ watched, session.WroteBack (session.sweep quiet 2000000000).2 "c$e" watched := by
  intro session
  have batches : session.batchesOf (session.dueAt 2000000000) =
      [["c$a", "c$b/d"], ["c$e", "c$f"]] := by decide +kernel
  have due : "c$e" ∈ session.dueAt 2000000000 := by decide +kernel
  have can : session.canPut "c$e" = true := by decide +kernel
  have whole : session.isWhole ["c$e", "c$f"] = true := by decide +kernel
  have room : session.watch.settings.HasRoom := by decide +kernel
  have swept := sweep_commits_whole_batches (shelf_wellKeyed _ _) room 2000000000
  rcases swept.2 "c$e" due can with ⟨batch, member, inside, wrote⟩
  refine ⟨batches, by decide +kernel, wrote ?_⟩
  rw [batches, List.mem_cons, List.mem_singleton] at member
  rcases member with rfl | rfl
  · exact absurd inside (by decide)
  · exact whole

/-- A document that could be put alone is lost with its batch if another one of the batch cannot
be put, and by itself if there is no room for the keys of a batch: the sweep panics when it has
cleaned the document. -/
theorem sweep_loses_document_with_batch :
    let session := shelf {} [⟨"good", .object []⟩, ⟨"bad/id", .object []⟩]
    let wide := shelf { batchSize := 2 ^ 64 - 1, durability := .atLeastOnce } [⟨"good", .object []⟩]
    let outcome := session.sweep quiet 2000000000
    let halted := wide.sweep quiet 2000000000
    ("c$good" ∈ session.dueAt 2000000000 ∧ session.canPut "c$good" = true ∧
      outcome.1.toOption = some { staged := 2, committed := 0, failed := 2 } ∧
      (DocumentStore.get "c" "good" outcome.2.store).isOk = false) ∧
    "c$good" ∈ wide.dueAt 2000000000 ∧ wide.canPut "c$good" = true ∧
      halted.1.toOption = none ∧ halted.2.watch.isDirty "c" "good" = false ∧
      (DocumentStore.get "c" "good" halted.2.store).isOk = false := by
  decide +kernel

end Session

end Polystore
