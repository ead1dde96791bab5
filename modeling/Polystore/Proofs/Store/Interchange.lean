import Polystore.Proofs.Cluster.Connection
import Polystore.Proofs.Cluster.Shared
import Polystore.Proofs.Store.OneMap
import Polystore.Proofs.Store.Written
import Polystore.Store.Cluster
import Polystore.Store.Cursor

/-!
# Backends can be exchanged

Files, clusters and cursors serve access by key as one map does.  Files do so for documents
whose names the file system takes: the file of such a document holds its stored form, and
nothing stands in the way of writing it.  Clusters do so for all names while their nodes can be
reached.  A client that begins with an empty store therefore gets the same values and the same
kinds of errors from each of them.
-/

namespace Polystore

/-! ## Effects on the documents of a map -/

namespace Operation

variable {Named : String → String → Prop} {operations : List Operation} {collection id : String}

/-- Operations on documents that can be read back leave such documents. -/
theorem readable_of_effects (keyed : ∀ operation ∈ operations, operation.IsKeyed Named)
    {found : Option Json} (before : ∀ stored, found = some stored → stored.Readable)
    {stored : Json} (after : effects operations collection id found = some stored) :
    stored.Readable := by
  induction operations generalizing found with
  | nil => exact before stored after
  | cons operation rest ih =>
      rw [List.forall_mem_cons] at keyed
      apply ih keyed.2 _ after
      intro other changed
      cases operation with
      | put changedCollection changedId written =>
          rw [effect] at changed
          split at changed
          · cases changed
            exact keyed.1.2
          · exact before other changed
      | delete changedCollection changedId =>
          rw [effect] at changed
          split at changed
          · contradiction
          · exact before other changed
      | drop dropped => exact keyed.1.elim

/-- What operations do to files is what they do to the documents in them. -/
theorem foldl_fileEffect (keyed : ∀ operation ∈ operations, operation.IsKeyed Named)
    (found : Option Json) :
    operations.foldl (FileStore.fileEffect collection id) (found.map FileStore.encode) =
      (effects operations collection id found).map FileStore.encode := by
  induction operations generalizing found with
  | nil => rfl
  | cons operation rest ih =>
      rw [List.forall_mem_cons] at keyed
      have first : FileStore.fileEffect collection id (found.map FileStore.encode) operation =
          (effect collection id found operation).map FileStore.encode := by
        cases operation with
        | put changed name stored =>
            rw [FileStore.fileEffect, effect]
            split <;> rfl
        | delete changed name =>
            rw [FileStore.fileEffect, effect]
            split <;> rfl
        | drop changed => exact keyed.1.elim
      rw [List.foldl_cons, first, effects_cons]
      exact ih keyed.2 _

theorem ne_drop_of_isKeyed (keyed : ∀ operation ∈ operations, operation.IsKeyed Named)
    (dropped : String) : .drop dropped ∉ operations :=
  fun member => keyed _ member

end Operation

/-! ## Files -/

namespace FileStore

open Disk

variable {folder : Folder} {home : List String} {origin disk : Disk} {collection id : String}
  {model : MapStore} {operations : List Operation}

/-- A collection and an id that the file system takes: neither is empty, `.` or `..`, neither
holds a slash or the character that ends texts, and the names and paths of the files that they
make are short enough. -/
structure Fits (folder : Folder) (collection id : String) : Prop where
  collectionNamed : isName collection = true
  idNamed : isName id = true
  collectionWritten : '\x00' ∉ collection.toList
  idWritten : '\x00' ∉ id.toList
  collectionShort : tooLong collection = false
  fileShort : tooLong (id ++ extension) = false
  room : (folder.place [collection, id ++ extension]).size < 4096
  draftRoom : (folder.draftPlace collection).size < 4096

instance (folder : Folder) (collection id : String) : Decidable (Fits folder collection id) :=
  decidable_of_iff
    ((isName collection = true ∧ isName id = true) ∧
      ('\x00' ∉ collection.toList ∧ '\x00' ∉ id.toList) ∧
      (tooLong collection = false ∧ tooLong (id ++ extension) = false) ∧
      (folder.place [collection, id ++ extension]).size < 4096 ∧
      (folder.draftPlace collection).size < 4096)
    ⟨fun ⟨⟨collectionNamed, idNamed⟩, ⟨collectionWritten, idWritten⟩,
        ⟨collectionShort, fileShort⟩, room, draftRoom⟩ =>
      ⟨collectionNamed, idNamed, collectionWritten, idWritten, collectionShort, fileShort, room,
        draftRoom⟩,
      fun fits => ⟨⟨fits.collectionNamed, fits.idNamed⟩, ⟨fits.collectionWritten, fits.idWritten⟩,
        ⟨fits.collectionShort, fits.fileShort⟩, fits.room, fits.draftRoom⟩⟩

/-- Below a root whose path is not long, the lengths of the names alone decide. -/
theorem fits_of_roomy (roomy : folder.text.utf8ByteSize + 512 < 4096)
    (collectionNamed : isName collection = true) (idNamed : isName id = true)
    (collectionWritten : '\x00' ∉ collection.toList) (idWritten : '\x00' ∉ id.toList)
    (collectionShort : tooLong collection = false) (fileShort : tooLong (id ++ extension) = false) :
    Fits folder collection id := by
  have size (file : String) : (folder.place [collection, file]).size ≤
      folder.text.utf8ByteSize + collection.utf8ByteSize + 1 + file.utf8ByteSize + 1 := by
    have first := ((Place.ofText folder.text).size_append collection).2
    have second := (((Place.ofText folder.text).append collection).size_append file).2
    rw [Place.size_ofText] at first
    exact Nat.le_trans second (Nat.succ_le_succ (Nat.add_le_add_right first _))
  have collectionSize : collection.utf8ByteSize ≤ 255 :=
    Nat.le_of_not_lt (of_decide_eq_false collectionShort)
  have fileSize : (id ++ extension).utf8ByteSize ≤ 255 :=
    Nat.le_of_not_lt (of_decide_eq_false fileShort)
  have draftSize : Folder.draftName.utf8ByteSize ≤ 255 := by decide +kernel
  have room := size (id ++ extension)
  have draftRoom := size Folder.draftName
  rw [← Folder.draftPlace] at draftRoom
  exact ⟨collectionNamed, idNamed, collectionWritten, idWritten, collectionShort, fileShort,
    by omega, by omega⟩

theorem Fits.clear (fits : Fits folder collection id)
    (root : placeFault? (.ofText folder.text) = none) :
    placeFault? (folder.place [collection, id ++ extension]) = none := by
  have fileWritten : '\x00' ∉ (id ++ extension).toList := by
    rw [String.toList_append, List.mem_append, not_or]
    exact ⟨fits.idWritten, by decide⟩
  rw [placeFault?] at root ⊢
  split at root
  · contradiction
  · next letters =>
    rw [Folder.parts_file, List.append_assoc, List.any_append, if_neg, if_neg]
    · exact Nat.not_le_of_lt fits.room
    · rw [Bool.or_eq_true, not_or]
      refine ⟨letters, ?_⟩
      rw [List.any_eq_true, List.cons_append, List.nil_append]
      rintro ⟨name, member, holds⟩
      rw [List.mem_cons, List.mem_singleton] at member
      rcases member with rfl | rfl
      · exact fits.collectionWritten (of_decide_eq_true holds)
      · exact fileWritten (of_decide_eq_true holds)

/-- In a pool of collections every document whose names the file system takes is accepted. -/
theorem Fits.accepts (fits : Fits folder collection id)
    (root : placeFault? (.ofText folder.text) = none)
    (shelved : folder.Shelved home origin disk) : Accepts folder home disk collection id where
  collectionNamed := fits.collectionNamed
  idNamed := fits.idNamed
  writable :=
    { clear := fits.clear root
      draftClear := placeFault?_draft (fits.clear root) fits.draftRoom
      passable := (Passable.of_hasFolder shelved.hasFolder).concat fits.collectionShort
        (shelved.collections collection)
      fileShort := fits.fileShort
      fileFree := shelved.level collection (id ++ extension) }

theorem Fits.takes (root : placeFault? (.ofText folder.text) = none)
    (shelved : folder.Shelved home origin disk)
    (keyed : ∀ operation ∈ operations, operation.IsKeyed (Fits folder)) :
    ∀ operation ∈ operations, Takes folder home disk operation := by
  intro operation member
  have fits := keyed operation member
  cases operation with
  | put collection id stored => exact fits.1.accepts root shelved
  | delete collection id => exact Fits.accepts fits root shelved
  | drop collection => exact fits

/-- What can be read of a document that is accepted is what lies in its file. -/
theorem Accepts.held (accepts : Accepts folder home disk collection id)
    (isHome : folder.IsHome home disk) :
    held folder disk collection id = disk.files (home ++ [collection, id ++ extension]) := by
  apply Option.ext
  intro content
  rw [held_eq_some_iff isHome accepts.place]
  exact and_iff_right accepts.writable.clear

/-- A pool of collections in which the file of every document that the file system takes holds
the stored form of the document. -/
structure Lists (folder : Folder) (home : List String) (origin disk : Disk) (model : MapStore) :
    Prop where
  root : placeFault? (.ofText folder.text) = none
  shelved : folder.Shelved home origin disk
  held : ∀ {collection id : String}, Fits folder collection id →
    held folder disk collection id = (model.contents collection id).map encode
  readable : ∀ {collection id : String} {stored : Json},
    model.contents collection id = some stored → stored.Readable

namespace Lists

theorem accepts (lists : Lists folder home origin disk model) (fits : Fits folder collection id) :
    Accepts folder home disk collection id :=
  fits.accepts lists.root lists.shelved

theorem files (lists : Lists folder home origin disk model) (fits : Fits folder collection id) :
    disk.files (home ++ [collection, id ++ extension]) =
      (model.contents collection id).map encode :=
  ((lists.accepts fits).held lists.shelved.isHome).symm.trans (lists.held fits)

/-- A transaction is carried out on files as it is in the map. -/
theorem commit (lists : Lists folder home origin disk model)
    (keyed : ∀ operation ∈ operations, operation.IsKeyed (Fits folder)) :
    Matches (Lists folder home origin) (commit operations folder disk)
      (MapStore.commit operations model) := by
  have isHome := lists.shelved.isHome
  have reworked := reworked_commit lists.shelved.isHome operations
  have kept : ∀ operation ∈ operations, dropped? operation = none := by
    intro operation member
    have fits := keyed operation member
    cases operation with
    | put collection id stored => rfl
    | delete collection id => rfl
    | drop collection => exact fits.elim
  have room : ∀ collection id, .delete collection id ∈ operations →
      (folder.draftPlace collection).size < 4096 :=
    fun collection id member => (keyed _ member : Fits folder collection id).draftRoom
  have done : (performAll folder operations [] disk).1 = .ok () :=
    performAll_of_takes isHome (List.forall_mem_nil _) (Fits.takes lists.root lists.shelved keyed)
  rw [commit_eq_performAll kept] at reworked ⊢
  refine ⟨?_, lists.root, lists.shelved.reworked reworked, ?_, ?_⟩
  · rw [done]
    rfl
  · intro collection id fits
    obtain ⟨result, after, performed, ⟨-, effects⟩ | ⟨cause, rfl, -⟩⟩ :=
      performAll_cases isHome (undoes_nil folder home disk) kept room
    · rw [performed]
      dsimp only
      rw [effects, lists.held fits, Operation.foldl_fileEffect keyed, ← Contents.performAll_apply]
      rfl
    · rw [performed] at done
      contradiction
  · intro collection id stored found
    have found : Operation.effects operations collection id (model.contents collection id) =
        some stored := (Contents.performAll_apply _ _ _ _).symm.trans found
    exact Operation.readable_of_effects keyed (fun _ before => lists.readable before) found

/-- A document is read from its file as from the map. -/
theorem get (lists : Lists folder home origin disk model) (fits : Fits folder collection id) :
    (get collection id ⟨folder, disk⟩).mapError Error.outline =
      (MapStore.get collection id model).mapError Error.outline := by
  have accepts := lists.accepts fits
  have read := readAt_of_writable lists.shelved.isHome (isDots_of_isName fits.collectionNamed)
    (isDots_append_extension id) accepts.writable
  rw [lists.files fits] at read
  rw [FileStore.get, accepts.place, MapStore.get]
  dsimp only [Except.bind]
  rw [read]
  cases found : model.contents collection id with
  | none => rfl
  | some stored =>
      change (decode (encode stored)).mapError Error.outline = _
      rw [decode_encode (lists.readable found)]

/-- A put is a transaction of one put. -/
theorem put_eq_commit (lists : Lists folder home origin disk model)
    (fits : Fits folder collection id) {value stored : Json}
    (form : Document.withId id value = .ok stored) :
    put collection id value folder disk =
      FileStore.commit [.put collection id stored] folder disk := by
  have accepts := lists.accepts fits
  have written := accepts.writeAt lists.shelved.isHome (encode stored)
  rw [put, accepts.place, form]
  change folder.writeAt [collection, id ++ extension] (encode stored) disk =
    performAll folder [.put collection id stored] [] disk
  rw [performAll, perform, accepts.place]
  dsimp only
  rw [accepts.contentAt lists.shelved.isHome]
  generalize folder.writeAt [collection, id ++ extension] (encode stored) disk = outcome
    at written ⊢
  rcases outcome with ⟨result, after⟩
  cases written
  rfl

/-- The delete of a document that is there is a transaction of one delete. -/
theorem delete_eq_commit (lists : Lists folder home origin disk model)
    (fits : Fits folder collection id) {stored : Json}
    (found : model.contents collection id = some stored) :
    delete collection id folder disk = FileStore.commit [.delete collection id] folder disk := by
  have accepts := lists.accepts fits
  have lies := lists.files fits
  rw [found, Option.map_some] at lies
  have removed := Folder.deleteAt_of_files lists.shelved.isHome
    (isDots_of_isName fits.collectionNamed) (isDots_append_extension id) accepts.writable.clear lies
  rw [delete, accepts.place]
  change folder.deleteAt [collection, id ++ extension] disk =
    performAll folder [.delete collection id] [] disk
  rw [performAll, perform, accepts.place]
  dsimp only
  rw [accepts.contentAt lists.shelved.isHome, lies]
  dsimp only
  generalize folder.deleteAt [collection, id ++ extension] disk = outcome at removed ⊢
  rcases outcome with ⟨result, after⟩
  cases removed
  rfl

theorem put (lists : Lists folder home origin disk model) (fits : Fits folder collection id)
    {value : Json} (readable : value.Readable) :
    Matches (Lists folder home origin) (put collection id value folder disk)
      (MapStore.put collection id value model) := by
  rw [MapStore.put]
  cases form : Document.withId id value with
  | error cause =>
      have refused : FileStore.put collection id value folder disk = (.error cause, disk) := by
        rw [FileStore.put, (lists.accepts fits).place, form]
      rw [refused]
      exact ⟨rfl, lists⟩
  | ok stored =>
      rw [lists.put_eq_commit fits form]
      apply lists.commit
      exact List.forall_mem_singleton.mpr ⟨fits, Document.readable_of_withId form readable⟩

theorem delete (lists : Lists folder home origin disk model) (fits : Fits folder collection id) :
    Matches (Lists folder home origin) (delete collection id folder disk)
      (MapStore.delete collection id model) := by
  rw [MapStore.delete]
  cases found : model.contents collection id with
  | none =>
      have accepts := lists.accepts fits
      have missing := lists.files fits
      rw [found, Option.map_none] at missing
      rw [FileStore.delete, accepts.place]
      dsimp only
      rw [accepts.writable.deleteAt lists.shelved.isHome (isDots_of_isName fits.collectionNamed)
        (isDots_append_extension id) missing]
      exact ⟨rfl, lists⟩
  | some stored =>
      rw [lists.delete_eq_commit fits found]
      exact lists.commit (List.forall_mem_singleton.mpr fits)

end Lists

/-- A store on a folder in which files hold the documents of a map. -/
def Holds (folder : Folder) (home : List String) (origin : Disk) (store : FileStore)
    (model : MapStore) : Prop :=
  store.folder = folder ∧ Lists folder home origin store.disk model

/-- Files serve access by key for all names that the file system takes. -/
theorem servesByKey (folder : Folder) (home : List String) (origin : Disk) :
    ServesByKey FileStore (Fits folder) (Holds folder home origin) where
  get {store model collection id} := by
    rcases store with ⟨root, disk⟩
    rintro ⟨rfl, lists⟩ fits
    exact lists.get fits
  put {store model collection id value} := by
    rcases store with ⟨root, disk⟩
    rintro ⟨rfl, lists⟩ fits readable
    have matched := lists.put fits readable
    exact ⟨matched.result, rfl, matched.after⟩
  delete {store model collection id} := by
    rcases store with ⟨root, disk⟩
    rintro ⟨rfl, lists⟩ fits
    have matched := lists.delete fits
    exact ⟨matched.result, rfl, matched.after⟩
  commit {store model operations} := by
    rcases store with ⟨root, disk⟩
    rintro ⟨rfl, lists⟩ keyed
    have matched := lists.commit keyed
    exact ⟨matched.result, rfl, matched.after⟩

/-- A store that is opened on an empty folder holds the empty map. -/
theorem exists_holds {text : String} (opened : Folder.entryAt text disk = .ok (.folder [])) :
    ∃ home, Holds ⟨text⟩ home disk ⟨⟨text⟩, disk⟩ ⟨fun _ _ => none⟩ := by
  have root : placeFault? (.ofText text) = none := by
    rw [Folder.entryAt] at opened
    split at opened
    · contradiction
    · exact (checked_eq_ok_iff.mp opened).1
  rcases Folder.exists_shelved opened with ⟨home, shelved⟩
  refine ⟨home, rfl, root, shelved, ?_, ?_⟩
  · intro collection id fits
    rw [(fits.accepts root shelved).held shelved.isHome]
    cases lies : disk.files (home ++ [collection, id ++ extension]) with
    | none => rfl
    | some content =>
        have found := files_eq_some_iff.mp lies
        rw [List.append_cons] at found
        exact absurd (hasFolder_of_look_append (List.cons_ne_nil _ []) found)
          (shelved.bare collection)
  · intro collection id stored found
    contradiction

end FileStore

/-! ## Clusters -/

namespace Cluster

variable {cluster after : Cluster} {model : MapStore} {collection id : String}
  {operations : List Operation}

/-- A cluster whose nodes can all be reached and that holds the documents of a map. -/
structure Shows (cluster : Cluster) (model : MapStore) : Prop where
  nonempty : cluster.segments ≠ []
  online : cluster.AllOnline
  document? : ∀ collection id, cluster.document? collection id = model.contents collection id

namespace Shows

theorem carries (shows : cluster.Shows model) (carries : Carries operations cluster after) :
    after.Shows ⟨model.contents.performAll operations⟩ where
  nonempty := carries.segments ▸ shows.nonempty
  online := carries.online shows.online
  document? collection id := by
    rw [carries.document?, shows.document?, ← Contents.performAll_apply]

theorem get (shows : cluster.Shows model) (collection id : String) :
    cluster.get collection id = MapStore.get collection id model := by
  rw [get_of_online shows.nonempty shows.online, shows.document?]
  rfl

theorem put (shows : cluster.Shows model) (collection id : String) (value : Json) :
    Matches Shows (cluster.put collection id value) (MapStore.put collection id value model) := by
  have result := put_of_online shows.nonempty shows.online collection id value
  have carried := shows.carries (carries_put shows.nonempty shows.online collection id value)
  rw [Operation.forPut] at carried
  rw [MapStore.put]
  cases form : Document.withId id value with
  | error cause =>
      rw [form] at result carried
      exact ⟨congrArg _ result, carried⟩
  | ok stored =>
      rw [form] at result carried
      exact ⟨congrArg _ result, carried⟩

theorem delete (shows : cluster.Shows model) (collection id : String) :
    Matches Shows (cluster.delete collection id) (MapStore.delete collection id model) := by
  have result := delete_of_online shows.nonempty shows.online collection id
  have carried := shows.carries (carries_delete shows.nonempty shows.online collection id)
  rw [shows.document?] at result carried
  rw [MapStore.delete]
  cases found : model.contents collection id with
  | none =>
      rw [found] at result carried
      exact ⟨congrArg _ result, carried⟩
  | some stored =>
      rw [found] at result carried
      exact ⟨congrArg _ result, carried⟩

theorem commit (shows : cluster.Shows model) (kept : ∀ dropped, .drop dropped ∉ operations) :
    Matches Shows (commit operations cluster) (MapStore.commit operations model) := by
  constructor
  · rw [commit_of_online shows.nonempty shows.online]
    rfl
  · exact shows.carries (carries_commit shows.nonempty shows.online kept)

end Shows

/-- A cluster that was just connected holds the empty map. -/
theorem shows_of_connect {raw : String} {hasFile : String → Bool}
    (connected : connect raw hasFile = .ok cluster) : cluster.Shows ⟨fun _ _ => none⟩ := by
  rw [connect] at connected
  cases made : Pool.init raw (connector hasFile) with
  | error cause =>
      rw [made] at connected
      contradiction
  | ok pool =>
      rw [made] at connected
      cases connected
      constructor
      · rw [ofPool, ne_eq, List.map_eq_nil_iff]
        exact pool.nonempty
      · exact allOnline_ofPool pool
      · exact document?_ofPool pool

end Cluster

section

variable (Named : String → String → Prop)

theorem ClusterStore.servesByKey :
    ServesByKey ClusterStore Named fun store model => store.cluster.Shows model where
  get shows _ := congrArg _ (shows.get _ _)
  put shows _ _ := ⟨(shows.put _ _ _).result, (shows.put _ _ _).after⟩
  delete shows _ := ⟨(shows.delete _ _).result, (shows.delete _ _).after⟩
  commit shows keyed :=
    ⟨(shows.commit (Operation.ne_drop_of_isKeyed keyed)).result,
      (shows.commit (Operation.ne_drop_of_isKeyed keyed)).after⟩

theorem CursorStore.servesByKey :
    ServesByKey CursorStore Named fun store model => store.cluster.Shows model where
  get shows _ := congrArg _ (shows.get _ _)
  put shows _ _ := ⟨(shows.put _ _ _).result, (shows.put _ _ _).after⟩
  delete shows _ := ⟨(shows.delete _ _).result, (shows.delete _ _).after⟩
  commit shows keyed :=
    ⟨(shows.commit (Operation.ne_drop_of_isKeyed keyed)).result,
      (shows.commit (Operation.ne_drop_of_isKeyed keyed)).after⟩

end

/-! ## Clients -/

namespace Client

/-- Clients that begin with an empty folder, a new cluster and a new cluster of cursors get the
same values and the same kinds of errors from puts, reads, deletes and transactions of documents
whose names the file system takes, whatever they do. -/
theorem replies_of_backends {text : String} {disk : Disk}
    (opened : Folder.entryAt text disk = .ok (.folder []))
    {spec cursorSpec : String} {hasFile : String → Bool} {cluster cursors : Cluster}
    (connected : Cluster.connect spec hasFile = .ok cluster)
    (cursorsConnected : Cluster.connect cursorSpec hasFile = .ok cursors)
    (capacity cursorCapacity : Nat) {steps : List ClientStep}
    (keyed : ∀ step ∈ steps, step.IsKeyed (FileStore.Fits ⟨text⟩)) :
    let files : Client FileStore := { store := ⟨⟨text⟩, disk⟩ }
    let clustered : Client ClusterStore := { store := .ofCluster cluster capacity }
    let walked : Client CursorStore := { store := .ofCluster cursors cursorCapacity }
    (runAll steps files).1.map Reply.outline = (runAll steps clustered).1.map Reply.outline ∧
      (runAll steps walked).1.map Reply.outline = (runAll steps clustered).1.map Reply.outline := by
  intro files clustered walked
  let model : Client MapStore := { store := ⟨fun _ _ => none⟩ }
  rcases FileStore.exists_holds opened with ⟨home, holds⟩
  have fromFiles : (runAll steps files).1.map Reply.outline =
      (runAll steps model).1.map Reply.outline :=
    (FileStore.servesByKey ⟨text⟩ home disk).replies holds keyed
  have fromCluster : (runAll steps clustered).1.map Reply.outline =
      (runAll steps model).1.map Reply.outline :=
    (ClusterStore.servesByKey _).replies (Cluster.shows_of_connect connected) keyed
  have fromCursors : (runAll steps walked).1.map Reply.outline =
      (runAll steps model).1.map Reply.outline :=
    (CursorStore.servesByKey _).replies (Cluster.shows_of_connect cursorsConnected) keyed
  exact ⟨fromFiles.trans fromCluster.symm, fromCursors.trans fromCluster.symm⟩

/-- A client that is refused a document, fails to remove one twice and rolls a transaction back
gets the same from a folder, from two nodes and from cursors on one node under two
descriptors. -/
theorem replies_of_three_backends :
    ∃ cluster cursors : Cluster,
      Cluster.connect "east,west" (fun _ => false) = .ok cluster ∧
      Cluster.connect "solo,solo" (fun _ => false) = .ok cursors ∧
      (let steps : List ClientStep := [
        .put "books" "a" (.object [("year", .number (.integer (-3)))]), .get "books" "a",
        .put "books" "b" .null, .stagePut 0 "books" "c" (.object []), .stageDelete 0 "books" "a",
        .stageDelete 0 "shelves" "z", .get "books" "a", .commit 0, .stagePut 0 "books" "d" .null,
        .delete "books" "a", .get "books" "c", .start 0, .stageDelete 0 "books" "c", .rollback 0,
        .commit 0, .get "books" "c"]
      let files : Client FileStore := { store := ⟨⟨"/data"⟩, [("data", .folder [])]⟩ }
      let clustered : Client ClusterStore := { store := .ofCluster cluster 4 }
      let walked : Client CursorStore := { store := .ofCluster cursors 4 }
      (runAll steps files).1.map Reply.outline = (runAll steps clustered).1.map Reply.outline ∧
        (runAll steps walked).1.map Reply.outline =
          (runAll steps clustered).1.map Reply.outline) := by
  have opened : Folder.entryAt "/data" [("data", .folder [])] = .ok (.folder []) := rfl
  obtain ⟨cluster, connected⟩ : ∃ cluster,
      Cluster.connect "east,west" (fun _ => false) = .ok cluster := ⟨_, rfl⟩
  obtain ⟨cursors, cursorsConnected⟩ : ∃ cursors,
      Cluster.connect "solo,solo" (fun _ => false) = .ok cursors := ⟨_, rfl⟩
  refine ⟨cluster, cursors, connected, cursorsConnected, ?_⟩
  exact replies_of_backends opened connected cursorsConnected 4 4 (by decide +kernel)

end Client

end Polystore
