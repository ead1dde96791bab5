import Polystore.Store.Basic
import Polystore.Writer.Batch

/-!
# Watched documents

An application keeps documents in memory, changes them there and tells a watcher
about the changes.  The watcher writes a changed document to a store once it has
been left alone for some time, many of them in one sweep.

A watched document is clean or dirty, and it has a version that every update and
every forced put raises.  A sweep marks documents clean before it writes them; if
the write fails they are marked dirty again under `atLeastOnce`, unless the
version tells that they were updated or written in the meantime.  A sweep that
finds no room for the keys of a batch panics in between: the documents are clean
then, and not written.

Applications and watchers run side by side.  What happens elsewhere while the
watcher waits for the store is a parameter of its operations, the interference.
-/

namespace Polystore

/-- What happens to documents whose batch could not be committed. -/
inductive Durability where
  /-- They stay clean, and the change is written with the next update. -/
  | atMostOnce
  /-- They are dirty again, and the next sweep tries once more. -/
  | atLeastOnce
deriving DecidableEq, Repr

/-- The name of a durability. -/
def Durability.name : Durability → String
  | atMostOnce => "AtMostOnce"
  | atLeastOnce => "AtLeastOnce"

/-- The settings of a watcher. -/
structure WatchSettings where
  /-- For how many nanoseconds a document has to be left alone. -/
  range : Nat := 1000000000
  batchSize : Nat := 150
  durability : Durability := .atMostOnce
deriving DecidableEq, Repr

/-- How many bytes the key of a document takes in a list: a text is three words. -/
def keyBytes : Nat := 24

/-- Whether there is room for the keys of a batch. -/
def WatchSettings.HasRoom (settings : WatchSettings) : Prop :=
  CanReserve keyBytes (max settings.batchSize 1)

instance (settings : WatchSettings) : Decidable settings.HasRoom :=
  inferInstanceAs (Decidable (CanReserve _ _))

/-- A document as an application holds it. -/
structure SharedDocument where
  id : String
  content : Json

/-- What a watcher knows about a document. -/
structure Watched where
  collection : String
  id : String
  /-- Which of the documents of the application it is. -/
  handle : Nat
  /-- When the document was watched or updated last. -/
  touched : Nat
  dirty : Bool := false
  version : Nat := 0

/-- A watcher: its settings, and the documents that it watches. -/
structure Watch where
  settings : WatchSettings := {}
  documents : Keyed Watched := []
  /-- Whether sweeps are made in the background. -/
  running : Bool := false

/-- The key of a watched document. -/
def watchKey (collection id : String) : String :=
  collection ++ "$" ++ id

namespace Watch

/-- Whether a document is watched. -/
def isWatched (watch : Watch) (collection id : String) : Bool :=
  watch.documents.contains (watchKey collection id)

/-- Whether a document is dirty. -/
def isDirty (watch : Watch) (collection id : String) : Bool :=
  match watch.documents.get? (watchKey collection id) with
  | some watched => watched.dirty
  | none => false

/-- Change what is known about the document of a key. -/
def adjust (key : String) (change : Watched → Watched) (watch : Watch) : Watch :=
  { watch with documents := watch.documents.adjust key change }

/-- Watch a document under a key.  A document may be watched twice, but a key
belongs to one document. -/
def add (watch : Watch) (collection id : String) (handle now : Nat) : Outcome Watch Unit :=
  let key := watchKey collection id
  match watch.documents.get? key with
  | some watched =>
      if watched.handle = handle then (.ok (), watch)
      else (.error (.watchedElsewhere key), watch)
  | none =>
      (.ok (), { watch with
        documents := Keyed.insert key
          { collection, id, handle, touched := now } watch.documents })

/-- Forget a document, changed or not. -/
def remove (watch : Watch) (collection id : String) : Watch :=
  { watch with documents := watch.documents.erase (watchKey collection id) }

/-- Mark a document dirty. -/
def update (watch : Watch) (collection id : String) (now : Nat) : Outcome Watch Unit :=
  let key := watchKey collection id
  if watch.documents.contains key then
    (.ok (), watch.adjust key fun watched =>
      { watched with touched := now, dirty := true, version := watched.version + 1 })
  else (.error (.notWatched key), watch)

/-- Note that a document was written as it was at a version.  It is clean now
unless it was updated since. -/
def noteWritten (key : String) (seen : Nat) (watch : Watch) : Watch :=
  watch.adjust key fun watched =>
    { watched with
      dirty := watched.dirty && watched.version != seen
      version := watched.version + 1 }

/-- Before when a document must have been touched to be written at a time. -/
def deadline? (watch : Watch) (now : Nat) : Option Nat :=
  if watch.settings.range ≤ now then some (now - watch.settings.range) else none

/-- The keys of the dirty documents that were touched before a deadline, with
their versions. -/
def due (watch : Watch) (deadline : Nat) : List (String × Nat) :=
  watch.documents.filterMap fun (key, watched) =>
    if watched.dirty = true ∧ watched.touched < deadline then some (key, watched.version)
    else none

/-- Mark the documents of some keys clean. -/
def markClean (keys : List String) (watch : Watch) : Watch :=
  keys.foldl (fun watch key => watch.adjust key fun watched =>
    { watched with dirty := false }) watch

/-- Mark a document dirty again if it still has the version under which it was
staged. -/
def markDirtyAt (staged : List (String × Nat)) (watch : Watch) (key : String) : Watch :=
  watch.adjust key fun watched =>
    { watched with
      dirty := watched.dirty || List.lookup key staged == some watched.version }

/-- Begin sweeps in the background. -/
def start (watch : Watch) : Outcome Watch Unit :=
  if watch.settings.range = 0 then (.error .zeroPeriod, watch)
  else if watch.running then (.error .alreadyRunning, watch)
  else (.ok (), { watch with running := true })

/-- End sweeps in the background. -/
def stop (watch : Watch) : Watch :=
  { watch with running := false }

end Watch

/-- A store, a watcher over it, and the documents of the application. -/
structure Session (σ : Type) where
  store : σ
  watch : Watch := {}
  shared : List SharedDocument := []

/-- When the watcher waits for the store. -/
inductive Moment where
  /-- While a put is on its way. -/
  | put
  /-- While a transaction is made. -/
  | transaction
deriving DecidableEq, Repr

/-- What happens elsewhere while the watcher waits for the store. -/
abbrev Interference (σ : Type) := Moment → Session σ → Session σ

namespace Session

variable {σ : Type}

/-- Nothing happens elsewhere. -/
def quiet : Interference σ := fun _ session => session

/-- The document of a handle.  A handle that was never given out stands for a
document that cannot be written. -/
def document (session : Session σ) (handle : Nat) : SharedDocument :=
  session.shared.getD handle ⟨"", .null⟩

/-- Take in a document; its handle is new. -/
def share (document : SharedDocument) (session : Session σ) : Nat × Session σ :=
  (session.shared.length, { session with shared := session.shared ++ [document] })

/-- Change a document in place. -/
def mutate (handle : Nat) (document : SharedDocument) (session : Session σ) : Session σ :=
  { session with shared := session.shared.set handle document }

/-- Act on the watcher. -/
def onWatch {α : Type} (session : Session σ) (outcome : Outcome Watch α) :
    Outcome (Session σ) α :=
  (outcome.1, { session with watch := outcome.2 })

/-- Watch a document without writing it. -/
def watchDocument (collection : String) (handle now : Nat) (session : Session σ) :
    Outcome (Session σ) Unit :=
  session.onWatch
    (session.watch.add collection (session.document handle).id handle now)

/-- Mark a document dirty. -/
def update (collection id : String) (now : Nat) (session : Session σ) :
    Outcome (Session σ) Unit :=
  session.onWatch (session.watch.update collection id now)

/-- Forget a document. -/
def stopWatch (collection id : String) (session : Session σ) : Session σ :=
  { session with watch := session.watch.remove collection id }

variable [DocumentStore σ]

/-- Write a watched document now. -/
def updateForce (interfere : Interference σ) (collection id : String)
    (session : Session σ) : Outcome (Session σ) Unit :=
  let key := watchKey collection id
  match session.watch.documents.get? key with
  | none => (.error (.notWatched key), session)
  | some watched =>
      let content := (session.document watched.handle).content
      let session := interfere .put session
      match DocumentStore.put collection id content session.store with
      | (.error cause, store) => (.error cause, { session with store := store })
      | (.ok (), store) =>
          (.ok (), { session with
            store := store
            watch := session.watch.noteWritten key watched.version })

/-- Watch a document and write it. -/
def watchPut (interfere : Interference σ) (collection : String) (handle now : Nat)
    (session : Session σ) : Outcome (Session σ) Unit :=
  match session.watchDocument collection handle now with
  | (.error cause, session) => (.error cause, session)
  | (.ok (), session) =>
      session.updateForce interfere collection (session.document handle).id

/-- The store of a session as the target of bulk writing. -/
def target (interfere : Interference σ) : BatchTarget (Session σ) where
  commit operations session :=
    let (result, store) := DocumentStore.commit operations session.store
    (result, { session with store := store })
  meanwhile := interfere .transaction

/-- Stage the documents of some keys; the keys of those that could not be
staged, and the writer.  What is no longer watched is passed over. -/
def stageAll (interfere : Interference σ) :
    (keys : List String) → BatchWriter String → Session σ →
      List String × BatchWriter String × Session σ
  | [], writer, session => ([], writer, session)
  | key :: rest, writer, session =>
      match session.watch.documents.get? key with
      | none => stageAll interfere rest writer session
      | some watched =>
          let (result, writer, session) := writer.add (target interfere) key
            watched.collection watched.id (session.document watched.handle).content session
          let (refused, writer, session) := stageAll interfere rest writer session
          match result with
          | .ok () => (refused, writer, session)
          | .error _ => (key :: refused, writer, session)

/-- Write the documents of some keys, which were found with some versions.  Those that were not
written are dirty again under `atLeastOnce`. -/
def writeBack (interfere : Interference σ) (staged : List (String × Nat))
    (writer : BatchWriter String) (session : Session σ) : FlushReport × Session σ :=
  let (refused, writer, session) := stageAll interfere (staged.map Prod.fst) writer session
  let ((report, failed), session) := writer.finish (target interfere) session
  let report := { report with failed := report.failed + refused.length }
  match session.watch.settings.durability with
  | .atMostOnce => (report, session)
  | .atLeastOnce =>
      (report, { session with
        watch := (failed ++ refused).foldl (Watch.markDirtyAt staged) session.watch })

/-- Write the documents that are due at a time. -/
def sweep (interfere : Interference σ) (now : Nat) (session : Session σ) :
    Except Panic FlushReport × Session σ :=
  match session.watch.deadline? now with
  | none => (.ok {}, session)
  | some deadline =>
      let staged := session.watch.due deadline
      if staged.isEmpty then (.ok {}, session)
      else
        let session :=
          { session with watch := session.watch.markClean (staged.map Prod.fst) }
        match BatchWriter.start keyBytes (target interfere) session.watch.settings.batchSize
            session with
        | (.error cause, session) => (.error cause, session)
        | (.ok writer, session) =>
            let (report, session) := writeBack interfere staged writer session
            (.ok report, session)

/-- Make the next sweep in the background, if sweeps are made there: by then every
document that is dirty now has been left alone for long enough. -/
def nextSweep (interfere : Interference σ) (now : Nat) (session : Session σ) : Session σ :=
  if session.watch.running then
    (session.sweep interfere (now + session.watch.settings.range + 1)).2
  else session

end Session

end Polystore
