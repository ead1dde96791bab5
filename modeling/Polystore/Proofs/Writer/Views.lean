import Polystore.Proofs.Writer.Marks

/-!
# Watchers over views of stores

A watcher uses a store through puts and commits only.  Where a view of the states of
a store keeps these two calls, a session looks the same through the view whether the
watcher works on the store or on what is seen of it.
-/

namespace Polystore

/-- A transaction hands its operations on, so it keeps what its sink keeps. -/
theorem Transaction.commit_map {σ τ : Type} {view : σ → τ} {sink : Sink σ} {seen : Sink τ}
    (keeps : ∀ operations state,
      seen operations (view state) = ((sink operations state).1, view (sink operations state).2))
    (transaction : Transaction) (state : σ) :
    transaction.commit seen (view state) =
      ((transaction.commit sink state).1, (transaction.commit sink state).2.1,
        view (transaction.commit sink state).2.2) := by
  obtain ⟨status, operations⟩ := transaction
  cases status with
  | active =>
      cases operations with
      | nil => rfl
      | cons operation rest =>
          simp only [commit]
          rw [keeps]
          rcases sink (operation :: rest) state with ⟨_ | _, after⟩
          · rfl
          · rfl
  | committed => rfl
  | aborted => rfl

variable {σ τ : Type} [DocumentStore σ] [DocumentStore τ]

/-- A view of states that keeps the calls of a watcher. -/
structure KeepsWrites (view : σ → τ) : Prop where
  put : ∀ (collection id : String) (value : Json) (state : σ),
    DocumentStore.put collection id value (view state) =
      ((DocumentStore.put collection id value state).1,
        view (DocumentStore.put collection id value state).2)
  commit : ∀ (operations : List Operation) (state : σ),
    DocumentStore.commit operations (view state) =
      ((DocumentStore.commit operations state).1,
        view (DocumentStore.commit operations state).2)

namespace Session

omit [DocumentStore σ] [DocumentStore τ] in
/-- A session seen through a view of its store. -/
def map (view : σ → τ) (session : Session σ) : Session τ where
  store := view session.store
  watch := session.watch
  shared := session.shared

variable {view : σ → τ}

theorem target_commit_map (keeps : KeepsWrites view) (operations : List Operation)
    (session : Session σ) :
    (target quiet).commit operations (session.map view) =
      (((target quiet).commit operations session).1,
        ((target quiet).commit operations session).2.map view) := by
  simp only [target, map, keeps.commit]

theorem flush_map (keeps : KeepsWrites view) (writer : BatchWriter String)
    (session : Session σ) :
    writer.flush (target quiet) (session.map view) =
      ((writer.flush (target quiet) session).1,
        (writer.flush (target quiet) session).2.map view) := by
  rw [BatchWriter.flush, BatchWriter.flush]
  split
  · rfl
  · rw [Transaction.commit_map (target_commit_map keeps)]
    rfl

theorem add_map (keeps : KeepsWrites view) (key collection id : String) (value : Json)
    (writer : BatchWriter String) (session : Session σ) :
    writer.add (target quiet) key collection id value (session.map view) =
      ((writer.add (target quiet) key collection id value session).1,
        (writer.add (target quiet) key collection id value session).2.1,
        (writer.add (target quiet) key collection id value session).2.2.map view) := by
  rw [BatchWriter.add, BatchWriter.add]
  rcases writer.transaction.put collection id value with ⟨cause | _, transaction⟩
  · rfl
  · dsimp only
    rw [flush_map keeps]
    split <;> rfl

theorem stageAll_map (keeps : KeepsWrites view) (keys : List String)
    (writer : BatchWriter String) (session : Session σ) :
    stageAll quiet keys writer (session.map view) =
      ((stageAll quiet keys writer session).1, (stageAll quiet keys writer session).2.1,
        (stageAll quiet keys writer session).2.2.map view) := by
  induction keys generalizing writer session with
  | nil => rfl
  | cons key rest ih =>
      rw [stageAll, stageAll]
      rw [show (session.map view).watch = session.watch from rfl]
      cases session.watch.documents.get? key with
      | none => exact ih writer session
      | some watched =>
          dsimp only
          rw [show (session.map view).document = session.document from rfl, add_map keeps]
          rcases writer.add (target quiet) key watched.collection watched.id
            (session.document watched.handle).content session with ⟨result, writer, session⟩
          dsimp only
          rw [ih]
          cases result with
          | ok _ => rfl
          | error cause => rfl

/-- Write the documents of some keys in batches: the report, the keys of the documents
that were not written, and the session. -/
def writeOut (keys : List String) (session : Session σ) :
    (FlushReport × List String) × Session σ :=
  let writer : BatchWriter String := .empty session.watch.settings.batchSize
  let (refused, writer, session) := stageAll quiet keys writer session
  let ((report, failed), session) := writer.finish (target quiet) session
  (({ report with failed := report.failed + refused.length }, failed ++ refused), session)

/-- The session in which a sweep writes: the documents that are due are clean. -/
def markedAt (deadline : Nat) (session : Session σ) : Session σ :=
  { session with watch := session.watch.markClean ((session.watch.due deadline).map Prod.fst) }

/-- What was not written is marked dirty again if it is to be tried once more. -/
theorem writeBack_eq (staged : List (String × Nat)) (session : Session σ) :
    session.writeBack quiet staged (.empty session.watch.settings.batchSize) =
      let ((report, unwritten), session) := session.writeOut (staged.map Prod.fst)
      match session.watch.settings.durability with
      | .atMostOnce => (report, session)
      | .atLeastOnce =>
          (report, { session with
            watch := unwritten.foldl (Watch.markDirtyAt staged) session.watch }) :=
  rfl

theorem writeOut_map (keeps : KeepsWrites view) (keys : List String) (session : Session σ) :
    (session.map view).writeOut keys =
      ((session.writeOut keys).1, (session.writeOut keys).2.map view) := by
  rw [writeOut, writeOut, show (session.map view).watch = session.watch from rfl]
  dsimp only
  rw [stageAll_map keeps]
  rcases stageAll quiet keys (.empty session.watch.settings.batchSize) session with
    ⟨refused, writer, session⟩
  dsimp only [BatchWriter.finish]
  rw [flush_map keeps]

theorem writeBack_map (keeps : KeepsWrites view) (staged : List (String × Nat))
    (session : Session σ) :
    (session.map view).writeBack quiet staged (.empty session.watch.settings.batchSize) =
      ((session.writeBack quiet staged (.empty session.watch.settings.batchSize)).1,
        (session.writeBack quiet staged (.empty session.watch.settings.batchSize)).2.map view) := by
  rw [show session.watch = (session.map view).watch from rfl, writeBack_eq, writeOut_map keeps]
  rw [show (session.map view).watch = session.watch from rfl, writeBack_eq]
  rcases session.writeOut (staged.map Prod.fst) with ⟨⟨report, unwritten⟩, after⟩
  dsimp only
  rw [show (after.map view).watch = after.watch from rfl]
  cases after.watch.settings.durability with
  | atMostOnce => rfl
  | atLeastOnce => rfl

section

variable {session : Session σ} {now deadline : Nat}

/-- Nothing is due before the range of the watcher has passed. -/
theorem sweep_of_early (time : session.watch.deadline? now = none) :
    session.sweep quiet now = (.ok {}, session) := by
  rw [sweep, time]

theorem sweep_of_due_eq_nil (time : session.watch.deadline? now = some deadline)
    (nothing : session.watch.due deadline = []) :
    session.sweep quiet now = (.ok {}, session) := by
  rw [sweep, time]
  dsimp only
  rw [nothing]
  rfl

omit [DocumentStore σ] in
theorem settings_markedAt (session : Session σ) (deadline : Nat) :
    (session.markedAt deadline).watch.settings = session.watch.settings :=
  (Watch.remarks_markClean _ _).settings

/-- A sweep that finds documents due marks them clean and writes them, if there is room for the
keys of a batch. -/
theorem sweep_of_hasRoom (time : session.watch.deadline? now = some deadline)
    (late : session.watch.due deadline ≠ []) (room : session.watch.settings.HasRoom) :
    session.sweep quiet now =
      let wrote := (session.markedAt deadline).writeBack quiet (session.watch.due deadline)
        (.empty (session.markedAt deadline).watch.settings.batchSize)
      (.ok wrote.1, wrote.2) := by
  have fits : CanReserve keyBytes (max session.watch.settings.batchSize 1) := room
  rw [sweep, time]
  dsimp only
  rw [if_neg (fun none => late (List.isEmpty_iff.mp none)), BatchWriter.start,
    (Watch.remarks_markClean _ _).settings, if_pos fits, settings_markedAt]
  rfl

/-- Where there is no room for the keys of a batch, documents that are due are only cleaned. -/
theorem sweep_of_not_hasRoom (time : session.watch.deadline? now = some deadline)
    (late : session.watch.due deadline ≠ []) (lack : ¬ session.watch.settings.HasRoom) :
    session.sweep quiet now = (.error .capacity, session.markedAt deadline) := by
  have full : ¬ CanReserve keyBytes (max session.watch.settings.batchSize 1) := lack
  rw [sweep, time]
  dsimp only
  rw [if_neg (fun none => late (List.isEmpty_iff.mp none)), BatchWriter.start,
    (Watch.remarks_markClean _ _).settings, if_neg full]
  rfl

/-- A sweep with room for the keys of a batch returns. -/
theorem exists_report_of_hasRoom (room : session.watch.settings.HasRoom) (now : Nat) :
    ∃ report, (session.sweep quiet now).1 = .ok report := by
  cases time : session.watch.deadline? now with
  | none => exact ⟨_, congrArg Prod.fst (sweep_of_early time)⟩
  | some deadline =>
      by_cases nothing : session.watch.due deadline = []
      · exact ⟨_, congrArg Prod.fst (sweep_of_due_eq_nil time nothing)⟩
      · exact ⟨_, congrArg Prod.fst (sweep_of_hasRoom time nothing room)⟩

end

/-- A sweep writes through a view as it does on the store. -/
theorem sweep_map (keeps : KeepsWrites view) (now : Nat) (session : Session σ) :
    (session.map view).sweep quiet now =
      ((session.sweep quiet now).1, (session.sweep quiet now).2.map view) := by
  have seen : (session.map view).watch = session.watch := rfl
  cases time : session.watch.deadline? now with
  | none => rw [sweep_of_early time, sweep_of_early (seen ▸ time)]
  | some deadline =>
      have marked : (session.map view).markedAt deadline = (session.markedAt deadline).map view :=
        rfl
      by_cases nothing : session.watch.due deadline = []
      · rw [sweep_of_due_eq_nil time nothing, sweep_of_due_eq_nil (seen ▸ time) (seen ▸ nothing)]
      · by_cases room : session.watch.settings.HasRoom
        · rw [sweep_of_hasRoom time nothing room,
            sweep_of_hasRoom (seen ▸ time) (seen ▸ nothing) (seen ▸ room), seen, marked]
          exact congrArg (fun wrote => (Except.ok wrote.1, wrote.2)) (writeBack_map keeps _ _)
        · rw [sweep_of_not_hasRoom time nothing room,
            sweep_of_not_hasRoom (seen ▸ time) (seen ▸ nothing) (seen ▸ room), marked]

/-- A put goes through a view as it does to the store. -/
theorem updateForce_map (keeps : KeepsWrites view) (collection id : String)
    (session : Session σ) :
    (session.map view).updateForce quiet collection id =
      ((session.updateForce quiet collection id).1,
        (session.updateForce quiet collection id).2.map view) := by
  rw [updateForce, updateForce, show (session.map view).watch = session.watch from rfl]
  cases session.watch.documents.get? (watchKey collection id) with
  | none => rfl
  | some watched =>
      dsimp only
      rw [show (session.map view).document = session.document from rfl, quiet, quiet,
        show (session.map view).store = view session.store from rfl, keeps.put]
      rcases DocumentStore.put collection id (session.document watched.handle).content
        session.store with ⟨cause | _, store⟩
      · rfl
      · rfl

theorem watchPut_map (keeps : KeepsWrites view) (collection : String) (handle now : Nat)
    (session : Session σ) :
    (session.map view).watchPut quiet collection handle now =
      ((session.watchPut quiet collection handle now).1,
        (session.watchPut quiet collection handle now).2.map view) := by
  rw [watchPut, watchPut]
  have watched : (session.map view).watchDocument collection handle now =
      ((session.watchDocument collection handle now).1,
        (session.watchDocument collection handle now).2.map view) := rfl
  rw [watched]
  rcases session.watchDocument collection handle now with ⟨cause | _, session⟩
  · rfl
  · exact updateForce_map keeps collection _ session

end Session

end Polystore
