import Polystore.Proofs.Store.Recorded
import Polystore.Proofs.Writer.Views

/-!
# What becomes of staged documents

While a watcher writes, the puts that it has staged are those of the keys it keeps
beside them.  A key that was handed to the writer is therefore refused, kept among the
pending or failed ones, or its document has been written; when the last batch is done
only refused, failed and written keys remain.
-/

namespace Polystore

theorem Recorded.keepsWrites {σ : Type} [DocumentStore σ] :
    KeepsWrites (Recorded.store : Recorded σ → σ) where
  put _ _ _ _ := rfl
  commit _ _ := rfl

namespace Watch

/-- Every document is watched under its own key. -/
structure WellKeyed (watch : Watch) : Prop where
  ordered : watch.documents.Sorted
  own : ∀ {key : String} {watched : Watched}, watch.documents.get? key = some watched →
    key = watchKey watched.collection watched.id

end Watch

namespace Session

variable {σ : Type}

/-- The put that a key stands for, if its document can be stored. -/
def stagedPut (session : Session σ) (key : String) : Option Operation :=
  match session.watch.documents.get? key with
  | some watched =>
      match Document.withId watched.id (session.document watched.handle).content with
      | .ok stored => some (.put watched.collection watched.id stored)
      | .error _ => none
  | none => none

/-- The put of a watched document puts its stored form. -/
theorem exists_stored_of_stagedPut {session : Session σ} {key : String} {watched : Watched}
    {operation : Operation} (found : session.watch.documents.get? key = some watched)
    (staged : session.stagedPut key = some operation) :
    ∃ stored, Document.withId watched.id (session.document watched.handle).content = .ok stored ∧
      operation = .put watched.collection watched.id stored := by
  rw [stagedPut, found] at staged
  dsimp only at staged
  split at staged
  · next stored form =>
    cases staged
    exact ⟨stored, form, rfl⟩
  · contradiction

/-- What a key puts is the stored form of a watched document. -/
theorem exists_watched_of_stagedPut {session : Session σ} {key : String} {operation : Operation}
    (staged : session.stagedPut key = some operation) :
    ∃ watched stored, session.watch.documents.get? key = some watched ∧
      Document.withId watched.id (session.document watched.handle).content = .ok stored ∧
      operation = .put watched.collection watched.id stored := by
  cases found : session.watch.documents.get? key with
  | none =>
      rw [stagedPut, found] at staged
      contradiction
  | some watched =>
      obtain ⟨stored, form, put⟩ := exists_stored_of_stagedPut found staged
      exact ⟨watched, stored, rfl, form, put⟩

/-- A key puts its own document. -/
theorem key_of_stagedPut {session : Session σ} (keyed : session.watch.WellKeyed) {key : String}
    {operation : Operation} (staged : session.stagedPut key = some operation) :
    ∃ collection id stored, operation = .put collection id stored ∧
      key = watchKey collection id := by
  obtain ⟨watched, stored, found, -, put⟩ := exists_watched_of_stagedPut staged
  exact ⟨_, _, _, put, keyed.own found⟩

/-- The puts of other keys leave the document of a key alone. -/
theorem effects_of_not_mem {session : Session σ} (keyed : session.watch.WellKeyed)
    {collection id : String} {keys : List String} (absent : watchKey collection id ∉ keys)
    (found : Option Json) :
    Operation.effects (keys.filterMap session.stagedPut) collection id found = found := by
  apply Operation.effects_of_idle
  intro operation listed
  obtain ⟨key, member, staged⟩ := List.mem_filterMap.mp listed
  obtain ⟨changed, name, stored, rfl, rfl⟩ := key_of_stagedPut keyed staged
  apply if_neg
  rintro ⟨rfl, rfl⟩
  exact absent member

/-- Of different keys each one's document ends as it was put. -/
theorem effects_of_mem {session : Session σ} (keyed : session.watch.WellKeyed)
    {collection id : String} {stored : Json} {keys : List String} (once : keys.Nodup)
    (member : watchKey collection id ∈ keys)
    (staged : session.stagedPut (watchKey collection id) = some (.put collection id stored))
    (found : Option Json) :
    Operation.effects (keys.filterMap session.stagedPut) collection id found = some stored := by
  induction keys generalizing found with
  | nil => contradiction
  | cons key rest ih =>
      obtain ⟨absent, restOnce⟩ := List.nodup_cons.mp once
      rw [List.filterMap_cons]
      rcases List.mem_cons.mp member with rfl | later
      · rw [staged]
        dsimp only
        rw [Operation.effects_cons, effects_of_not_mem keyed absent]
        exact if_pos ⟨rfl, rfl⟩
      · cases session.stagedPut key with
        | none => exact ih restOnce later found
        | some operation => exact ih restOnce later _

/-! ## Batches -/

/-- The puts staged by a writer are those of its pending keys. -/
structure Ready (session : Session σ) (writer : BatchWriter String) : Prop where
  active : writer.transaction.status = .active
  operations : writer.transaction.operations = writer.pending.filterMap session.stagedPut
  staged : ∀ key ∈ writer.pending, session.stagedPut key ≠ none
  once : writer.pending.Nodup

/-- Which puts keys stand for does not depend on the store. -/
theorem ready_withStore {session : Session σ} {state : σ} {writer : BatchWriter String} :
    ({ session with store := state } : Session σ).Ready writer ↔ session.Ready writer := by
  constructor
  · rintro ⟨active, operations, staged, once⟩
    exact ⟨active, operations, staged, once⟩
  · rintro ⟨active, operations, staged, once⟩
    exact ⟨active, operations, staged, once⟩

theorem Ready.operations_ne_nil {session : Session σ} {writer : BatchWriter String}
    (ready : session.Ready writer) (some : writer.pending ≠ []) :
    writer.transaction.operations ≠ [] := by
  obtain ⟨key, rest, pending⟩ := List.exists_cons_of_ne_nil some
  obtain ⟨operation, staged⟩ := Option.ne_none_iff_exists'.mp
    (ready.staged key (pending ▸ List.mem_cons_self))
  rw [ready.operations, pending, List.filterMap_cons_some staged]
  exact List.cons_ne_nil _ _

/-- A document that was handed to a writer is kept by it, or has been written. -/
def Tracked (writer : BatchWriter String) (state : Recorded ClusterStore)
    (collection id : String) (stored : Json) : Prop :=
  watchKey collection id ∈ writer.failed ∨ watchKey collection id ∈ writer.pending ∨
    state.Wrote collection id stored

/-- A writer goes on without losing documents. -/
structure Continues (session : Session (Recorded ClusterStore)) (writer : BatchWriter String)
    (state : Recorded ClusterStore) (later : BatchWriter String)
    (after : Recorded ClusterStore) : Prop where
  segments : after.cluster.segments = state.cluster.segments
  tracked : ∀ {collection id : String} {stored : Json},
    session.stagedPut (watchKey collection id) = some (.put collection id stored) →
    Tracked writer state collection id stored → Tracked later after collection id stored

theorem Continues.refl (session : Session (Recorded ClusterStore)) (writer : BatchWriter String)
    (state : Recorded ClusterStore) : Continues session writer state writer state where
  segments := rfl
  tracked _ tracked := tracked

/-- A transaction of some operations commits them or fails. -/
theorem commit_target [DocumentStore σ] (session : Session σ) {transaction : Transaction}
    (active : transaction.status = .active) (some : transaction.operations ≠ []) :
    let (result, state) := DocumentStore.commit transaction.operations session.store
    (transaction.commit (target quiet).commit session).1 = result ∧
      (transaction.commit (target quiet).commit session).2.2 = { session with store := state } := by
  exact Transaction.commit_of_active (target quiet).commit active some session

/-- A flush commits the puts of the pending keys in one transaction. -/
theorem flush_of_ready [DocumentStore σ] {session : Session σ} {writer : BatchWriter String}
    (ready : session.Ready writer) (some : writer.pending ≠ []) {result : Except Error Unit}
    {state : σ}
    (committed : DocumentStore.commit writer.transaction.operations session.store =
      (result, state)) :
    writer.flush (target quiet) session =
      (writer.settle result, { session with store := state }) := by
  have handed := commit_target session ready.active (ready.operations_ne_nil some)
  rw [committed] at handed
  rw [BatchWriter.flush, if_neg (by simpa using some)]
  dsimp only
  rw [handed.1, handed.2]
  rfl

/-- The documents of a committed batch are written, and documents written before stay. -/
theorem wrote_of_commit {session : Session (Recorded ClusterStore)}
    {state : Recorded ClusterStore} (keyed : session.watch.WellKeyed) {keys : List String}
    (once : keys.Nodup) (nonempty : session.store.cluster.segments ≠ [])
    (recorded : state.operations =
      session.store.operations ++ keys.filterMap session.stagedPut)
    (performs : Cluster.Performs (keys.filterMap session.stagedPut) session.store.cluster
      state.cluster)
    {collection id : String} {stored : Json}
    (staged : session.stagedPut (watchKey collection id) = some (.put collection id stored))
    (reached : watchKey collection id ∈ keys ∨ session.store.Wrote collection id stored) :
    state.Wrote collection id stored := by
  by_cases member : watchKey collection id ∈ keys
  · constructor
    · rw [recorded]
      exact List.mem_append_right _ (List.mem_filterMap.mpr ⟨_, member, staged⟩)
    · rw [performs.document? nonempty, effects_of_mem keyed once member staged]
  · have before := reached.resolve_left member
    constructor
    · rw [recorded]
      exact List.mem_append_left _ before.recorded
    · rw [performs.document? nonempty, effects_of_not_mem keyed member, before.held]

theorem ready_settle (session : Session σ) (writer : BatchWriter String)
    (result : Except Error Unit) :
    session.Ready (writer.settle result) ∧ (writer.settle result).pending = [] := by
  cases result with
  | ok _ => exact ⟨⟨rfl, rfl, fun _ member => absurd member List.not_mem_nil, List.nodup_nil⟩, rfl⟩
  | error _ =>
      exact ⟨⟨rfl, rfl, fun _ member => absurd member List.not_mem_nil, List.nodup_nil⟩, rfl⟩

/-- After a flush nothing is pending, and no document is lost. -/
theorem exists_flush (session : Session (Recorded ClusterStore)) {writer : BatchWriter String}
    (keyed : session.watch.WellKeyed) (distinct : session.store.cluster.segments.Nodup)
    (ready : session.Ready writer) :
    ∃ later state, writer.flush (target quiet) session = (later, { session with store := state }) ∧
      later.pending = [] ∧ session.Ready later ∧
      Continues session writer session.store later state := by
  by_cases none : writer.pending = []
  · refine ⟨writer, session.store, ?_, none, ready, .refl _ _ _⟩
    rw [BatchWriter.flush, none]
    rfl
  · obtain ⟨result, state, committed⟩ : ∃ result state,
        DocumentStore.commit writer.transaction.operations session.store = (result, state) :=
      ⟨_, _, rfl⟩
    obtain ⟨fresh, empty⟩ := ready_settle session writer result
    refine ⟨writer.settle result, state, flush_of_ready ready none committed, empty, fresh, ?_⟩
    · rcases Recorded.commit_cases distinct committed with
        ⟨rfl, nonempty, recorded, performs⟩ | ⟨cause, rfl, recorded, same⟩
      · rw [ready.operations] at recorded performs
        constructor
        · exact performs.segments
        · rintro collection id stored staged (failed | reached)
          · exact Or.inl failed
          · exact Or.inr (Or.inr
              (wrote_of_commit keyed ready.once nonempty recorded performs staged reached))
      · constructor
        · exact congrArg Cluster.segments same
        · rintro collection id stored - (failed | pending | wrote)
          · exact Or.inl (List.mem_append_left _ failed)
          · exact Or.inl (List.mem_append_right _ pending)
          · exact Or.inr (Or.inr ⟨recorded ▸ wrote.recorded, same ▸ wrote.held⟩)

/-! ## Staging -/

/-- A document that cannot be stored leaves no trace in the writer. -/
theorem add_of_stagedPut_eq_none [DocumentStore σ] (session : Session σ)
    {writer : BatchWriter String} (ready : session.Ready writer) {key : String}
    {watched : Watched} (found : session.watch.documents.get? key = some watched)
    (refused : session.stagedPut key = none) :
    ∃ cause, writer.add (target quiet) key watched.collection watched.id
      (session.document watched.handle).content session = (.error cause, writer, session) := by
  rw [stagedPut, found] at refused
  dsimp only at refused
  split at refused
  · contradiction
  · next cause form =>
    refine ⟨cause, ?_⟩
    rw [BatchWriter.add, Transaction.put, ready.active, form]

/-- The writer after a document was staged, before its batch is looked at. -/
def stagedWriter (writer : BatchWriter String) (key : String) (operation : Operation) :
    BatchWriter String :=
  { writer with
    transaction := { writer.transaction with
      operations := writer.transaction.operations ++ [operation] }
    pending := writer.pending ++ [key]
    report := { writer.report with staged := writer.report.staged + 1 } }

theorem Ready.stagedWriter {session : Session σ} {writer : BatchWriter String}
    (ready : session.Ready writer) {key : String} {operation : Operation}
    (fresh : key ∉ writer.pending) (staged : session.stagedPut key = some operation) :
    session.Ready (stagedWriter writer key operation) where
  active := ready.active
  operations := by
    rw [Session.stagedWriter, List.filterMap_append, ← ready.operations,
      List.filterMap_cons_some staged, List.filterMap_nil]
  staged other member := by
    rcases List.mem_append.mp member with old | new
    · exact ready.staged other old
    · rw [List.mem_singleton.mp new, staged]
      exact Option.some_ne_none operation
  once := by
    refine List.nodup_append.mpr ⟨ready.once, List.pairwise_singleton _ _, ?_⟩
    rintro old oldMember new newMember rfl
    exact fresh (List.mem_singleton.mp newMember ▸ oldMember)

/-- A document that can be stored is staged. -/
theorem put_of_stagedPut {session : Session σ} {writer : BatchWriter String}
    (ready : session.Ready writer) {key : String} {watched : Watched} {operation : Operation}
    (found : session.watch.documents.get? key = some watched)
    (staged : session.stagedPut key = some operation) :
    writer.transaction.put watched.collection watched.id (session.document watched.handle).content =
      (.ok (), (stagedWriter writer key operation).transaction) := by
  rcases exists_stored_of_stagedPut found staged with ⟨stored, form, rfl⟩
  rw [Transaction.put, ready.active, form]
  simp only [Transaction.stage, Session.stagedWriter, ready.active]

/-- A document that can be stored is kept by the writer or written. -/
theorem exists_add (session : Session (Recorded ClusterStore)) {writer : BatchWriter String}
    (keyed : session.watch.WellKeyed) (distinct : session.store.cluster.segments.Nodup)
    (ready : session.Ready writer) {key : String} {watched : Watched} {operation : Operation}
    (found : session.watch.documents.get? key = some watched)
    (staged : session.stagedPut key = some operation) (fresh : key ∉ writer.pending) :
    ∃ later state, writer.add (target quiet) key watched.collection watched.id
        (session.document watched.handle).content session =
          (.ok (), later, { session with store := state }) ∧
      session.Ready later ∧
      (∀ other ∈ later.pending, other ∈ writer.pending ∨ other = key) ∧
      Continues session (stagedWriter writer key operation) session.store later state := by
  have accepted := put_of_stagedPut ready found staged
  have stagedReady := ready.stagedWriter fresh staged
  by_cases full : writer.batchSize ≤ (stagedWriter writer key operation).pending.length
  · obtain ⟨later, state, flushed, empty, laterReady, continues⟩ :=
      exists_flush session keyed distinct stagedReady
    refine ⟨later, state, ?_, laterReady, ?_, continues⟩
    · rw [BatchWriter.add, accepted]
      dsimp only
      rw [← flushed]
      exact if_pos full
    · intro other member
      rw [empty] at member
      contradiction
  · refine ⟨stagedWriter writer key operation, session.store, ?_, stagedReady, ?_, .refl _ _ _⟩
    · rw [BatchWriter.add, accepted]
      exact if_neg full
    · intro other member
      rcases List.mem_append.mp member with old | new
      · exact Or.inl old
      · exact Or.inr (List.mem_singleton.mp new)

/-- Every watched document that is handed to a writer is refused, kept or written. -/
theorem exists_stageAll {session : Session (Recorded ClusterStore)}
    (keyed : session.watch.WellKeyed) {keys : List String} (once : keys.Nodup)
    (known : ∀ key ∈ keys, ∃ watched, session.watch.documents.get? key = some watched)
    {writer : BatchWriter String} (state : Recorded ClusterStore)
    (distinct : state.cluster.segments.Nodup) (ready : session.Ready writer)
    (fresh : ∀ key ∈ keys, key ∉ writer.pending) :
    ∃ refused later after,
      stageAll quiet keys writer { session with store := state } =
        (refused, later, { session with store := after }) ∧
      session.Ready later ∧ Continues session writer state later after ∧
      (∀ key ∈ keys, session.stagedPut key = none → key ∈ refused) ∧
      ∀ {collection id : String} {stored : Json}, watchKey collection id ∈ keys →
        session.stagedPut (watchKey collection id) = some (.put collection id stored) →
        Tracked later after collection id stored := by
  induction keys generalizing writer state with
  | nil =>
      refine ⟨[], writer, state, rfl, ready, .refl _ _ _, ?_, ?_⟩
      · intro key member
        contradiction
      · intro collection id stored member
        contradiction
  | cons key rest ih =>
      obtain ⟨absent, restOnce⟩ := List.nodup_cons.mp once
      have restKnown : ∀ other ∈ rest, ∃ watched,
          session.watch.documents.get? other = some watched :=
        fun other member => known other (List.mem_cons_of_mem _ member)
      have restFresh : ∀ other ∈ rest, other ∉ writer.pending :=
        fun other member => fresh other (List.mem_cons_of_mem _ member)
      obtain ⟨watched, found⟩ := known key List.mem_cons_self
      let here : Session (Recorded ClusterStore) := { session with store := state }
      rw [stageAll, show ({ session with store := state } : Session _).watch = session.watch from rfl,
        found]
      dsimp only
      cases staged : session.stagedPut key with
      | none =>
          obtain ⟨cause, added⟩ := add_of_stagedPut_eq_none here
            (ready_withStore.mpr ready) found staged
          obtain ⟨refused, later, after, stagedRest, laterReady, continues, rejects, tracks⟩ :=
            ih restOnce restKnown state distinct ready restFresh
          refine ⟨key :: refused, later, after, ?_, laterReady, continues, ?_, ?_⟩
          · rw [show writer.add (target quiet) key watched.collection watched.id
              (Session.document { session with store := state } watched.handle).content
              { session with store := state } = _ from added]
            dsimp only
            rw [show stageAll quiet rest writer here = _ from stagedRest]
          · intro other member unstored
            rcases List.mem_cons.mp member with rfl | member
            · exact List.mem_cons_self
            · exact List.mem_cons_of_mem _ (rejects other member unstored)
          · intro collection id stored member put
            rcases List.mem_cons.mp member with rfl | member
            · rw [staged] at put
              contradiction
            · exact tracks member put
      | some operation =>
          obtain ⟨middle, between, added, middleReady, pending, continues⟩ :=
            exists_add here keyed distinct (ready_withStore.mpr ready) found staged
              (fresh key List.mem_cons_self)
          have middleFresh : ∀ other ∈ rest, other ∉ middle.pending := by
            intro other member held
            rcases pending other held with old | rfl
            · exact restFresh other member old
            · exact absent member
          have middleDistinct : between.cluster.segments.Nodup :=
            continues.segments.symm ▸ distinct
          obtain ⟨refused, later, after, stagedRest, laterReady, further, rejects, tracks⟩ :=
            ih restOnce restKnown between middleDistinct (ready_withStore.mp middleReady) middleFresh
          refine ⟨refused, later, after, ?_, laterReady, ?_, ?_, ?_⟩
          · rw [show writer.add (target quiet) key watched.collection watched.id
              (Session.document { session with store := state } watched.handle).content
              { session with store := state } = _ from added]
            dsimp only
            rw [show stageAll quiet rest middle { session with store := between } = _ from
              stagedRest]
          · constructor
            · exact further.segments.trans continues.segments
            · intro collection id stored put tracked
              refine further.tracked put (continues.tracked put ?_)
              rcases tracked with failed | pending | wrote
              · exact Or.inl failed
              · exact Or.inr (Or.inl (List.mem_append_left _ pending))
              · exact Or.inr (Or.inr wrote)
          · intro other member unstored
            rcases List.mem_cons.mp member with rfl | member
            · rw [staged] at unstored
              contradiction
            · exact rejects other member unstored
          · intro collection id stored member put
            rcases List.mem_cons.mp member with rfl | member
            · refine further.tracked put (continues.tracked put ?_)
              exact Or.inr (Or.inl (List.mem_append_right _ List.mem_cons_self))
            · exact tracks member put

/-- Every document that is written out is reported as unwritten or has been written. -/
theorem exists_writeOut {session : Session (Recorded ClusterStore)}
    (keyed : session.watch.WellKeyed) (distinct : session.store.cluster.segments.Nodup)
    {keys : List String} (once : keys.Nodup)
    (known : ∀ key ∈ keys, ∃ watched, session.watch.documents.get? key = some watched) :
    ∃ report unwritten after,
      session.writeOut keys = ((report, unwritten), { session with store := after }) ∧
      after.cluster.segments = session.store.cluster.segments ∧
      (∀ key ∈ keys, session.stagedPut key = none → key ∈ unwritten) ∧
      ∀ {collection id : String} {stored : Json}, watchKey collection id ∈ keys →
        session.stagedPut (watchKey collection id) = some (.put collection id stored) →
        watchKey collection id ∈ unwritten ∨ after.Wrote collection id stored := by
  let writer : BatchWriter String := .empty session.watch.settings.batchSize
  have started : session.Ready writer :=
    ⟨rfl, rfl, fun _ member => absurd member List.not_mem_nil, List.nodup_nil⟩
  obtain ⟨refused, later, between, staged, laterReady, continues, rejects, tracks⟩ :=
    exists_stageAll keyed once known session.store distinct started
      fun _ _ => List.not_mem_nil
  have betweenDistinct : between.cluster.segments.Nodup := continues.segments.symm ▸ distinct
  obtain ⟨last, after, flushed, empty, -, further⟩ :=
    exists_flush { session with store := between } keyed betweenDistinct
      (ready_withStore.mpr laterReady)
  refine ⟨{ last.report with failed := last.report.failed + refused.length },
    last.failed ++ refused, after, ?_, further.segments.trans continues.segments, ?_, ?_⟩
  · rw [writeOut]
    dsimp only
    rw [show stageAll quiet keys writer session = _ from staged]
    dsimp only [BatchWriter.finish]
    rw [flushed]
  · intro key member unstored
    exact List.mem_append_right _ (rejects key member unstored)
  · intro collection id stored member put
    rcases further.tracked put (tracks member put) with failed | pending | wrote
    · exact Or.inl (List.mem_append_left _ failed)
    · rw [empty] at pending
      contradiction
    · exact Or.inr wrote

end Session

end Polystore
