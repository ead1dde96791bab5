import Polystore.Proofs.Writer.Durability

/-!
# Batches of a sweep

A sweep stages the documents that have a stored form, in the order of their keys, and commits
them whenever so many are staged and once more at the end.  So it cuts these keys into batches
and commits one transaction for each; a batch is counted whole, and what becomes of it depends
on its own documents and on the store.
-/

namespace Polystore

namespace BatchWriter

variable {κ : Type}

/-- Keys in batches of a size, the first of which begins with the keys that are pending. -/
def batches (size : Nat) : (pending : List κ) → List κ → List (List κ)
  | pending, [] => if pending.isEmpty then [] else [pending]
  | pending, key :: rest =>
      if size ≤ pending.length + 1 then (pending ++ [key]) :: batches size [] rest
      else batches size (pending ++ [key]) rest

theorem flatten_batches (size : Nat) (pending keys : List κ) :
    (batches size pending keys).flatten = pending ++ keys := by
  induction keys generalizing pending with
  | nil =>
      rw [batches, List.append_nil]
      split
      · next none => rw [List.isEmpty_iff.mp none, List.flatten_nil]
      · rw [List.flatten_singleton]
  | cons key rest ih =>
      rw [batches]
      split
      · rw [List.flatten_cons, ih, List.nil_append, List.append_assoc]
        rfl
      · rw [ih, List.append_assoc]
        rfl

/-- A batch takes as many keys as its size allows. -/
theorem batches_eq_cons {size : Nat} {pending keys : List κ} (short : pending.length < size)
    (some : pending ++ keys ≠ []) :
    batches size pending keys =
      (pending ++ keys).take size :: batches size [] ((pending ++ keys).drop size) := by
  induction keys generalizing pending with
  | nil =>
      rw [List.append_nil] at some ⊢
      rw [batches, if_neg (by simpa using some), List.take_of_length_le (Nat.le_of_lt short),
        List.drop_eq_nil_of_le (Nat.le_of_lt short)]
      rfl
  | cons key rest ih =>
      have next : pending ++ key :: rest = (pending ++ [key]) ++ rest := List.append_cons _ _ _
      have length : (pending ++ [key]).length = pending.length + 1 := List.length_append
      rw [batches]
      split
      · next full =>
        have exact : (pending ++ [key]).length = size := length.trans (Nat.le_antisymm short full)
        rw [next, List.take_left' exact, List.drop_left' exact]
      · next more =>
        rw [next]
        apply ih
        · rw [length]
          exact Nat.lt_of_not_le more
        · exact next ▸ some

/-- The batches are the keys cut after every so many. -/
theorem getElem?_batches {size : Nat} (positive : 0 < size) (keys : List κ) (index : Nat) :
    (batches size [] keys)[index]? =
      if index * size < keys.length then some ((keys.drop (index * size)).take size)
      else none := by
  -- Every batch but the first is one of the keys that come after the first.
  induction index generalizing keys with
  | zero =>
      cases keys with
      | nil => simp [batches]
      | cons key rest =>
          have cut : batches size [] (key :: rest) = _ :: _ :=
            batches_eq_cons positive (List.cons_ne_nil key rest)
          simp [cut]
  | succ index ih =>
      cases keys with
      | nil => simp [batches]
      | cons key rest =>
          have cut : batches size [] (key :: rest) = _ :: _ :=
            batches_eq_cons positive (List.cons_ne_nil key rest)
          have next : (index + 1) * size = size + index * size := by
            rw [Nat.succ_mul, Nat.add_comm]
          have later : size + index * size < (key :: rest).length ↔
              index * size < ((key :: rest).drop size).length := by
            rw [List.length_drop]
            omega
          rw [cut, List.getElem?_cons_succ, List.nil_append, ih, List.drop_drop, next]
          simp only [later]

end BatchWriter

namespace Durability

variable {α : Type}

/-- What is tried once more of what was not written. -/
def retried : Durability → (unwritten : List α) → List α
  | atMostOnce, _ => []
  | atLeastOnce, unwritten => unwritten

theorem retried_nil (durability : Durability) : durability.retried ([] : List α) = [] := by
  cases durability <;> rfl

theorem mem_retried_iff {durability : Durability} {unwritten : List α} {item : α} :
    item ∈ durability.retried unwritten ↔ durability = .atLeastOnce ∧ item ∈ unwritten := by
  cases durability with
  | atMostOnce => simp [retried]
  | atLeastOnce => simp [retried]

end Durability

variable {σ : Type} {session : Session σ}

namespace Session

/-- Whether the document of a key can be staged. -/
def isStageable (session : Session σ) (key : String) : Bool :=
  (session.stagedPut key).isSome

/-- The batches in which keys are written out: those of the documents that can be staged, in
order. -/
def batchesOf (session : Session σ) (keys : List String) : List (List String) :=
  BatchWriter.batches (max session.watch.settings.batchSize 1) [] (keys.filter session.isStageable)

variable [DocumentStore σ]

/-- Commit batches of keys one after the other: the keys of those that were committed, the keys
of those that were not, and the store. -/
def commitBatches (session : Session σ) :
    List (List String) → σ → (List String × List String) × σ
  | [], state => (([], []), state)
  | batch :: rest, state =>
      let (result, state) := DocumentStore.commit (batch.filterMap session.stagedPut) state
      let ((committed, failed), state) := session.commitBatches rest state
      match result with
      | .ok () => ((batch ++ committed, failed), state)
      | .error _ => ((committed, batch ++ failed), state)

/-- Every key of a batch is committed or fails. -/
theorem commitBatches_perm (session : Session σ) (batches : List (List String)) (state : σ) :
    ((session.commitBatches batches state).1.1 ++
      (session.commitBatches batches state).1.2).Perm batches.flatten := by
  induction batches generalizing state with
  | nil => exact .refl _
  | cons batch rest ih =>
      rw [commitBatches, List.flatten_cons]
      have later := ih (DocumentStore.commit (batch.filterMap session.stagedPut) state).2
      generalize DocumentStore.commit (batch.filterMap session.stagedPut) state = outcome
        at later ⊢
      rcases outcome with ⟨cause | done, between⟩
      · exact (List.perm_append_comm_assoc _ _ _).trans (later.append_left batch)
      · dsimp only
        rw [List.append_assoc]
        exact later.append_left batch

/-- A key that occurs once is not both committed and failed. -/
theorem not_mem_failed_of_mem_committed (session : Session σ) {batches : List (List String)}
    (once : batches.flatten.Nodup) (state : σ) :
    ∀ key ∈ (session.commitBatches batches state).1.1,
      key ∉ (session.commitBatches batches state).1.2 := by
  have apart := (session.commitBatches_perm batches state).nodup_iff.mpr once
  intro key member failed
  exact (List.nodup_append.mp apart).2.2 key member key failed rfl

/-- Of some keys each one is committed, fails with its batch or cannot be staged. -/
theorem outcomes_perm (session : Session σ) (keys : List String) (state : σ) :
    let wrote := session.commitBatches (session.batchesOf keys) state
    (wrote.1.1 ++ (wrote.1.2 ++ keys.filter fun key => !session.isStageable key)).Perm keys := by
  intro wrote
  have cut : (wrote.1.1 ++ wrote.1.2).Perm (keys.filter session.isStageable) := by
    have perm := session.commitBatches_perm (session.batchesOf keys) state
    rwa [batchesOf, BatchWriter.flatten_batches, List.nil_append] at perm
  rw [← List.append_assoc]
  exact (cut.append_right _).trans (List.filter_append_perm _ keys)

/-- Of different keys those that were not written are those that were not committed. -/
theorem mem_unwritten_iff {session : Session σ} {keys : List String} (once : keys.Nodup)
    {key : String} (member : key ∈ keys) (state : σ) :
    let wrote := session.commitBatches (session.batchesOf keys) state
    (key ∈ wrote.1.2 ++ keys.filter fun key => !session.isStageable key) ↔ key ∉ wrote.1.1 := by
  intro wrote
  have perm := session.outcomes_perm keys state
  have apart := List.nodup_append.mp (perm.nodup_iff.mpr once)
  constructor
  · intro unwritten committed
    exact apart.2.2 key committed key unwritten rfl
  · intro uncommitted
    exact (List.mem_append.mp (perm.mem_iff.mpr member)).resolve_left uncommitted

/-- A writer that has gone from some state through batches of keys. -/
structure WentThrough (session : Session σ) (batches : List (List String))
    (writer : BatchWriter String) (state : σ) (last : BatchWriter String) (final : σ) : Prop where
  failed : last.failed = writer.failed ++ (session.commitBatches batches state).1.2
  committed : last.report.committed =
    writer.report.committed + (session.commitBatches batches state).1.1.length
  failures : last.report.failed =
    writer.report.failed + (session.commitBatches batches state).1.2.length
  store : final = (session.commitBatches batches state).2

theorem wentThrough_nil (session : Session σ) (writer : BatchWriter String) (state : σ) :
    session.WentThrough [] writer state writer state where
  failed := (List.append_nil _).symm
  committed := rfl
  failures := rfl
  store := rfl

/-- A batch that is flushed is the first of those that a writer goes through. -/
theorem wentThrough_cons {writer last : BatchWriter String} {rest : List (List String)}
    {state between final : σ} {result : Except Error Unit}
    (committed : DocumentStore.commit (writer.pending.filterMap session.stagedPut) state =
      (result, between))
    (later : session.WentThrough rest (writer.settle result) between last final) :
    session.WentThrough (writer.pending :: rest) writer state last final := by
  rcases later with ⟨failed, counted, failures, store⟩
  cases result with
  | ok done =>
      constructor
      · rw [failed, commitBatches, committed]
        rfl
      · rw [counted, commitBatches, committed]
        simp only [BatchWriter.settle, List.length_append, Nat.add_assoc]
      · rw [failures, commitBatches, committed]
        rfl
      · rw [store, commitBatches, committed]
  | error cause =>
      constructor
      · rw [failed, commitBatches, committed]
        simp only [BatchWriter.settle, List.append_assoc]
      · rw [counted, commitBatches, committed]
        rfl
      · rw [failures, commitBatches, committed]
        simp only [BatchWriter.settle, List.length_append, Nat.add_assoc]
      · rw [store, commitBatches, committed]

/-- What was staged stays counted, whatever becomes of the batch. -/
theorem staged_settle (writer : BatchWriter String) (result : Except Error Unit) :
    (writer.settle result).report.staged = writer.report.staged := by
  cases result <;> rfl

/-- A document that cannot be staged is refused, and the next key is staged. -/
theorem stageAll_of_stagedPut_eq_none {writer : BatchWriter String} (ready : session.Ready writer)
    {key : String} {watched : Watched}
    (found : session.watch.documents.get? key = some watched)
    (staged : session.stagedPut key = none) (rest : List String) :
    stageAll quiet (key :: rest) writer session =
      (key :: (stageAll quiet rest writer session).1, (stageAll quiet rest writer session).2) := by
  rcases add_of_stagedPut_eq_none session ready found staged with ⟨cause, added⟩
  rw [stageAll, found]
  dsimp only
  rw [added]

/-- A document that can be staged is staged, and its batch is flushed if it is full. -/
theorem stageAll_of_stagedPut {writer : BatchWriter String} (ready : session.Ready writer)
    {key : String} {watched : Watched} {operation : Operation}
    (found : session.watch.documents.get? key = some watched)
    (staged : session.stagedPut key = some operation) (rest : List String) :
    stageAll quiet (key :: rest) writer session =
      let (writer, session) :=
        if writer.batchSize ≤ writer.pending.length + 1 then
          (stagedWriter writer key operation).flush (target quiet) session
        else (stagedWriter writer key operation, session)
      stageAll quiet rest writer session := by
  have length : (stagedWriter writer key operation).pending.length = writer.pending.length + 1 :=
    List.length_append
  have added : writer.add (target quiet) key watched.collection watched.id
      (session.document watched.handle).content session =
        (.ok (), if writer.batchSize ≤ writer.pending.length + 1 then
          (stagedWriter writer key operation).flush (target quiet) session
        else (stagedWriter writer key operation, session)) := by
    rw [BatchWriter.add, put_of_stagedPut ready found staged, ← length]
    dsimp only
    by_cases full : writer.batchSize ≤ (stagedWriter writer key operation).pending.length
    · rw [if_pos full]
      exact if_pos full
    · rw [if_neg full]
      exact if_neg full
  rw [stageAll, found]
  dsimp only
  rw [added]

/-- Staging keys and flushing the rest refuses the documents that cannot be staged, and counts
and goes through batches of the others. -/
theorem exists_drain {keys : List String} (once : keys.Nodup)
    (known : ∀ key ∈ keys, ∃ watched, session.watch.documents.get? key = some watched)
    {writer : BatchWriter String} (state : σ) (ready : session.Ready writer)
    (fresh : ∀ key ∈ keys, key ∉ writer.pending) :
    ∃ refused later after last final,
      stageAll quiet keys writer { session with store := state } = (refused, later, after) ∧
      later.flush (target quiet) after = (last, { session with store := final }) ∧
      refused = (keys.filter fun key => !session.isStageable key) ∧
      last.report.staged = writer.report.staged + (keys.filter session.isStageable).length ∧
      session.WentThrough (BatchWriter.batches writer.batchSize writer.pending
        (keys.filter session.isStageable)) writer state last final := by
  induction keys generalizing writer state with
  | nil =>
      have here : ({ session with store := state } : Session σ).Ready writer :=
        ready_withStore.mpr ready
      by_cases none : writer.pending = []
      · refine ⟨_, _, _, writer, state, rfl, ?_, rfl, rfl, ?_⟩
        · rw [BatchWriter.flush, none]
          rfl
        · rw [none]
          exact wentThrough_nil session writer state
      · obtain ⟨result, between, committed⟩ : ∃ result between,
            DocumentStore.commit writer.transaction.operations state = (result, between) :=
          ⟨_, _, rfl⟩
        refine ⟨_, _, _, _, between, rfl, flush_of_ready here none committed, rfl,
          staged_settle writer result, ?_⟩
        rw [ready.operations] at committed
        have single : BatchWriter.batches writer.batchSize writer.pending
            (List.filter session.isStageable []) = [writer.pending] :=
          if_neg (by simpa using none)
        rw [single]
        exact wentThrough_cons committed (wentThrough_nil session _ between)
  | cons key rest ih =>
      rw [List.nodup_cons] at once
      rw [List.forall_mem_cons] at known fresh
      rcases known.1 with ⟨watched, found⟩
      have here : ({ session with store := state } : Session σ).Ready writer :=
        ready_withStore.mpr ready
      cases staged : session.stagedPut key with
      | none =>
          have unfit : session.isStageable key = false := by
            rw [isStageable, staged]
            rfl
          rcases ih once.2 known.2 state ready fresh.2 with
            ⟨refused, later, after, last, final, drained, flushed, rejected, counted, went⟩
          rw [List.filter_cons_of_pos (by simp [unfit]), List.filter_cons_of_neg (by simp [unfit])]
          refine ⟨key :: refused, later, after, last, final, ?_, flushed, ?_, counted, went⟩
          · rw [stageAll_of_stagedPut_eq_none here found staged, drained]
          · rw [rejected]
      | some operation =>
          have fit : session.isStageable key = true := by
            rw [isStageable, staged]
            rfl
          have stagedReady := ready.stagedWriter fresh.1 staged
          rw [List.filter_cons_of_pos fit, List.filter_cons_of_neg (by simp [fit]),
            BatchWriter.batches]
          by_cases full : writer.batchSize ≤ writer.pending.length + 1
          · obtain ⟨result, between, committed⟩ : ∃ result between, DocumentStore.commit
                (stagedWriter writer key operation).transaction.operations state =
                  (result, between) := ⟨_, _, rfl⟩
            have filled : (stagedWriter writer key operation).pending ≠ [] :=
              List.append_ne_nil_of_right_ne_nil _ (List.cons_ne_nil key [])
            have emptied := flush_of_ready
              (ready_withStore.mpr stagedReady :
                ({ session with store := state } : Session σ).Ready _)
              filled committed
            rcases ready_settle session (stagedWriter writer key operation) result with
              ⟨settled, nothing⟩
            have size : ((stagedWriter writer key operation).settle result).batchSize =
                writer.batchSize := by
              cases result <;> rfl
            rcases ih once.2 known.2 between settled
              (fun _ _ => by rw [nothing]; exact List.not_mem_nil) with
              ⟨refused, later, after, last, final, drained, flushed, rejected, counted, went⟩
            rw [nothing, size] at went
            rw [stagedReady.operations] at committed
            have through := wentThrough_cons committed went
            refine ⟨refused, later, after, last, final, ?_, flushed, rejected, ?_, ?_⟩
            · rw [stageAll_of_stagedPut here found staged, if_pos full, emptied]
              exact drained
            · rw [counted, staged_settle]
              exact Nat.succ_add_eq_add_succ _ _
            · rw [if_pos full]
              exact ⟨through.failed, through.committed, through.failures, through.store⟩
          · have restFresh : ∀ other ∈ rest,
                other ∉ (stagedWriter writer key operation).pending := by
              intro other member held
              rcases List.mem_append.mp held with old | new
              · exact fresh.2 other member old
              · exact once.1 (List.mem_singleton.mp new ▸ member)
            rcases ih once.2 known.2 state stagedReady restFresh with
              ⟨refused, later, after, last, final, drained, flushed, rejected, counted, went⟩
            refine ⟨refused, later, after, last, final, ?_, flushed, rejected, ?_, ?_⟩
            · rw [stageAll_of_stagedPut here found staged, if_neg full]
              exact drained
            · rw [counted]
              exact Nat.succ_add_eq_add_succ _ _
            · rw [if_neg full]
              exact ⟨went.failed, went.committed, went.failures, went.store⟩

/-- Writing keys out refuses the documents that cannot be staged, commits the others in batches
and counts all of them. -/
theorem writeOut_eq_commitBatches {keys : List String} (once : keys.Nodup)
    (known : ∀ key ∈ keys, ∃ watched, session.watch.documents.get? key = some watched) :
    let wrote := session.commitBatches (session.batchesOf keys) session.store
    let refused := keys.filter fun key => !session.isStageable key
    session.writeOut keys =
      (({ staged := (keys.filter session.isStageable).length
          committed := wrote.1.1.length
          failed := wrote.1.2.length + refused.length }, wrote.1.2 ++ refused),
        { session with store := wrote.2 }) := by
  intro wrote refused
  let writer : BatchWriter String := .empty session.watch.settings.batchSize
  have started : session.Ready writer :=
    ⟨rfl, rfl, fun _ member => absurd member List.not_mem_nil, List.nodup_nil⟩
  rcases exists_drain once known session.store started (fun _ _ => List.not_mem_nil) with
    ⟨rejected, later, after, last, final, drained, flushed, same, counted, went⟩
  have report : last.report =
      { staged := (keys.filter session.isStageable).length
        committed := wrote.1.1.length
        failed := wrote.1.2.length } := by
    have staged := counted.trans (Nat.zero_add _)
    have committed := went.committed.trans (Nat.zero_add _)
    have failed := went.failures.trans (Nat.zero_add _)
    rcases last with ⟨_, _, _, _, report⟩
    rcases report with ⟨stagedCount, committedCount, failedCount⟩
    rw [FlushReport.mk.injEq]
    exact ⟨staged, committed, failed⟩
  rw [writeOut]
  dsimp only
  rw [show stageAll quiet keys writer session = _ from drained]
  dsimp only [BatchWriter.finish]
  rw [flushed, went.failed, went.store, report, same]
  rfl

/-! ## Sweeps -/

omit [DocumentStore σ] in
/-- What documents put does not depend on their marks. -/
theorem stagedPut_markedAt (session : Session σ) (deadline : Nat) :
    (session.markedAt deadline).stagedPut = session.stagedPut := by
  funext key
  rw [stagedPut, stagedPut, markedAt, Watch.get?_markClean]
  cases session.watch.documents.get? key with
  | none => rfl
  | some watched =>
      by_cases due : key ∈ (session.watch.due deadline).map Prod.fst
      · rw [Option.map_some, if_pos due]
        rfl
      · rw [Option.map_some, if_neg due]
        rfl

omit [DocumentStore σ] in
theorem isStageable_congr {other : Session σ} (same : other.stagedPut = session.stagedPut) :
    other.isStageable = session.isStageable := by
  funext key
  rw [isStageable, isStageable, same]

/-- What becomes of batches depends on what their documents put. -/
theorem commitBatches_congr {other : Session σ} (same : other.stagedPut = session.stagedPut) :
    other.commitBatches = session.commitBatches := by
  funext batches
  induction batches with
  | nil => rfl
  | cons batch rest ih =>
      funext state
      rw [commitBatches, commitBatches, ih, same]

/-- A sweep cleans the documents that are due, commits them in batches and counts them.  Under
`atLeastOnce` the documents of failed batches are dirty again, and those that could not be
staged.  If anything is due there must be room for the keys of a batch. -/
theorem sweep_eq_commitBatches (sorted : session.watch.documents.Sorted) {now deadline : Nat}
    (time : session.watch.deadline? now = some deadline)
    (ready : session.watch.settings.HasRoom ∨ session.watch.due deadline = []) :
    let keys := (session.watch.due deadline).map Prod.fst
    let wrote := session.commitBatches (session.batchesOf keys) session.store
    let refused := keys.filter fun key => !session.isStageable key
    session.sweep quiet now =
      (.ok { staged := (keys.filter session.isStageable).length
             committed := wrote.1.1.length
             failed := wrote.1.2.length + refused.length },
        { session with
          store := wrote.2
          watch := (session.watch.settings.durability.retried (wrote.1.2 ++ refused)).foldl
            (Watch.markDirtyAt (session.watch.due deadline)) (session.markedAt deadline).watch }) := by
  intro keys wrote refused
  have cleaned : session.watch.Remarks (session.markedAt deadline).watch :=
    Watch.remarks_markClean _ _
  by_cases none : session.watch.due deadline = []
  · have nothing : keys = [] := congrArg (List.map Prod.fst) none
    have idle : wrote = (([], []), session.store) := by
      change session.commitBatches (session.batchesOf keys) session.store = _
      rw [nothing]
      rfl
    have unrefused : refused = [] := by
      change keys.filter _ = []
      rw [nothing, List.filter_nil]
    have unmarked : (session.markedAt deadline).watch = session.watch := by
      change session.watch.markClean keys = session.watch
      rw [nothing]
      rfl
    rw [sweep_of_due_eq_nil time none, idle, unrefused, unmarked, nothing, List.append_nil,
      Durability.retried_nil]
    rfl
  · have staged := stagedPut_markedAt session deadline
    have batches : (session.markedAt deadline).batchesOf keys = session.batchesOf keys := by
      rw [batchesOf, batchesOf, cleaned.settings, isStageable_congr staged]
    have once : keys.Nodup := Keyed.nodup_names (Watch.sorted_due sorted deadline)
    have written := writeOut_eq_commitBatches once (exists_markedAt sorted deadline)
    rw [commitBatches_congr staged, batches, isStageable_congr staged] at written
    rw [sweep_of_hasRoom time none (ready.resolve_right none), writeBack_eq, written]
    dsimp only
    rw [← cleaned.settings]
    cases (session.markedAt deadline).watch.settings.durability with
    | atMostOnce => rfl
    | atLeastOnce => rfl

/-- Documents are dirty again after a sweep only if their batch failed or they could not be
staged. -/
theorem exists_sweep (sorted : session.watch.documents.Sorted) {now deadline : Nat}
    (time : session.watch.deadline? now = some deadline)
    (ready : session.watch.settings.HasRoom ∨ session.watch.due deadline = []) :
    let keys := (session.watch.due deadline).map Prod.fst
    let wrote := session.commitBatches (session.batchesOf keys) session.store
    ∃ report, ∃ again : List String,
      session.sweep quiet now =
        (.ok report, { session with
          store := wrote.2
          watch := again.foldl (Watch.markDirtyAt (session.watch.due deadline))
            (session.markedAt deadline).watch }) ∧
      report.committed = wrote.1.1.length ∧
      ∀ key ∈ again, key ∈ wrote.1.2 ∨ session.isStageable key = false := by
  intro keys wrote
  refine ⟨_, _, sweep_eq_commitBatches sorted time ready, rfl, ?_⟩
  intro key member
  rcases List.mem_append.mp (Durability.mem_retried_iff.mp member).2 with failed | refused
  · exact Or.inl failed
  · have unfit := (List.mem_filter.mp refused).2
    rw [Bool.not_eq_true'] at unfit
    exact Or.inr unfit

omit [DocumentStore σ] in
/-- A document that was due and is not to be dirty again is clean after a sweep. -/
theorem isDirty_after_sweep {deadline : Nat} {collection id : String} {watched : Watched}
    (found : session.watch.documents.get? (watchKey collection id) = some watched)
    (due : watchKey collection id ∈ (session.watch.due deadline).map Prod.fst)
    {again : List String} (kept : watchKey collection id ∉ again) :
    (again.foldl (Watch.markDirtyAt (session.watch.due deadline))
      (session.markedAt deadline).watch).isDirty collection id = false := by
  rw [Watch.isDirty, Watch.get?_markDirtyAt, get?_markedAt_of_due found due, Option.map_some]
  simp only [kept, decide_false, Bool.false_and, Bool.or_false]

/-- A sweep changes nothing but the marks of the documents that are watched. -/
theorem remarks_sweep (sorted : session.watch.documents.Sorted) (now : Nat) :
    session.watch.Remarks (session.sweep quiet now).2.watch := by
  cases time : session.watch.deadline? now with
  | none =>
      rw [sweep_of_early time]
      exact .refl _
  | some deadline =>
      by_cases ready : session.watch.settings.HasRoom ∨ session.watch.due deadline = []
      · rcases exists_sweep sorted time ready with ⟨report, again, swept, -⟩
        rw [swept]
        exact (Watch.remarks_markClean _ _).trans (Watch.remarks_markDirtyAt _ _ _)
      · rw [not_or] at ready
        rw [sweep_of_not_hasRoom time ready.2 ready.1]
        exact Watch.remarks_markClean _ _

/-- A forced put changes no marks, or those of the key that it writes. -/
theorem watch_updateForce (session : Session σ) (collection id : String) :
    (session.updateForce quiet collection id).2.watch = session.watch ∨
      ∃ version, (session.updateForce quiet collection id).2.watch =
        session.watch.noteWritten (watchKey collection id) version := by
  rw [updateForce]
  cases session.watch.documents.get? (watchKey collection id) with
  | none => exact Or.inl rfl
  | some watched =>
      dsimp only [quiet]
      rcases DocumentStore.put collection id (session.document watched.handle).content
        session.store with ⟨cause | _, state⟩
      · exact Or.inl rfl
      · exact Or.inr ⟨watched.version, rfl⟩

theorem remarks_updateForce (session : Session σ) (collection id : String) :
    session.watch.Remarks (session.updateForce quiet collection id).2.watch := by
  rcases session.watch_updateForce collection id with same | ⟨version, marked⟩
  · rw [same]
    exact .refl _
  · rw [marked]
    exact Watch.remarks_noteWritten _ _ _

end Session

/-- Every step keeps all documents under their own keys. -/
theorem WatchStep.run_wellKeyed [DocumentStore σ] [Networked σ]
    (keyed : session.watch.WellKeyed) (step : WatchStep) :
    (step.run session).watch.WellKeyed := by
  cases step with
  | share document => exact keyed
  | mutate handle document => exact keyed
  | setOffline address offline => exact keyed
  | watch collection handle now => exact keyed.add collection _ handle now
  | watchPut collection handle now =>
      have watched : (session.watchDocument collection handle now).2.watch.WellKeyed :=
        keyed.add collection _ handle now
      rw [run, Session.watchPut]
      generalize session.watchDocument collection handle now = outcome at watched ⊢
      rcases outcome with ⟨cause | _, session⟩
      · exact watched
      · exact watched.remarks (Session.remarks_updateForce session collection _)
  | update collection id now =>
      exact keyed.remarks (Watch.remarks_update collection id now _)
  | updateForce collection id =>
      exact keyed.remarks (Session.remarks_updateForce session collection id)
  | stopWatch collection id => exact keyed.remove collection id
  | sweep now => exact keyed.remarks (Session.remarks_sweep keyed.ordered now)

theorem WatchStep.runAll_wellKeyed [DocumentStore σ] [Networked σ]
    (keyed : session.watch.WellKeyed) (steps : List WatchStep) :
    (runAll steps session).watch.WellKeyed := by
  induction steps generalizing session with
  | nil => exact keyed
  | cons step rest ih => exact ih (run_wellKeyed keyed step)

end Polystore
