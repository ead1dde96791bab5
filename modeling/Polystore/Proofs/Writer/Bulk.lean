import Polystore.Proofs.Cluster.Commit
import Polystore.Store.Cluster
import Polystore.Writer.Batch

/-!
# Bulk writing to a cluster

A bulk writer keeps the keys of its puts beside the transaction that stages them.  A ledger
says what is to become of the puts without either: it cuts them into batches, and knows from
the network alone which batches can be committed.  The writer and its cluster follow the ledger
step by step.  So every put that was accepted is committed or fails with its batch, the keys of
those that failed are returned, and the cluster holds what the others make of it.
-/

namespace Polystore

/-! ## Puts in bulk -/

/-- A put that a bulk writer has accepted. -/
structure BulkItem (κ : Type) where
  key : κ
  collection : String
  id : String
  stored : Json

/-- What an accepted put asks of the store. -/
def BulkItem.operation {κ : Type} (item : BulkItem κ) : Operation :=
  .put item.collection item.id item.stored

/-- Accepted puts that are committed together, or not at all. -/
structure BulkBatch (κ : Type) where
  items : List (BulkItem κ)
  committed : Bool

/-- What happens while puts are written in bulk. -/
inductive BulkStep (κ : Type) where
  | add (key : κ) (collection id : String) (value : Json)
  | flush
  | setOffline (address : String) (offline : Bool)

/-- What comes of puts that are written in bulk. -/
structure BulkOutcome (κ : Type) where
  /-- What the steps were answered; only an add can be refused. -/
  replies : List (Except Error Unit)
  report : FlushReport
  /-- The keys that could not be committed. -/
  keys : List κ
  store : ClusterStore

namespace BulkStep

variable {κ : Type}

/-- The put of an add that is accepted: its value has a stored form. -/
def item? : BulkStep κ → Option (BulkItem κ)
  | add key collection id value =>
      match Document.withId id value with
      | .ok stored => some ⟨key, collection, id, stored⟩
      | .error _ => none
  | flush | setOffline _ _ => none

/-- What a step is answered. -/
def reply : BulkStep κ → Except Error Unit
  | add _ _ id value => (Document.withId id value).map fun _ => ()
  | flush | setOffline _ _ => .ok ()

/-- Carry out a step with a writer and a store. -/
def run (step : BulkStep κ) (writer : BatchWriter κ) (store : ClusterStore) :
    Outcome (BatchWriter κ × ClusterStore) Unit :=
  match step with
  | add key collection id value =>
      writer.add (.ofStore ClusterStore) key collection id value store
  | flush => (.ok (), writer.flush (.ofStore ClusterStore) store)
  | setOffline address offline =>
      (.ok (), writer, { store with cluster := store.cluster.setOffline address offline })

/-- Carry out steps in order. -/
def runAll : List (BulkStep κ) → BatchWriter κ → ClusterStore →
    List (Except Error Unit) × BatchWriter κ × ClusterStore
  | [], writer, store => ([], writer, store)
  | step :: rest, writer, store =>
      let (reply, writer, store) := step.run writer store
      let (replies, last) := runAll rest writer store
      (reply :: replies, last)

/-- Write to a store in batches of a size, from the start of a writer to its finish. -/
def write (size : Nat) (steps : List (BulkStep κ)) (store : ClusterStore) : BulkOutcome κ :=
  let (replies, writer, store) := runAll steps (.empty size) store
  let ((report, keys), store) := writer.finish (.ofStore ClusterStore) store
  ⟨replies, report, keys, store⟩

end BulkStep

/-! ## The ledger -/

/-- The accepted puts: those of the batches that were cut, and those that are pending. -/
structure BulkLedger (κ : Type) where
  /-- The cluster as the network is now, with none of the puts. -/
  network : Cluster
  batches : List (BulkBatch κ) := []
  pending : List (BulkItem κ) := []

namespace BulkLedger

variable {κ : Type}

/-- Make a batch of what is pending. -/
def cut (ledger : BulkLedger κ) (committed : Bool) : BulkLedger κ :=
  { ledger with batches := ledger.batches ++ [⟨ledger.pending, committed⟩], pending := [] }

/-- Make a batch of what is pending, if anything is.  It is committed unless some node that it
needs cannot be reached. -/
def close (ledger : BulkLedger κ) : BulkLedger κ :=
  if ledger.pending.isEmpty then ledger
  else ledger.cut (decide ¬ledger.network.Obstructs (ledger.pending.map BulkItem.operation))

/-- One more put is pending. -/
def await (ledger : BulkLedger κ) (item : BulkItem κ) : BulkLedger κ :=
  { ledger with pending := ledger.pending ++ [item] }

/-- Enter a step in the ledger. -/
def step (size : Nat) (ledger : BulkLedger κ) : BulkStep κ → BulkLedger κ
  | .add key collection id value =>
      match (BulkStep.add key collection id value).item? with
      | some item =>
          if size ≤ (ledger.await item).pending.length then (ledger.await item).close
          else ledger.await item
      | none => ledger
  | .flush => ledger.close
  | .setOffline address offline =>
      { ledger with network := ledger.network.setOffline address offline }

/-- The ledger of steps with batches of a size, which are never less than one put. -/
def write (size : Nat) (steps : List (BulkStep κ)) (network : Cluster) : BulkLedger κ :=
  (steps.foldl (step (max size 1)) { network := network }).close

/-- The puts of the batches that were committed. -/
def committed (ledger : BulkLedger κ) : List (BulkItem κ) :=
  (ledger.batches.filter fun batch => batch.committed).flatMap BulkBatch.items

/-- The puts of the batches that failed. -/
def failed (ledger : BulkLedger κ) : List (BulkItem κ) :=
  (ledger.batches.filter fun batch => !batch.committed).flatMap BulkBatch.items

variable {size : Nat} {ledger : BulkLedger κ}

theorem close_of_pending_eq_nil (none : ledger.pending = []) : ledger.close = ledger := by
  rw [close, none]
  rfl

theorem close_of_pending_ne_nil (some : ledger.pending ≠ []) :
    ledger.close =
      ledger.cut (decide ¬ledger.network.Obstructs (ledger.pending.map BulkItem.operation)) :=
  if_neg (by simpa using some)

theorem pending_close (ledger : BulkLedger κ) : ledger.close.pending = [] := by
  by_cases none : ledger.pending = []
  · rw [close_of_pending_eq_nil none]
    exact none
  · rw [close_of_pending_ne_nil none]
    rfl

theorem network_close (ledger : BulkLedger κ) : ledger.close.network = ledger.network := by
  by_cases none : ledger.pending = []
  · rw [close_of_pending_eq_nil none]
  · rw [close_of_pending_ne_nil none]
    rfl

theorem items_cut (ledger : BulkLedger κ) (committed : Bool) :
    (ledger.cut committed).batches.flatMap BulkBatch.items =
      ledger.batches.flatMap BulkBatch.items ++ ledger.pending := by
  rw [cut, List.flatMap_append, List.flatMap_singleton]

theorem committed_cut (ledger : BulkLedger κ) (committed : Bool) :
    (ledger.cut committed).committed =
      ledger.committed ++ if committed then ledger.pending else [] := by
  cases committed <;> simp [cut, BulkLedger.committed]

theorem failed_cut (ledger : BulkLedger κ) (committed : Bool) :
    (ledger.cut committed).failed =
      ledger.failed ++ if committed then [] else ledger.pending := by
  cases committed <;> simp [cut, failed]

/-- Every put is counted once, as committed or as failed. -/
theorem length_committed_add_failed (ledger : BulkLedger κ) :
    ledger.committed.length + ledger.failed.length =
      (ledger.batches.flatMap BulkBatch.items).length := by
  have parted := List.filter_append_perm (fun batch => batch.committed) ledger.batches
  rw [committed, failed, ← List.length_append, ← List.flatMap_append]
  exact (parted.flatMap_right BulkBatch.items).length_eq

/-- The puts accepted so far are in the ledger in order, and no batch is empty or too large. -/
structure Holds (size : Nat) (accepted : List (BulkItem κ)) (ledger : BulkLedger κ) : Prop where
  items : ledger.batches.flatMap BulkBatch.items ++ ledger.pending = accepted
  bounded : ∀ batch ∈ ledger.batches, batch.items ≠ [] ∧ batch.items.length ≤ size
  fits : ledger.pending.length ≤ size

theorem Holds.close {accepted : List (BulkItem κ)} (holds : Holds size accepted ledger) :
    Holds size accepted ledger.close := by
  by_cases none : ledger.pending = []
  · rwa [close_of_pending_eq_nil none]
  · rw [close_of_pending_ne_nil none]
    constructor
    · rw [items_cut, cut, List.append_nil]
      exact holds.items
    · intro batch member
      rcases List.mem_append.mp member with old | new
      · exact holds.bounded batch old
      · rw [List.mem_singleton.mp new]
        exact ⟨none, holds.fits⟩
    · exact Nat.zero_le size

theorem Holds.await {accepted : List (BulkItem κ)} (holds : Holds size accepted ledger)
    (room : ledger.pending.length < size) (item : BulkItem κ) :
    Holds size (accepted ++ [item]) (ledger.await item) where
  items := by
    rw [BulkLedger.await, ← List.append_assoc, holds.items]
  bounded := holds.bounded
  fits := by
    rw [BulkLedger.await, List.length_append]
    exact room

/-- A step enters its put, if it has one, and leaves room for the next. -/
theorem Holds.step {accepted : List (BulkItem κ)} (holds : Holds size accepted ledger)
    (room : ledger.pending.length < size) (step : BulkStep κ) :
    Holds size (accepted ++ step.item?.toList) (ledger.step size step) ∧
      (ledger.step size step).pending.length < size := by
  have positive : 0 < size := Nat.zero_lt_of_lt room
  cases step with
  | add key collection id value =>
      rw [BulkLedger.step]
      cases accepts : (BulkStep.add key collection id value).item? with
      | none =>
          rw [Option.toList_none, List.append_nil]
          exact ⟨holds, room⟩
      | some item =>
          dsimp only
          split
          · refine ⟨(holds.await room item).close, ?_⟩
            rw [pending_close]
            exact positive
          · next more => exact ⟨holds.await room item, Nat.lt_of_not_le more⟩
  | flush =>
      refine ⟨?_, ?_⟩
      · rw [BulkStep.item?, Option.toList_none, List.append_nil]
        exact holds.close
      · rw [BulkLedger.step, pending_close]
        exact positive
  | setOffline address offline =>
      rw [BulkStep.item?, Option.toList_none, List.append_nil]
      exact ⟨⟨holds.items, holds.bounded, holds.fits⟩, room⟩

theorem Holds.steps {accepted : List (BulkItem κ)} (holds : Holds size accepted ledger)
    (room : ledger.pending.length < size) (steps : List (BulkStep κ)) :
    Holds size (accepted ++ steps.filterMap BulkStep.item?)
      (steps.foldl (BulkLedger.step size) ledger) := by
  induction steps generalizing accepted ledger with
  | nil =>
      rw [List.filterMap_nil, List.append_nil]
      exact holds
  | cons step rest ih =>
      obtain ⟨next, nextRoom⟩ := holds.step room step
      have cut : (step :: rest).filterMap BulkStep.item? =
          step.item?.toList ++ rest.filterMap BulkStep.item? := by
        cases accepts : step.item? with
        | none => rw [List.filterMap_cons_none accepts, Option.toList_none, List.nil_append]
        | some item =>
            rw [List.filterMap_cons_some accepts]
            rfl
      rw [cut, ← List.append_assoc]
      exact ih next nextRoom

/-- In the end all accepted puts are in batches. -/
theorem holds_write (size : Nat) (steps : List (BulkStep κ)) (network : Cluster) :
    Holds (max size 1) (steps.filterMap BulkStep.item?) (write size steps network) ∧
      (write size steps network).pending = [] := by
  have start : Holds (max size 1) [] ({ network := network } : BulkLedger κ) := by
    refine ⟨rfl, ?_, Nat.zero_le _⟩
    intro batch member
    contradiction
  exact ⟨(start.steps (Nat.lt_of_lt_of_le Nat.zero_lt_one (Nat.le_max_right size 1)) steps).close,
    pending_close _⟩

/-! ## Following the ledger -/

/-- A writer has accepted, committed and failed what the ledger says, and its cluster holds what
the committed puts make of the network. -/
structure Follows (size : Nat) (ledger : BulkLedger κ) (writer : BatchWriter κ)
    (cluster : Cluster) : Prop where
  batchSize : writer.batchSize = size
  transaction : writer.transaction = { operations := ledger.pending.map BulkItem.operation }
  pending : writer.pending = ledger.pending.map BulkItem.key
  failed : writer.failed = ledger.failed.map BulkItem.key
  staged : writer.report.staged =
    (ledger.batches.flatMap BulkBatch.items).length + ledger.pending.length
  committed : writer.report.committed = ledger.committed.length
  failures : writer.report.failed = ledger.failed.length
  performs : Cluster.Performs (ledger.committed.map BulkItem.operation) ledger.network cluster

variable {writer : BatchWriter κ} {store : ClusterStore}

theorem Follows.length_pending {cluster : Cluster} (follows : Follows size ledger writer cluster) :
    writer.pending.length = ledger.pending.length := by
  rw [follows.pending, List.length_map]

/-- A flush of staged puts hands them to the cluster in one transaction. -/
theorem Follows.flush_eq (follows : Follows size ledger writer store.cluster)
    (some : ledger.pending ≠ []) {result : Except Error Unit} {after : Cluster}
    (committed : Cluster.commit (ledger.pending.map BulkItem.operation) store.cluster =
      (result, after)) :
    writer.flush (.ofStore ClusterStore) store =
      (writer.settle result, { store with cluster := after }) := by
  have busy : writer.pending ≠ [] := by
    rw [follows.pending]
    simpa using some
  have sent : (BatchTarget.ofStore ClusterStore).commit writer.transaction.operations store =
      (result, { store with cluster := after }) := by
    rw [follows.transaction]
    change ClusterStore.onCluster (Cluster.commit _) store = _
    rw [ClusterStore.onCluster, committed]
  have handed := Transaction.commit_of_active (BatchTarget.ofStore ClusterStore).commit
    (congrArg Transaction.status follows.transaction)
    (by rw [follows.transaction]; simpa using some) store
  rw [sent] at handed
  rw [BatchWriter.flush, if_neg (by simpa using busy)]
  dsimp only
  rw [handed.1, handed.2]
  rfl

/-- A batch that was committed is counted so, and its puts are in the cluster. -/
theorem Follows.settle_ok {cluster after : Cluster} (follows : Follows size ledger writer cluster)
    (performs : Cluster.Performs (ledger.pending.map BulkItem.operation) cluster after) :
    Follows size (ledger.cut true) (writer.settle (.ok ())) after where
  batchSize := follows.batchSize
  transaction := rfl
  pending := rfl
  failed := by
    rw [failed_cut, if_pos rfl, List.append_nil]
    exact follows.failed
  staged := by
    rw [items_cut, List.length_append]
    exact follows.staged
  committed := by
    rw [committed_cut, if_pos rfl, List.length_append, ← follows.committed,
      ← follows.length_pending]
    rfl
  failures := by
    rw [failed_cut, if_pos rfl, List.append_nil]
    exact follows.failures
  performs := by
    rw [committed_cut, if_pos rfl, List.map_append]
    exact follows.performs.append performs

/-- A batch that failed is counted so, and its keys are kept. -/
theorem Follows.settle_error {cluster : Cluster} (follows : Follows size ledger writer cluster)
    (cause : Error) : Follows size (ledger.cut false) (writer.settle (.error cause)) cluster where
  batchSize := follows.batchSize
  transaction := rfl
  pending := rfl
  failed := by
    rw [failed_cut, if_neg Bool.false_ne_true, List.map_append, ← follows.failed,
      ← follows.pending]
    rfl
  staged := by
    rw [items_cut, List.length_append]
    exact follows.staged
  committed := by
    rw [committed_cut, if_neg Bool.false_ne_true, List.append_nil]
    exact follows.committed
  failures := by
    rw [failed_cut, if_neg Bool.false_ne_true, List.length_append, ← follows.failures,
      ← follows.length_pending]
    rfl
  performs := by
    rw [committed_cut, if_neg Bool.false_ne_true, List.append_nil]
    exact follows.performs

/-- A flush does what closing the ledger says. -/
theorem Follows.flush (follows : Follows size ledger writer store.cluster)
    (nonempty : ledger.network.segments ≠ []) (distinct : ledger.network.segments.Nodup) :
    let (later, after) := writer.flush (.ofStore ClusterStore) store
    Follows size ledger.close later after.cluster := by
  by_cases none : ledger.pending = []
  · have idle : writer.flush (.ofStore ClusterStore) store = (writer, store) := by
      rw [BatchWriter.flush, follows.pending, none]
      rfl
    rw [idle, close_of_pending_eq_nil none]
    exact follows
  · -- Puts move no node, so the cluster is obstructed whenever the network of the ledger is.
    rw [← follows.performs.segments] at nonempty distinct
    have same := follows.performs.obstructs_iff (ledger.pending.map BulkItem.operation)
    rw [close_of_pending_ne_nil none]
    by_cases obstructs : store.cluster.Obstructs (ledger.pending.map BulkItem.operation)
    · obtain ⟨cause, -, stopped⟩ := Cluster.commit_of_obstructs nonempty distinct obstructs
      rw [follows.flush_eq none stopped, decide_eq_false (not_not_intro (same.mp obstructs))]
      exact follows.settle_error cause
    · obtain ⟨after, committed, performs⟩ :=
        Cluster.commit_of_not_obstructs nonempty distinct obstructs
      rw [follows.flush_eq none committed, decide_eq_true (mt same.mpr obstructs)]
      exact follows.settle_ok performs

/-- An add that is accepted stages its put and keeps its key. -/
theorem Follows.await {cluster : Cluster} (follows : Follows size ledger writer cluster)
    (item : BulkItem κ) :
    Follows size (ledger.await item) { writer with
      transaction := { operations := writer.transaction.operations ++ [item.operation] }
      pending := writer.pending ++ [item.key]
      report := { writer.report with staged := writer.report.staged + 1 } } cluster where
  batchSize := follows.batchSize
  transaction := by
    rw [BulkLedger.await, List.map_append, follows.transaction]
    rfl
  pending := by
    rw [BulkLedger.await, List.map_append, follows.pending]
    rfl
  failed := follows.failed
  staged := by
    rw [BulkLedger.await, List.length_append]
    exact congrArg (· + 1) follows.staged
  committed := follows.committed
  failures := follows.failures
  performs := follows.performs

/-- A step is answered as expected, and its writer and its cluster follow the ledger. -/
theorem Follows.step (follows : Follows size ledger writer store.cluster)
    (nonempty : ledger.network.segments ≠ []) (distinct : ledger.network.segments.Nodup)
    (step : BulkStep κ) :
    let (reply, later, after) := step.run writer store
    reply = step.reply ∧ Follows size (ledger.step size step) later after.cluster := by
  cases step with
  | add key collection id value =>
      rw [BulkStep.run, BatchWriter.add, BulkStep.reply, BulkLedger.step, BulkStep.item?,
        Transaction.put, congrArg Transaction.status follows.transaction]
      dsimp only
      cases form : Document.withId id value with
      | error cause => exact ⟨rfl, follows⟩
      | ok stored =>
          let item : BulkItem κ := ⟨key, collection, id, stored⟩
          have awaits := follows.await item
          -- The writer counts keys and the ledger puts, so both find the batch full at once.
          have full : writer.batchSize ≤ (writer.pending ++ [key]).length ↔
              size ≤ (ledger.await item).pending.length := by
            rw [follows.batchSize, ← awaits.length_pending]
          dsimp only
          rw [Transaction.stage, congrArg Transaction.status follows.transaction]
          dsimp only
          by_cases now : size ≤ (ledger.await item).pending.length
          · rw [if_pos (full.mpr now), if_pos now]
            exact ⟨rfl, awaits.flush nonempty distinct⟩
          · rw [if_neg (mt full.mp now), if_neg now]
            exact ⟨rfl, awaits⟩
  | flush => exact ⟨rfl, follows.flush nonempty distinct⟩
  | setOffline address offline =>
      exact ⟨rfl, ⟨follows.batchSize, follows.transaction, follows.pending, follows.failed,
        follows.staged, follows.committed, follows.failures,
        follows.performs.setOffline address offline⟩⟩

/-- No step changes what the network is made of, or the documents in it. -/
theorem frame_step (size : Nat) (ledger : BulkLedger κ) (step : BulkStep κ) :
    (ledger.step size step).network.segments = ledger.network.segments ∧
      (ledger.step size step).network.document? = ledger.network.document? := by
  cases step with
  | add key collection id value =>
      rw [BulkLedger.step]
      split
      · split
        · rw [network_close]
          exact ⟨rfl, rfl⟩
        · exact ⟨rfl, rfl⟩
      · exact ⟨rfl, rfl⟩
  | flush =>
      rw [BulkLedger.step, network_close]
      exact ⟨rfl, rfl⟩
  | setOffline address offline =>
      refine ⟨rfl, ?_⟩
      funext collection id
      exact ledger.network.document?_setOffline address offline collection id

theorem frame_steps (size : Nat) (ledger : BulkLedger κ) (steps : List (BulkStep κ)) :
    (steps.foldl (step size) ledger).network.segments = ledger.network.segments ∧
      (steps.foldl (step size) ledger).network.document? = ledger.network.document? := by
  induction steps generalizing ledger with
  | nil => exact ⟨rfl, rfl⟩
  | cons first rest ih =>
      obtain ⟨segments, documents⟩ := ledger.frame_step size first
      obtain ⟨restSegments, restDocuments⟩ := ih (ledger.step size first)
      exact ⟨restSegments.trans segments, restDocuments.trans documents⟩

theorem Follows.steps (follows : Follows size ledger writer store.cluster)
    (nonempty : ledger.network.segments ≠ []) (distinct : ledger.network.segments.Nodup)
    (steps : List (BulkStep κ)) :
    let (replies, last, final) := BulkStep.runAll steps writer store
    replies = steps.map BulkStep.reply ∧
      Follows size (steps.foldl (BulkLedger.step size) ledger) last final.cluster := by
  induction steps generalizing ledger writer store with
  | nil => exact ⟨rfl, follows⟩
  | cons first rest ih =>
      obtain ⟨segments, -⟩ := ledger.frame_step size first
      obtain ⟨replied, later⟩ := follows.step nonempty distinct first
      obtain ⟨replies, last⟩ := ih later (segments ▸ nonempty) (segments ▸ distinct)
      refine ⟨?_, last⟩
      rw [List.map_cons, ← replied, ← replies]

/-- A writer that starts has accepted nothing. -/
theorem follows_start (size : Nat) (store : ClusterStore) :
    Follows (max size 1) ({ network := store.cluster } : BulkLedger κ)
      (.empty size) store.cluster where
  batchSize := rfl
  transaction := rfl
  pending := rfl
  failed := rfl
  staged := rfl
  committed := rfl
  failures := rfl
  performs := .refl _

/-- Puts that are written in bulk are answered and end as the ledger says. -/
theorem exists_follows_write (size : Nat) (steps : List (BulkStep κ))
    (nonempty : store.cluster.segments ≠ []) (distinct : store.cluster.segments.Nodup) :
    let wrote := BulkStep.write size steps store
    wrote.replies = steps.map BulkStep.reply ∧
      ∃ last : BatchWriter κ, last.report = wrote.report ∧ last.failed = wrote.keys ∧
        Follows (max size 1) (write size steps store.cluster) last wrote.store.cluster := by
  obtain ⟨replies, follows⟩ := (follows_start size store).steps nonempty distinct steps
  obtain ⟨segments, -⟩ :=
    frame_steps (max size 1) ({ network := store.cluster } : BulkLedger κ) steps
  refine ⟨replies, _, rfl, rfl, follows.flush ?_ ?_⟩
  · rw [segments]
    exact nonempty
  · rw [segments]
    exact distinct

end BulkLedger

namespace BulkStep

variable {κ : Type}

/-- Of puts in bulk every accepted one is in one of consecutive batches, the report counts it as
committed or failed with its batch, the keys of the failed batches are returned in order, and the
cluster holds what the committed batches make of what it held before. -/
theorem write_conserves_items (size : Nat) (steps : List (BulkStep κ)) {store : ClusterStore}
    (nonempty : store.cluster.segments ≠ []) (distinct : store.cluster.segments.Nodup) :
    let wrote := write size steps store
    let ledger := BulkLedger.write size steps store.cluster
    wrote.replies = steps.map reply ∧
    ledger.batches.flatMap BulkBatch.items = steps.filterMap item? ∧
    (∀ batch ∈ ledger.batches, batch.items ≠ [] ∧ batch.items.length ≤ max size 1) ∧
    wrote.report.staged = (steps.filterMap item?).length ∧
    wrote.report.committed = ledger.committed.length ∧
    wrote.report.failed = ledger.failed.length ∧
    wrote.report.staged = wrote.report.committed + wrote.report.failed ∧
    wrote.keys = ledger.failed.map BulkItem.key ∧
    Cluster.Performs (ledger.committed.map BulkItem.operation) ledger.network
      wrote.store.cluster ∧
    wrote.store.cluster.document? = Contents.performAll store.cluster.document?
      (ledger.committed.map BulkItem.operation) := by
  intro wrote ledger
  obtain ⟨replies, last, report, keys, follows⟩ :=
    BulkLedger.exists_follows_write size steps nonempty distinct
  obtain ⟨holds, empty⟩ := BulkLedger.holds_write size steps store.cluster
  obtain ⟨segments, documents⟩ := BulkLedger.frame_steps (max size 1)
    ({ network := store.cluster } : BulkLedger κ) steps
  have items : ledger.batches.flatMap BulkBatch.items = steps.filterMap item? := by
    rw [← holds.items, empty, List.append_nil]
  have staged : wrote.report.staged = (steps.filterMap item?).length := by
    rw [← report, follows.staged, empty, ← items]
    rfl
  have committed : wrote.report.committed = ledger.committed.length := by
    rw [← report]
    exact follows.committed
  have failed : wrote.report.failed = ledger.failed.length := by
    rw [← report]
    exact follows.failures
  refine ⟨replies, items, holds.bounded, staged, committed, failed, ?_, ?_, follows.performs, ?_⟩
  · rw [staged, committed, failed, ledger.length_committed_add_failed, items]
  · rw [← keys]
    exact follows.failed
  · have network : ledger.network.segments = store.cluster.segments ∧
        ledger.network.document? = store.cluster.document? := by
      rw [← segments, ← documents]
      exact ⟨congrArg _ (BulkLedger.network_close _), congrArg _ (BulkLedger.network_close _)⟩
    funext collection id
    rw [Contents.performAll_apply, ← network.2]
    exact follows.performs.document? (network.1 ▸ nonempty) collection id

/-- While a node is away, the batch that needs it fails with both of its keys. -/
theorem write_over_outage :
    let shelf : ClusterStore := .ofCluster { segments := ["east", "west"] } 4
    let steps : List (BulkStep String) := [
      .add "a" "c" "a" (.object []), .add "b" "c" "b" (.object []), .setOffline "west" true,
      .add "d" "c" "d" (.object []), .add "bad" "c" "bad" .null, .add "e" "c" "e" (.object []),
      .setOffline "west" false, .add "f" "c" "f" (.object [])]
    let wrote := write 2 steps shelf
    wrote.report = { staged := 5, committed := 3, failed := 2 } ∧ wrote.keys = ["d", "e"] ∧
      (wrote.store.cluster.document? "c" "d").isSome = false ∧
      (wrote.store.cluster.document? "c" "f").isSome = true := by
  intro shelf steps wrote
  obtain ⟨-, -, -, staged, committed, failed, -, keys, -, contents⟩ :=
    @write_conserves_items String 2 steps shelf (by decide) (by decide)
  refine ⟨?_, ?_, ?_, ?_⟩
  · have counts (report : FlushReport) :
        report = ⟨report.staged, report.committed, report.failed⟩ := rfl
    rw [counts wrote.report, staged, committed, failed]
    decide +kernel
  · rw [keys]
    decide +kernel
  · rw [contents]
    decide +kernel
  · rw [contents]
    decide +kernel

end BulkStep

end Polystore
