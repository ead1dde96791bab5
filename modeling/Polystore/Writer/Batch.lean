import Polystore.Failure
import Polystore.Store.Basic

/-!
# Bulk writing

A bulk writer stages puts in a transaction and commits it whenever so many of
them are staged.  Every put carries a key.  The keys of a batch that cannot be
committed are kept, so that the caller can decide what to do with them.
-/

namespace Polystore

/-- How many puts were staged, and what became of them. -/
structure FlushReport where
  staged : Nat := 0
  committed : Nat := 0
  failed : Nat := 0
deriving DecidableEq, Repr

/-- What a bulk writer writes to. -/
structure BatchTarget (σ : Type) where
  commit : Transaction.Sink σ
  /-- What happens elsewhere while a transaction is made. -/
  meanwhile : σ → σ

/-- A store by itself as the target of bulk writing. -/
def BatchTarget.ofStore (σ : Type) [DocumentStore σ] : BatchTarget σ where
  commit := DocumentStore.commit
  meanwhile state := state

/-- A bulk writer. -/
structure BatchWriter (κ : Type) where
  /-- How many puts make a batch, at least one. -/
  batchSize : Nat
  transaction : Transaction := .start
  /-- The keys of the staged puts. -/
  pending : List κ := []
  /-- The keys of the batches that could not be committed. -/
  failed : List κ := []
  report : FlushReport := {}

namespace BatchWriter

variable {κ σ : Type}

/-- A bulk writer with nothing staged. -/
def empty (batchSize : Nat) : BatchWriter κ where
  batchSize := max batchSize 1

/-- Make a bulk writer whose keys take so many bytes each.  When its transaction is made, room
for the keys of a batch is asked for. -/
def start (bytes : Nat) (target : BatchTarget σ) (batchSize : Nat) (state : σ) :
    Except Panic (BatchWriter κ) × σ :=
  (if CanReserve bytes (max batchSize 1) then .ok (empty batchSize) else .error .capacity,
    target.meanwhile state)

/-- The writer after its batch was committed or not. -/
def settle (writer : BatchWriter κ) (result : Except Error Unit) : BatchWriter κ :=
  match result with
  | .ok () =>
      { writer with
        transaction := .start
        pending := []
        report := { writer.report with
          committed := writer.report.committed + writer.pending.length } }
  | .error _ =>
      { writer with
        transaction := .start
        pending := []
        failed := writer.failed ++ writer.pending
        report := { writer.report with
          failed := writer.report.failed + writer.pending.length } }

/-- Commit what is staged, and start afresh. -/
def flush (target : BatchTarget σ) (writer : BatchWriter κ) (state : σ) :
    BatchWriter κ × σ :=
  if writer.pending.isEmpty then (writer, state)
  else
    let (result, _, state) := writer.transaction.commit target.commit state
    (writer.settle result, target.meanwhile state)

/-- Stage a put under a key.  What cannot be staged leaves no trace. -/
def add (target : BatchTarget σ) (key : κ) (collection id : String) (value : Json)
    (writer : BatchWriter κ) (state : σ) : Outcome (BatchWriter κ × σ) Unit :=
  match writer.transaction.put collection id value with
  | (.error cause, _) => (.error cause, writer, state)
  | (.ok (), transaction) =>
      let writer := { writer with
        transaction := transaction
        pending := writer.pending ++ [key]
        report := { writer.report with staged := writer.report.staged + 1 } }
      if writer.pending.length ≥ writer.batchSize then (.ok (), writer.flush target state)
      else (.ok (), writer, state)

/-- Commit the rest; the report, and the keys that could not be committed. -/
def finish (target : BatchTarget σ) (writer : BatchWriter κ) (state : σ) :
    (FlushReport × List κ) × σ :=
  let (writer, state) := writer.flush target state
  ((writer.report, writer.failed), state)

end BatchWriter

end Polystore
