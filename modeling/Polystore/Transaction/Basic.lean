import Polystore.Document
import Polystore.Transaction.Operation

/-!
# Transactions

A transaction collects operations while it is active and hands all of them to a
store in one call when it commits.  Whatever comes of it, a transaction that was
committed or rolled back takes operations again only after a new start.
-/

namespace Polystore

/-- The operations staged so far, and whether more are taken. -/
structure Transaction where
  status : Transaction.Status := .active
  operations : List Operation := []

namespace Transaction

/-- What applies the operations of a transaction, all of them or none. -/
abbrev Sink (σ : Type) := List Operation → σ → Outcome σ Unit

/-- A transaction with nothing staged. -/
def start : Transaction := {}

/-- Stage an operation, if operations are taken. -/
def stage (transaction : Transaction) (operation : Operation) : Outcome Transaction Unit :=
  match transaction.status with
  | .active =>
      (.ok (), { transaction with operations := transaction.operations ++ [operation] })
  | status => (.error (.notActive status), transaction)

/-- Stage a put of a document. -/
def put (transaction : Transaction) (collection id : String) (value : Json) :
    Outcome Transaction Unit :=
  match transaction.status with
  | .active =>
      match Document.withId id value with
      | .ok stored => transaction.stage (.put collection id stored)
      | .error cause => (.error cause, transaction)
  | status => (.error (.notActive status), transaction)

/-- Stage a delete of a document. -/
def delete (transaction : Transaction) (collection id : String) : Outcome Transaction Unit :=
  transaction.stage (.delete collection id)

/-- Stage the drop of a collection. -/
def drop (transaction : Transaction) (collection : String) : Outcome Transaction Unit :=
  transaction.stage (.drop collection)

/-- Hand the staged operations to a store.  A transaction with nothing staged
commits without asking the store. -/
def commit {σ : Type} (sink : Sink σ) (transaction : Transaction) (state : σ) :
    Outcome (Transaction × σ) Unit :=
  match transaction.status with
  | .active =>
      match transaction.operations with
      | [] => (.ok (), ⟨.committed, []⟩, state)
      | operations =>
          match sink operations state with
          | (.ok (), state) => (.ok (), ⟨.committed, []⟩, state)
          | (.error cause, state) => (.error cause, ⟨.aborted, []⟩, state)
  | status => (.error (.notActive status), transaction, state)

/-- Discard what is staged. -/
def rollback (_ : Transaction) : Transaction where
  status := .aborted

/-- An active transaction that has something staged asks the store once, and is answered what the
store answers. -/
theorem commit_of_active {σ : Type} (sink : Sink σ) {transaction : Transaction}
    (active : transaction.status = .active) (some : transaction.operations ≠ []) (state : σ) :
    (transaction.commit sink state).1 = (sink transaction.operations state).1 ∧
      (transaction.commit sink state).2.2 = (sink transaction.operations state).2 := by
  obtain ⟨status, operations⟩ := transaction
  cases active
  obtain ⟨operation, rest, rfl⟩ := List.exists_cons_of_ne_nil some
  simp only [commit]
  rcases sink (operation :: rest) state with ⟨_ | _, after⟩
  · exact ⟨rfl, rfl⟩
  · exact ⟨rfl, rfl⟩

end Transaction

end Polystore
