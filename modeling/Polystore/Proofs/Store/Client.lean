import Polystore.Store.Basic

/-!
# Clients of a store

A client calls a store step by step and keeps transactions under numbers.  What it sees
of the store are the replies.  Its nodes leave the network and come back by themselves.
-/

namespace Polystore

/-- What a client asks for. -/
inductive ClientStep where
  | put (collection id : String) (value : Json)
  | get (collection id : String)
  | delete (collection id : String)
  | createCollection (collection : String)
  | dropCollection (collection : String)
  | query (query : Query)
  | countDistinct (query : Query) (field : String)
  /-- Begin a transaction under a number, in place of the one there. -/
  | start (number : Nat)
  | stagePut (number : Nat) (collection id : String) (value : Json)
  | stageDelete (number : Nat) (collection id : String)
  | stageDrop (number : Nat) (collection : String)
  | commit (number : Nat)
  | rollback (number : Nat)

/-- What a client is told. -/
inductive Reply where
  | done (result : Except Error Unit)
  | document (result : Except Error Json)
  | answer (answer : Answer)
  | counts (result : Except Error (Keyed Nat))

/-- Stores whose nodes leave the network and come back. -/
class Networked (σ : Type) where
  setOffline : (address : String) → (offline : Bool) → σ → σ

/-- A store, and the transactions of a client. -/
structure Client (σ : Type) where
  store : σ
  transactions : Nat → Transaction := fun _ => .start

namespace ClientStep

/-- The document that a step puts. -/
def value? : ClientStep → Option Json
  | put _ _ value | stagePut _ _ _ value => some value
  | _ => none

/-- A step whose document holds only integers that fit a signed word. -/
def IsIntegral (step : ClientStep) : Prop :=
  ∀ value ∈ step.value?, value.isIntegral = true

instance (step : ClientStep) : Decidable step.IsIntegral :=
  inferInstanceAs (Decidable (∀ value ∈ step.value?, value.isIntegral = true))

/-- The query that a step runs. -/
def query? : ClientStep → Option Query
  | query asked | countDistinct asked _ => some asked
  | _ => none

/-- A step that changes documents, or reads one, but runs no query. -/
def IsPlain (step : ClientStep) : Prop :=
  step.query?.isNone

instance (step : ClientStep) : Decidable step.IsPlain :=
  inferInstanceAs (Decidable (step.query?.isNone = true))

/-- The collection that a step creates or drops as a whole, outside a transaction. -/
def collection? : ClientStep → Option String
  | createCollection collection | dropCollection collection => some collection
  | _ => none

end ClientStep

namespace Client

variable {σ : Type}

/-- Put a transaction under a number. -/
def keep (client : Client σ) (number : Nat) (transaction : Transaction) : Client σ :=
  { client with transactions := fun other =>
      if other = number then transaction else client.transactions other }

/-- Act on the transaction of a number. -/
def onTransaction (client : Client σ) (number : Nat)
    (action : Transaction → Outcome Transaction Unit) : Reply × Client σ :=
  let (result, transaction) := action (client.transactions number)
  (.done result, client.keep number transaction)

/-- Act on the store. -/
def onStore {α : Type} (client : Client σ) (reply : α → Reply) (outcome : α × σ) :
    Reply × Client σ :=
  (reply outcome.1, { client with store := outcome.2 })

variable [DocumentStore σ]

/-- The reply to a step, and what it leaves. -/
def run (step : ClientStep) (client : Client σ) : Reply × Client σ :=
  match step with
  | .put collection id value =>
      client.onStore .done (DocumentStore.put collection id value client.store)
  | .get collection id => (.document (DocumentStore.get collection id client.store), client)
  | .delete collection id =>
      client.onStore .done (DocumentStore.delete collection id client.store)
  | .createCollection collection =>
      client.onStore .done (DocumentStore.createCollection collection client.store)
  | .dropCollection collection =>
      client.onStore .done (DocumentStore.dropCollection collection client.store)
  | .query query => client.onStore .answer (DocumentStore.query query client.store)
  | .countDistinct query field =>
      client.onStore .counts (DocumentStore.countDistinct query field client.store)
  | .start number => (.done (.ok ()), client.keep number .start)
  | .stagePut number collection id value =>
      client.onTransaction number fun transaction => transaction.put collection id value
  | .stageDelete number collection id =>
      client.onTransaction number fun transaction => transaction.delete collection id
  | .stageDrop number collection =>
      client.onTransaction number fun transaction => transaction.drop collection
  | .commit number =>
      let (result, transaction, store) :=
        (client.transactions number).commit DocumentStore.commit client.store
      (.done result, { client with store := store }.keep number transaction)
  | .rollback number => (.done (.ok ()), client.keep number (client.transactions number).rollback)

/-- The replies to some steps, and what they leave. -/
def runAll : List ClientStep → Client σ → List Reply × Client σ
  | [], client => ([], client)
  | step :: rest, client =>
      let (reply, client) := client.run step
      let (replies, client) := runAll rest client
      (reply :: replies, client)

theorem runAll_cons (step : ClientStep) (rest : List ClientStep) (client : Client σ) :
    (runAll (step :: rest) client).1 =
      (client.run step).1 :: (runAll rest (client.run step).2).1 :=
  rfl

end Client

namespace Transaction

/-! ## Staged operations -/

/-- The operations staged in a transaction are all of some sort. -/
def StagesOnly (admitted : Operation → Prop) (transaction : Transaction) : Prop :=
  ∀ operation ∈ transaction.operations, admitted operation

namespace StagesOnly

variable {admitted : Operation → Prop} {transaction : Transaction}

theorem start (admitted : Operation → Prop) : StagesOnly admitted .start :=
  List.forall_mem_nil _

theorem stage (stages : transaction.StagesOnly admitted) {operation : Operation}
    (fits : admitted operation) : (transaction.stage operation).2.StagesOnly admitted := by
  rw [Transaction.stage]
  split
  · exact List.forall_mem_append.mpr ⟨stages, List.forall_mem_singleton.mpr fits⟩
  · exact stages

theorem put (stages : transaction.StagesOnly admitted) {collection id : String} {value : Json}
    (fits : ∀ stored, Document.withId id value = .ok stored →
      admitted (.put collection id stored)) :
    (transaction.put collection id value).2.StagesOnly admitted := by
  rw [Transaction.put]
  split
  · split
    · next form => exact stages.stage (fits _ form)
    · exact stages
  · exact stages

/-- A commit leaves nothing staged, or the transaction as it was. -/
theorem commit {σ : Type} (stages : transaction.StagesOnly admitted) (sink : Sink σ) (state : σ) :
    (transaction.commit sink state).2.1.StagesOnly admitted := by
  rw [Transaction.commit]
  split
  · split
    · exact start admitted
    · split <;> exact start admitted
  · exact stages

end StagesOnly

/-! ## Transactions of two stores -/

/-- A transaction that two stores carry out alike, as far as a view of their errors tells,
fares alike, and leaves the stores as they are related. -/
theorem commit_of_sinks_up_to {σ τ ε : Type} (view : Error → ε) {Related : σ → τ → Prop}
    {left : σ} {right : τ} (transaction : Transaction) (leftSink : Sink σ) (rightSink : Sink τ)
    (related : Related left right)
    (acts : (leftSink transaction.operations left).1.mapError view =
        (rightSink transaction.operations right).1.mapError view ∧
      Related (leftSink transaction.operations left).2
        (rightSink transaction.operations right).2) :
    (transaction.commit leftSink left).1.mapError view =
        (transaction.commit rightSink right).1.mapError view ∧
      (transaction.commit leftSink left).2.1 = (transaction.commit rightSink right).2.1 ∧
      Related (transaction.commit leftSink left).2.2 (transaction.commit rightSink right).2.2 := by
  rw [Transaction.commit, Transaction.commit]
  split
  · split
    · exact ⟨rfl, rfl, related⟩
    · revert acts
      rcases leftSink transaction.operations left with ⟨leftCause | done, leftAfter⟩
      · rcases rightSink transaction.operations right with ⟨rightCause | done, rightAfter⟩
        · rintro ⟨same, after⟩
          exact ⟨same, rfl, after⟩
        · rintro ⟨⟨⟩, -⟩
      · rcases rightSink transaction.operations right with ⟨rightCause | done, rightAfter⟩
        · rintro ⟨⟨⟩, -⟩
        · rintro ⟨same, after⟩
          exact ⟨same, rfl, after⟩
  · exact ⟨rfl, rfl, related⟩

/-- A transaction that two stores carry out alike fares alike, and leaves the stores as they
are related. -/
theorem commit_of_sinks {σ τ : Type} {Related : σ → τ → Prop} {left : σ} {right : τ}
    (transaction : Transaction) (leftSink : Sink σ) (rightSink : Sink τ)
    (related : Related left right)
    (acts : (leftSink transaction.operations left).1 = (rightSink transaction.operations right).1 ∧
      Related (leftSink transaction.operations left).2
        (rightSink transaction.operations right).2) :
    (transaction.commit leftSink left).1 = (transaction.commit rightSink right).1 ∧
      (transaction.commit leftSink left).2.1 = (transaction.commit rightSink right).2.1 ∧
      Related (transaction.commit leftSink left).2.2 (transaction.commit rightSink right).2.2 := by
  have unseen (result : Except Error Unit) : result.mapError id = result := by
    cases result <;> rfl
  have fares := commit_of_sinks_up_to id transaction leftSink rightSink related
  simp only [unseen] at fares
  exact fares acts

end Transaction

/-- A client whose transactions stage operations of some sort may keep one more such
transaction. -/
theorem Client.stagesOnly_keep {σ : Type} {admitted : Operation → Prop} {client : Client σ}
    (stages : ∀ number, (client.transactions number).StagesOnly admitted) (number : Nat)
    {transaction : Transaction} (more : transaction.StagesOnly admitted) :
    ∀ other, ((client.keep number transaction).transactions other).StagesOnly admitted := by
  intro other
  rw [Client.keep]
  dsimp only
  split
  · exact more
  · exact stages other

end Polystore
