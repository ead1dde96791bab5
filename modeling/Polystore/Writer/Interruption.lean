import Polystore.Store.Backend
import Polystore.Writer.Watch

/-!
# Planned interference

To study how a watcher runs beside an application, the interference can be laid
down in advance: an interruption names a moment, lets some moments of the kind
pass and then carries out its actions, once.  The actions may wait for the store
themselves and be interrupted in turn.
-/

namespace Polystore

/-- What may be done while a watcher waits for the store. -/
inductive Action where
  | setOffline (address : String) (offline : Bool)
  | mutate (handle : Nat) (document : SharedDocument)
  | update (collection id : String)
  | updateForce (collection id : String)
  | stopWatch (collection id : String)

/-- Actions to be carried out at a moment. -/
structure Interruption where
  moment : Moment
  /-- How many moments of the kind pass before. -/
  skip : Nat
  actions : List Action

/-- A document pool, and the interruptions that are still to come. -/
structure InterruptedPool where
  pool : DocumentPool
  pending : List Interruption := []

namespace InterruptedPool

/-- Act on the pool. -/
def act {β : Type} (action : DocumentPool → β × DocumentPool) (state : InterruptedPool) :
    β × InterruptedPool :=
  let (result, pool) := action state.pool
  (result, { state with pool := pool })

instance : DocumentStore InterruptedPool where
  put collection id value := act (DocumentStore.put collection id value)
  get collection id state := DocumentStore.get collection id state.pool
  delete collection id := act (DocumentStore.delete collection id)
  query query := act (DocumentStore.query query)
  commit operations := act (DocumentStore.commit operations)
  createCollection collection := act (DocumentStore.createCollection collection)
  dropCollection collection := act (DocumentStore.dropCollection collection)
  forgetPages query state := { state with pool := DocumentStore.forgetPages query state.pool }
  countDistinct query field := act (DocumentStore.countDistinct query field)

/-- Whether an interruption comes now. -/
def comesAt (moment : Moment) (interruption : Interruption) : Bool :=
  interruption.moment = moment ∧ interruption.skip = 0

/-- The interruptions that come after a moment. -/
def afterMoment (moment : Moment) (pending : List Interruption) : List Interruption :=
  (pending.filter fun interruption => ¬comesAt moment interruption).map fun interruption =>
    if interruption.moment = moment then { interruption with skip := interruption.skip - 1 }
    else interruption

/-- Carry out an action at a time. -/
def perform (interfere : Interference InterruptedPool) (now : Nat)
    (session : Session InterruptedPool) : Action → Session InterruptedPool
  | .setOffline address offline =>
      { session with
        store := { session.store with pool := session.store.pool.setOffline address offline } }
  | .mutate handle document => session.mutate handle document
  | .update collection id => (session.update collection id now).2
  | .updateForce collection id => (session.updateForce interfere collection id).2
  | .stopWatch collection id => session.stopWatch collection id

/-- The interference of the pending interruptions, which may interrupt each
other so many times. -/
def interruptWith : (depth : Nat) → (now : Nat) → Interference InterruptedPool
  | 0, _ => Session.quiet
  | depth + 1, now => fun moment session =>
      let coming := session.store.pending.filter (comesAt moment)
      let session := { session with
        store := { session.store with
          pending := afterMoment moment session.store.pending } }
      (coming.flatMap fun interruption => interruption.actions).foldl
        (perform (interruptWith depth now) now) session

/-- The interference of the pending interruptions.  An interruption is no longer
pending while its actions are carried out, so they nest no deeper than there are
interruptions. -/
def interrupt (now : Nat) : Interference InterruptedPool :=
  fun moment session => interruptWith session.store.pending.length now moment session

end InterruptedPool

end Polystore
