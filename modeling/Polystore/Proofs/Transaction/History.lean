import Mathlib.Data.List.DropRight
import Polystore.Transaction.Basic
import Polystore.Cluster.Node

/-!
# The history of a transaction

A transaction is called again and again, while others change the store behind it.  What reaches
the store follows from the history of the calls: a commit hands over the operations accepted since
the last start, in their order, and nothing is accepted after it until the next start.  So every
accepted operation is handed over once or never.
-/

namespace Polystore

/-- A value that has no stored form is an argument that cannot be used. -/
theorem Document.kind_of_withId {id : String} {value : Json} {cause : Error}
    (invalid : withId id value = .error cause) : cause.kind = .invalidArgument := by
  cases value with
  | object fields =>
      rw [withId] at invalid
      split at invalid
      · cases invalid
        rfl
      · contradiction
  | null | bool | number | string | array =>
      cases invalid
      rfl

namespace Transaction

variable {σ : Type}

/-! ## Calls -/

/-- What is asked of a transaction. -/
inductive Call where
  /-- Start, or start again with nothing staged. -/
  | start
  | put (collection id : String) (value : Json)
  | delete (collection id : String)
  | drop (collection : String)
  | commit
  | rollback

namespace Call

/-- A call that needs an active transaction. -/
def isGuarded : Call → Bool
  | put _ _ _ | delete _ _ | drop _ | commit => true
  | start | rollback => false

/-- A call after which nothing is staged. -/
def ends : Call → Bool
  | commit | rollback => true
  | start | put _ _ _ | delete _ _ | drop _ => false

def isStart : Call → Bool
  | start => true
  | put _ _ _ | delete _ _ | drop _ | commit | rollback => false

/-- The operation that a call asks to stage. -/
def operation? : Call → Option Operation
  | put collection id value => (Document.withId id value).toOption.map (.put collection id)
  | delete collection id => some (.delete collection id)
  | drop collection => some (.drop collection)
  | start | commit | rollback => none

/-- The answer to a call, and what it leaves of the transaction and the store. -/
def run (sink : Sink σ) (call : Call) (transaction : Transaction) (store : σ) :
    Outcome (Transaction × σ) Unit :=
  let beside (outcome : Outcome Transaction Unit) : Outcome (Transaction × σ) Unit :=
    (outcome.1, outcome.2, store)
  match call with
  | start => (.ok (), .start, store)
  | put collection id value => beside (transaction.put collection id value)
  | delete collection id => beside (transaction.delete collection id)
  | drop collection => beside (transaction.drop collection)
  | commit => transaction.commit sink store
  | rollback => (.ok (), transaction.rollback, store)

end Call

/-- A store that keeps a record of the batches handed to it. -/
def Sink.recorded (sink : Sink σ) : Sink (σ × List (List Operation)) :=
  fun operations (store, handed) =>
    let (result, store) := sink operations store
    (result, store, handed ++ [operations])

/-! ## Histories -/

/-- A call, with the transaction and the store that it found, its answer, and what it left. -/
structure Event (σ : Type) where
  call : Call
  before : Transaction × σ
  answer : Except Error Unit
  after : Transaction × σ
  /-- The batches that reached the store. -/
  handed : List (List Operation)

/-- What comes of a call. -/
def Call.meet (sink : Sink σ) (found : Transaction × σ) (call : Call) : Event σ :=
  let (answer, transaction, store, handed) := call.run sink.recorded found.1 (found.2, [])
  ⟨call, found, answer, (transaction, store), handed⟩

/-- The record that is kept changes neither the answer nor what a call leaves. -/
theorem meet_eq_run (sink : Sink σ) (found : Transaction × σ) (call : Call) :
    ((call.meet sink found).answer, (call.meet sink found).after) =
      call.run sink found.1 found.2 := by
  obtain ⟨⟨status, operations⟩, store⟩ := found
  cases call with
  | start => rfl
  | put collection id value => rfl
  | delete collection id => rfl
  | drop collection => rfl
  | rollback => rfl
  | commit =>
      rw [Call.meet, Call.run, Call.run, Transaction.commit, Transaction.commit]
      cases status with
      | committed => rfl
      | aborted => rfl
      | active =>
          cases operations with
          | nil => rfl
          | cons operation rest =>
              dsimp only
              rw [Sink.recorded]
              rcases sink (operation :: rest) store with ⟨_ | _, after⟩
              · rfl
              · rfl

namespace Event

/-- The operation that an event staged. -/
def accepted? (event : Event σ) : Option Operation :=
  if event.answer.isOk then event.call.operation? else none

/-- An event that was answered an error of some kind and changed nothing. -/
def Refused (event : Event σ) (kind : ErrorKind) : Prop :=
  (∃ cause, event.answer = .error cause ∧ cause.kind = kind) ∧ event.after = event.before

/-- A commit of what an active transaction has staged. -/
def Commits (event : Event σ) : Prop :=
  event.call = .commit ∧ event.before.1.status = .active ∧ event.before.1.operations ≠ []

end Event

/-- What happens in the life of a transaction. -/
inductive Step (σ : Type) where
  | call (asked : Call)
  /-- Others do something to the store. -/
  | meanwhile (change : σ → σ)

namespace Step

def events (sink : Sink σ) (found : Transaction × σ) : Step σ → List (Event σ)
  | call asked => [asked.meet sink found]
  | meanwhile _ => []

def leaves (sink : Sink σ) (found : Transaction × σ) : Step σ → Transaction × σ
  | call asked => (asked.meet sink found).after
  | meanwhile change => (found.1, change found.2)

end Step

/-- The events of some steps in order. -/
def history (sink : Sink σ) : List (Step σ) → Transaction × σ → List (Event σ)
  | [], _ => []
  | step :: rest, found => step.events sink found ++ history sink rest (step.leaves sink found)

/-- What some steps leave. -/
def remains (sink : Sink σ) (steps : List (Step σ)) (found : Transaction × σ) : Transaction × σ :=
  steps.foldl (fun found step => step.leaves sink found) found

/-- The events after the last start. -/
def sinceStart (events : List (Event σ)) : List (Event σ) :=
  events.rtakeWhile fun event => !event.call.isStart

/-- The operations accepted after the last start, in their order. -/
def accepted (events : List (Event σ)) : List Operation :=
  (sinceStart events).filterMap Event.accepted?

/-- Nothing has ended what was started last. -/
def Open (events : List (Event σ)) : Prop :=
  ∀ event ∈ sinceStart events, event.call.ends = false

instance (events : List (Event σ)) : Decidable (Open events) :=
  inferInstanceAs (Decidable (∀ event ∈ sinceStart events, event.call.ends = false))

/-- A commit before which something was accepted since the last start, and nothing has ended what
was started. -/
def HandsOver (earlier : List (Event σ)) (event : Event σ) : Prop :=
  event.call = .commit ∧ Open earlier ∧ accepted earlier ≠ []

theorem history_concat (sink : Sink σ) (steps : List (Step σ)) (step : Step σ)
    (found : Transaction × σ) :
    history sink (steps ++ [step]) found =
      history sink steps found ++ step.events sink (remains sink steps found) := by
  induction steps generalizing found with
  | nil => exact List.append_nil _
  | cons first rest ih =>
      rw [List.cons_append, history, ih, history, List.append_assoc]
      rfl

theorem remains_concat (sink : Sink σ) (steps : List (Step σ)) (step : Step σ)
    (found : Transaction × σ) :
    remains sink (steps ++ [step]) found = step.leaves sink (remains sink steps found) :=
  List.foldl_concat _ _ _ _

/-- Every event is a call that was made after some of the steps. -/
theorem exists_of_history_eq {sink : Sink σ} {steps : List (Step σ)} {found : Transaction × σ}
    {earlier later : List (Event σ)} {event : Event σ}
    (cut : history sink steps found = earlier ++ event :: later) :
    ∃ first asked, first ++ [.call asked] <+: steps ∧ history sink first found = earlier ∧
      asked.meet sink (remains sink first found) = event := by
  induction steps generalizing found earlier with
  | nil => exact absurd cut (by simp [history])
  | cons step rest ih =>
      cases step with
      | meanwhile change =>
          obtain ⟨first, asked, inside, before, met⟩ := ih cut
          exact ⟨.meanwhile change :: first, asked, List.cons_prefix_cons.mpr ⟨rfl, inside⟩, before,
            met⟩
      | call asked =>
          cases earlier with
          | nil =>
              obtain ⟨rfl, rfl⟩ := List.cons.inj cut
              exact ⟨[], asked, List.cons_prefix_cons.mpr ⟨rfl, List.nil_prefix⟩, rfl, rfl⟩
          | cons head earlier =>
              obtain ⟨rfl, tail⟩ := List.cons.inj cut
              obtain ⟨first, last, inside, rfl, met⟩ := ih tail
              exact ⟨.call asked :: first, last, List.cons_prefix_cons.mpr ⟨rfl, inside⟩, rfl, met⟩

theorem sinceStart_concat (events : List (Event σ)) (event : Event σ) :
    sinceStart (events ++ [event]) =
      if event.call.isStart then [] else sinceStart events ++ [event] := by
  rw [sinceStart, List.rtakeWhile_concat]
  cases event.call.isStart with
  | false => rfl
  | true => rfl

theorem accepted_concat (events : List (Event σ)) (event : Event σ) :
    accepted (events ++ [event]) =
      if event.call.isStart then [] else accepted events ++ event.accepted?.toList := by
  rw [accepted, sinceStart_concat]
  split
  · rfl
  · rw [List.filterMap_append, accepted]
    cases taken : event.accepted? with
    | none =>
        rw [List.filterMap_cons_none taken]
        rfl
    | some operation =>
        rw [List.filterMap_cons_some taken]
        rfl

/-! ## What a call can come to -/

inductive Conducted (sink : Sink σ) : Event σ → Prop where
  | started (transaction : Transaction) (store : σ) :
      Conducted sink ⟨.start, (transaction, store), .ok (), (.start, store), []⟩
  | rolledBack (transaction : Transaction) (store : σ) :
      Conducted sink ⟨.rollback, (transaction, store), .ok (), (⟨.aborted, []⟩, store), []⟩
  | inactive {call : Call} {transaction : Transaction} (guarded : call.isGuarded = true)
      (status : transaction.status ≠ .active) (store : σ) :
      Conducted sink ⟨call, (transaction, store), .error (.notActive transaction.status),
        (transaction, store), []⟩
  | unfit {id : String} {value : Json} {cause : Error}
      (invalid : Document.withId id value = .error cause) (collection : String)
      (operations : List Operation) (store : σ) :
      Conducted sink ⟨.put collection id value, (⟨.active, operations⟩, store), .error cause,
        (⟨.active, operations⟩, store), []⟩
  | staged {call : Call} {operation : Operation} (asks : call.operation? = some operation)
      (operations : List Operation) (store : σ) :
      Conducted sink ⟨call, (⟨.active, operations⟩, store), .ok (),
        (⟨.active, operations ++ [operation]⟩, store), []⟩
  | idle (store : σ) :
      Conducted sink ⟨.commit, (⟨.active, []⟩, store), .ok (), (⟨.committed, []⟩, store), []⟩
  | carriedOut {operations : List Operation} {store after : σ} (some : operations ≠ [])
      (done : sink operations store = (.ok (), after)) :
      Conducted sink ⟨.commit, (⟨.active, operations⟩, store), .ok (),
        (⟨.committed, []⟩, after), [operations]⟩
  | failed {operations : List Operation} {store after : σ} {cause : Error} (some : operations ≠ [])
      (refused : sink operations store = (.error cause, after)) :
      Conducted sink ⟨.commit, (⟨.active, operations⟩, store), .error cause,
        (⟨.aborted, []⟩, after), [operations]⟩

/-- A call that stages an operation does so if the transaction is active. -/
theorem conducted_stage (sink : Sink σ) {call : Call} {operation : Operation}
    (asks : call.operation? = some operation) (guarded : call.isGuarded = true)
    (transaction : Transaction) (store : σ) :
    Conducted sink ⟨call, (transaction, store), (transaction.stage operation).1,
      ((transaction.stage operation).2, store), []⟩ := by
  obtain ⟨status, operations⟩ := transaction
  cases status with
  | active => exact .staged asks operations store
  | committed => exact .inactive guarded (by rintro ⟨⟩) store
  | aborted => exact .inactive guarded (by rintro ⟨⟩) store

theorem conducted_put (sink : Sink σ) (collection id : String) (value : Json)
    (transaction : Transaction) (store : σ) :
    Conducted sink ⟨.put collection id value, (transaction, store),
      (transaction.put collection id value).1, ((transaction.put collection id value).2, store),
      []⟩ := by
  obtain ⟨status, operations⟩ := transaction
  cases status with
  | active =>
      rw [Transaction.put]
      cases form : Document.withId id value with
      | ok stored =>
          apply conducted_stage sink _ rfl
          rw [Call.operation?, form]
          rfl
      | error cause => exact .unfit form collection operations store
  | committed => exact .inactive rfl (by rintro ⟨⟩) store
  | aborted => exact .inactive rfl (by rintro ⟨⟩) store

theorem conducted_commit (sink : Sink σ) (transaction : Transaction) (store : σ) :
    Conducted sink (Call.commit.meet sink (transaction, store)) := by
  obtain ⟨status, operations⟩ := transaction
  rw [Call.meet, Call.run, Transaction.commit]
  cases status with
  | active =>
      cases operations with
      | nil => exact .idle store
      | cons operation rest =>
          dsimp only
          rw [Sink.recorded]
          dsimp only
          rcases done : sink (operation :: rest) store with ⟨_ | _, after⟩
          · exact .failed (List.cons_ne_nil _ _) done
          · exact .carriedOut (List.cons_ne_nil _ _) done
  | committed => exact .inactive rfl (by rintro ⟨⟩) store
  | aborted => exact .inactive rfl (by rintro ⟨⟩) store

theorem conducted_meet (sink : Sink σ) (call : Call) (found : Transaction × σ) :
    Conducted sink (call.meet sink found) := by
  obtain ⟨transaction, store⟩ := found
  cases call with
  | start => exact .started transaction store
  | put collection id value => exact conducted_put sink collection id value transaction store
  | delete collection id => exact conducted_stage sink rfl rfl transaction store
  | drop collection => exact conducted_stage sink rfl rfl transaction store
  | commit => exact conducted_commit sink transaction store
  | rollback => exact .rolledBack transaction store

namespace Conducted

variable {sink : Sink σ} {event : Event σ}

/-- An active transaction takes every operation that it is asked to stage. -/
theorem accepts (conducted : Conducted sink event) {operation : Operation}
    (asks : event.call.operation? = some operation) (status : event.before.1.status = .active) :
    event.accepted? = some operation := by
  cases conducted with
  | started transaction store => cases asks
  | rolledBack transaction store => cases asks
  | inactive guarded inactive store => exact absurd status inactive
  | unfit invalid collection operations store =>
      rw [Call.operation?, invalid] at asks
      cases asks
  | staged asked operations store => exact asks
  | idle store => cases asks
  | carriedOut some done => cases asks
  | failed some refused => cases asks

/-- A call that needs an active transaction is refused by any other. -/
theorem refused_of_inactive (conducted : Conducted sink event)
    (guarded : event.call.isGuarded = true) (status : event.before.1.status ≠ .active) :
    event.Refused .invalidState := by
  cases conducted with
  | started transaction store => contradiction
  | rolledBack transaction store => contradiction
  | inactive guarded status store => exact ⟨⟨_, rfl, rfl⟩, rfl⟩
  | unfit invalid collection operations store => exact absurd rfl status
  | staged asks operations store => exact absurd rfl status
  | idle store => exact absurd rfl status
  | carriedOut some done => exact absurd rfl status
  | failed some refused => exact absurd rfl status

/-- A put of a value that has no stored form is refused by an active transaction. -/
theorem refused_of_unfit (conducted : Conducted sink event) {collection id : String} {value : Json}
    (asked : event.call = .put collection id value) (status : event.before.1.status = .active)
    (unfit : (Document.withId id value).isOk = false) : event.Refused .invalidArgument := by
  cases conducted with
  | started transaction store => cases asked
  | rolledBack transaction store => cases asked
  | inactive guarded inactive store => exact absurd status inactive
  | unfit invalid collection operations store =>
      cases asked
      exact ⟨⟨_, rfl, Document.kind_of_withId invalid⟩, rfl⟩
  | staged asks operations store =>
      cases asked
      rw [Call.operation?] at asks
      cases form : Document.withId id value with
      | ok stored =>
          rw [form] at unfit
          contradiction
      | error cause =>
          rw [form] at asks
          contradiction
  | idle store => cases asked
  | carriedOut some done => cases asked
  | failed some refused => cases asked

/-- A commit of something hands all of it to the store at once. -/
theorem handed_of_commits (conducted : Conducted sink event) (commits : event.Commits) :
    event.handed = [event.before.1.operations] := by
  obtain ⟨asked, status, some⟩ := commits
  cases conducted with
  | started transaction store => cases asked
  | rolledBack transaction store => cases asked
  | inactive guarded inactive store => exact absurd status inactive
  | unfit invalid collection operations store => cases asked
  | staged asks operations store =>
      cases asked
      contradiction
  | idle store => exact absurd rfl some
  | carriedOut some done => rfl
  | failed some refused => rfl

/-- Nothing else reaches the store. -/
theorem handed_of_not_commits (conducted : Conducted sink event) (keeps : ¬event.Commits) :
    event.handed = [] ∧ event.after.2 = event.before.2 := by
  cases conducted with
  | started transaction store => exact ⟨rfl, rfl⟩
  | rolledBack transaction store => exact ⟨rfl, rfl⟩
  | inactive guarded inactive store => exact ⟨rfl, rfl⟩
  | unfit invalid collection operations store => exact ⟨rfl, rfl⟩
  | staged asks operations store => exact ⟨rfl, rfl⟩
  | idle store => exact ⟨rfl, rfl⟩
  | carriedOut some done => exact absurd ⟨rfl, rfl, some⟩ keeps
  | failed some refused => exact absurd ⟨rfl, rfl, some⟩ keeps

end Conducted

/-! ## What is staged -/

/-- A transaction is active until a call ends it.  What an active transaction has staged is what
was accepted since the last start, and no other transaction has anything staged.  What was handed
over and what is staged was accepted before, in this order. -/
structure Tallies (events : List (Event σ)) (transaction : Transaction) : Prop where
  active_iff : transaction.status = .active ↔ Open events
  staged : transaction.status = .active → transaction.operations = accepted events
  empty : transaction.status ≠ .active → transaction.operations = []
  once : ((events.flatMap Event.handed).flatten ++ transaction.operations).Sublist
    (events.filterMap Event.accepted?)

theorem tallies_start : Tallies ([] : List (Event σ)) .start where
  active_iff := iff_of_true rfl (List.forall_mem_nil _)
  staged _ := rfl
  empty inactive := absurd rfl inactive
  once := .refl _

section

variable {sink : Sink σ} {events : List (Event σ)} {event : Event σ}

/-- What an event hands over and leaves staged was staged before, or accepted by the event. -/
theorem once_concat (tallies : Tallies events event.before.1)
    (moved : (event.handed.flatten ++ event.after.1.operations).Sublist
      (event.before.1.operations ++ event.accepted?.toList)) :
    (((events ++ [event]).flatMap Event.handed).flatten ++ event.after.1.operations).Sublist
      ((events ++ [event]).filterMap Event.accepted?) := by
  have last : [event].filterMap Event.accepted? = event.accepted?.toList := by
    cases taken : event.accepted? with
    | none => exact List.filterMap_cons_none taken
    | some operation => exact List.filterMap_cons_some taken
  rw [List.flatMap_append, List.flatMap_singleton, List.flatten_append, List.append_assoc,
    List.filterMap_append, last]
  refine ((List.Sublist.refl _).append moved).trans ?_
  rw [← List.append_assoc]
  exact tallies.once.append (.refl _)

/-- A start opens what any other call leaves open if it does not end it. -/
theorem open_concat_iff : Open (events ++ [event]) ↔
    event.call.isStart = true ∨ (Open events ∧ event.call.ends = false) := by
  rw [Open, sinceStart_concat]
  cases event.call.isStart with
  | true => exact iff_of_true (List.forall_mem_nil _) (Or.inl rfl)
  | false =>
      rw [if_neg Bool.false_ne_true, List.forall_mem_append, List.forall_mem_singleton]
      exact (or_iff_right Bool.false_ne_true).symm

/-- What a call ends is not open. -/
theorem not_open_concat (goesOn : event.call.isStart = false) (ends : event.call.ends = true) :
    ¬Open (events ++ [event]) := by
  rw [open_concat_iff, goesOn, ends]
  rintro (⟨⟨⟩⟩ | ⟨-, ⟨⟩⟩)

/-- A call that stages an operation neither starts nor ends anything. -/
theorem not_ends_of_operation? {call : Call} {operation : Operation}
    (asks : call.operation? = some operation) : call.isStart = false ∧ call.ends = false := by
  cases call with
  | put collection id value => exact ⟨rfl, rfl⟩
  | delete collection id => exact ⟨rfl, rfl⟩
  | drop collection => exact ⟨rfl, rfl⟩
  | start => cases asks
  | commit => cases asks
  | rollback => cases asks

/-- Every event keeps the tally. -/
theorem Tallies.concat (tallies : Tallies events event.before.1)
    (conducted : Conducted sink event) : Tallies (events ++ [event]) event.after.1 := by
  cases conducted with
  | started transaction store =>
      constructor
      · exact iff_of_true rfl (open_concat_iff.mpr (Or.inl rfl))
      · intro _
        rw [accepted_concat]
        rfl
      · exact fun inactive => absurd rfl inactive
      · exact once_concat tallies (List.nil_sublist _)
  | rolledBack transaction store =>
      exact ⟨iff_of_false (by rintro ⟨⟩) (not_open_concat rfl rfl), by rintro ⟨⟩, fun _ => rfl,
        once_concat tallies (List.nil_sublist _)⟩
  | @inactive call transaction guarded inactive store =>
      have goesOn : call.isStart = false := by
        cases call with
        | start => contradiction
        | _ => rfl
      constructor
      · rw [open_concat_iff, goesOn, ← tallies.active_iff]
        exact iff_of_false inactive (by rintro (⟨⟨⟩⟩ | ⟨active, -⟩); exact inactive active)
      · exact fun active => absurd active inactive
      · exact tallies.empty
      · exact once_concat tallies (List.sublist_append_left _ _)
  | unfit invalid collection operations store =>
      constructor
      · exact iff_of_true rfl (open_concat_iff.mpr (Or.inr ⟨tallies.active_iff.mp rfl, rfl⟩))
      · intro active
        rw [accepted_concat, tallies.staged active]
        exact (List.append_nil _).symm
      · exact fun inactive => absurd rfl inactive
      · exact once_concat tallies (List.sublist_append_left _ _)
  | @staged call operation asks operations store =>
      obtain ⟨goesOn, unended⟩ := not_ends_of_operation? asks
      have taken : Event.accepted? (⟨call, (⟨.active, operations⟩, store), .ok (),
          (⟨.active, operations ++ [operation]⟩, store), []⟩ : Event σ) = some operation := asks
      constructor
      · exact iff_of_true rfl (open_concat_iff.mpr (Or.inr ⟨tallies.active_iff.mp rfl, unended⟩))
      · intro active
        rw [accepted_concat, taken, ← tallies.staged rfl]
        exact (if_neg (Bool.eq_false_iff.mp goesOn)).symm
      · exact fun inactive => absurd rfl inactive
      · apply once_concat tallies
        rw [taken]
        exact .refl _
  | idle store =>
      exact ⟨iff_of_false (by rintro ⟨⟩) (not_open_concat rfl rfl), by rintro ⟨⟩, fun _ => rfl,
        once_concat tallies (List.nil_sublist _)⟩
  | carriedOut some done =>
      exact ⟨iff_of_false (by rintro ⟨⟩) (not_open_concat rfl rfl), by rintro ⟨⟩, fun _ => rfl,
        once_concat tallies (by simp)⟩
  | failed some refused =>
      exact ⟨iff_of_false (by rintro ⟨⟩) (not_open_concat rfl rfl), by rintro ⟨⟩, fun _ => rfl,
        once_concat tallies (by simp)⟩

/-- What an active transaction hands over is what was accepted since it was started. -/
theorem Tallies.commits_iff (tallies : Tallies events event.before.1) :
    event.Commits ↔ HandsOver events event := by
  rw [Event.Commits, HandsOver, ← tallies.active_iff]
  apply and_congr_right
  intro _
  apply and_congr_right
  intro active
  rw [tallies.staged active]

end

/-- The tally is kept through the life of a transaction. -/
theorem tallies_history (sink : Sink σ) (steps : List (Step σ)) (store : σ) :
    Tallies (history sink steps (.start, store)) (remains sink steps (.start, store)).1 := by
  induction steps using List.reverseRecOn with
  | nil => exact tallies_start
  | append_singleton steps step ih =>
      rw [history_concat, remains_concat]
      cases step with
      | call asked => exact Tallies.concat ih (conducted_meet sink asked _)
      | meanwhile change =>
          rw [Step.events, List.append_nil]
          exact ih

/-- Whatever becomes of the store between the calls, accepted operations reach it at most once and
in their order.  Every call is answered as without a record.  A transaction is active from a start to the next commit or rollback, and it has
staged what was accepted since that start.  A commit of something by an active transaction hands
over one batch, of what was accepted since the last start, and no other call reaches the store.
An active transaction takes every operation that has a stored form, and refuses a put that has
none; another transaction refuses every call that needs an active one.  After a commit or a
rollback nothing is staged until the next start. -/
theorem hands_over_accepted_once (sink : Sink σ) (steps : List (Step σ)) (store : σ) :
    let events := history sink steps (.start, store)
    let transaction := (remains sink steps (.start, store)).1
    (events.flatMap Event.handed).flatten.Sublist (events.filterMap Event.accepted?) ∧
    (transaction.status = .active ↔ Open events) ∧
    (Open events → transaction.operations = accepted events) ∧
    (¬Open events → transaction.operations = []) ∧
    ∀ earlier event later, events = earlier ++ event :: later →
      (event.answer, event.after) = event.call.run sink event.before.1 event.before.2 ∧
      (event.before.1.status = .active ↔ Open earlier) ∧
      (HandsOver earlier event → event.handed = [accepted earlier]) ∧
      (¬HandsOver earlier event → event.handed = [] ∧ event.after.2 = event.before.2) ∧
      (∀ operation, event.call.operation? = some operation → event.before.1.status = .active →
        event.accepted? = some operation) ∧
      (event.call.isGuarded = true → event.before.1.status ≠ .active →
        event.Refused .invalidState) ∧
      (∀ collection id value, event.call = .put collection id value →
        event.before.1.status = .active → (Document.withId id value).isOk = false →
          event.Refused .invalidArgument) := by
  intro events transaction
  have tallies : Tallies events transaction := tallies_history sink steps store
  refine ⟨(List.sublist_append_left _ _).trans tallies.once, tallies.active_iff, ?_, ?_, ?_⟩
  · intro still
    exact tallies.staged (tallies.active_iff.mpr still)
  · intro ended
    exact tallies.empty (mt tallies.active_iff.mp ended)
  · intro earlier event later cut
    obtain ⟨first, asked, -, rfl, rfl⟩ := exists_of_history_eq cut
    have conducted := conducted_meet sink asked (remains sink first (.start, store))
    have before : Tallies _ (asked.meet sink (remains sink first (.start, store))).before.1 :=
      tallies_history sink first store
    refine ⟨meet_eq_run sink _ asked, before.active_iff, ?_, ?_, fun operation => conducted.accepts,
      conducted.refused_of_inactive, ?_⟩
    · intro hands
      have commits := before.commits_iff.mpr hands
      rw [conducted.handed_of_commits commits, ← before.staged commits.2.1]
    · intro keeps
      exact conducted.handed_of_not_commits (mt before.commits_iff.mp keeps)
    · intro collection id value
      exact conducted.refused_of_unfit

/-- Over one node: a value without a stored form is refused; what is staged is handed over once,
and a second commit is refused; after a new start, what is committed while the node is offline
is handed over too, and nothing of it is kept. -/
theorem hands_over_once_to_node :
    let steps : List (Step Node) := [
      .call (.put "c" "a" (.object [])), .call (.put "c" "b" .null), .call (.delete "c" "b"),
      .call .commit, .call .commit, .call .start, .call (.drop "c"),
      .meanwhile (fun node => node.setOffline true), .call .commit]
    let node : Node := { address := "here" }
    let events := history Node.commit steps (.start, node)
    (events.flatMap Event.handed).flatten.Sublist (events.filterMap Event.accepted?) ∧
    (remains Node.commit steps (.start, node)).1.operations = [] ∧
    (∃ event ∈ events[1]?, event.Refused .invalidArgument) ∧
    (∃ event ∈ events[2]?, event.accepted? = some (.delete "c" "b") ∧ event.handed = []) ∧
    (∃ event ∈ events[3]?, event.handed = [accepted (events.take 3)]) ∧
    (∃ event ∈ events[4]?, event.Refused .invalidState) ∧
    ∃ event ∈ events[7]?, event.handed = [accepted (events.take 7)] := by
  intro steps node events
  obtain ⟨once, -, -, ended, each⟩ := hands_over_accepted_once Node.commit steps node
  refine ⟨once, ?_, ?_, ?_, ?_, ?_, ?_⟩
  · exact ended (by decide +kernel)
  · exact ⟨_, rfl, (each (events.take 1) _ (events.drop 2) rfl).2.2.2.2.2.2 _ _ _ rfl rfl rfl⟩
  · obtain ⟨-, -, -, keeps, accepts, -⟩ := each (events.take 2) _ (events.drop 3) rfl
    exact ⟨_, rfl, accepts _ rfl rfl, (keeps (by rintro ⟨⟨⟩, -⟩)).1⟩
  · exact ⟨_, rfl, (each (events.take 3) _ (events.drop 4) rfl).2.2.1
      ⟨rfl, by decide +kernel, List.cons_ne_nil _ _⟩⟩
  · exact ⟨_, rfl, (each (events.take 4) _ (events.drop 5) rfl).2.2.2.2.2.1 rfl (by rintro ⟨⟩)⟩
  · exact ⟨_, rfl, (each (events.take 7) _ (events.drop 8) rfl).2.2.1
      ⟨rfl, by decide +kernel, List.cons_ne_nil _ _⟩⟩

end Transaction

end Polystore
