import Polystore.Proofs.Cluster.Shared
import Polystore.Proofs.Store.Collections
import Polystore.Proofs.Transaction.History

/-!
# What the status of a transaction tells

Over a store that carries out all operations or none, a committed transaction has had its
operations carried out, and the calls of an aborted one have changed nothing.  One call breaks
this: the rollback of a committed transaction leaves it aborted, while its operations stay.

A cluster is such a store, unless a collection is dropped while two segments share a node.  A
folder is one where the way back through `..` in its root leads somewhere, and where there is
room for the draft of every document that is deleted.
-/

namespace Polystore

namespace Transaction

variable {σ : Type}

/-- A call that needs an active transaction neither starts one nor rolls one back. -/
theorem Call.plain_of_isGuarded {call : Call} (guarded : call.isGuarded = true) :
    call.isStart = false ∧ call ≠ .rollback := by
  cases call with
  | put collection id value => exact ⟨rfl, nofun⟩
  | delete collection id => exact ⟨rfl, nofun⟩
  | drop collection => exact ⟨rfl, nofun⟩
  | commit => exact ⟨rfl, nofun⟩
  | start => cases guarded
  | rollback => cases guarded

/-! ## Operations that were carried out -/

/-- No call since the last start has changed the store. -/
def Unapplied (same : σ → σ → Prop) (events : List (Event σ)) : Prop :=
  ∀ event ∈ sinceStart events, same event.before.2 event.after.2

/-- A commit since the last start has carried out all operations accepted since then. -/
def Applied (performs : List Operation → σ → σ → Prop) (events : List (Event σ)) : Prop :=
  ∃ event ∈ sinceStart events, event.call = .commit ∧ event.answer = .ok () ∧
    performs (accepted events) event.before.2 event.after.2

/-- A transaction was rolled back that was committed already. -/
def Event.Overrules (event : Event σ) : Prop :=
  event.call = .rollback ∧ event.before.1.status = .committed

/-- Since the last start a transaction was rolled back that was committed already. -/
def Overruled (events : List (Event σ)) : Prop :=
  ∃ event ∈ sinceStart events, event.Overrules

/-- What the status of a transaction tells of the operations accepted since the last start. -/
structure Told (same : σ → σ → Prop) (performs : List Operation → σ → σ → Prop)
    (events : List (Event σ)) (status : Status) : Prop where
  committed : status = .committed → Applied performs events
  aborted : status = .aborted → ¬Overruled events → Unapplied same events
  overruled : status = .aborted → Overruled events → Applied performs events

/-- A store that carries out the operations it admits all together, or changes nothing. -/
structure Atomic (sink : Sink σ) (fit : σ → Prop) (admits : Operation → Prop)
    (same : σ → σ → Prop) (performs : List Operation → σ → σ → Prop) : Prop where
  stays : ∀ {operations store}, fit store → fit (sink operations store).2
  refuses : ∀ {operations store after cause}, fit store →
    (∀ operation ∈ operations, admits operation) →
      sink operations store = (.error cause, after) → same store after
  carriesOut : ∀ {operations store after}, fit store →
    (∀ operation ∈ operations, admits operation) →
      sink operations store = (.ok (), after) → performs operations store after
  refl : ∀ store, same store store
  nothing : ∀ store, performs [] store store

section

variable {same : σ → σ → Prop} {performs : List Operation → σ → σ → Prop}
  {events : List (Event σ)} {event : Event σ}

theorem Unapplied.concat (unapplied : Unapplied same events)
    (kept : same event.before.2 event.after.2) : Unapplied same (events ++ [event]) := by
  intro later member
  rw [sinceStart_concat] at member
  split at member
  · contradiction
  · rcases List.mem_append.mp member with before | here
    · exact unapplied later before
    · rw [List.mem_singleton.mp here]
      exact kept

/-- What was carried out stays so, as long as no more is accepted. -/
theorem Applied.concat (applied : Applied performs events) (goesOn : event.call.isStart = false)
    (takes : event.accepted? = none) : Applied performs (events ++ [event]) := by
  obtain ⟨commit, member, asked, answered, performed⟩ := applied
  refine ⟨commit, ?_, asked, answered, ?_⟩
  · rw [sinceStart_concat, goesOn]
    exact List.mem_append_left _ member
  · rw [accepted_concat, goesOn, takes]
    exact (List.append_nil (accepted events)).symm ▸ performed

/-- A commit that succeeds carries out what was accepted before it. -/
theorem told_of_commit (asked : event.call = .commit) (answered : event.answer = .ok ())
    (performed : performs (accepted events) event.before.2 event.after.2) :
    Told same performs (events ++ [event]) .committed := by
  have takes : event.accepted? = none := by
    rw [Event.accepted?, asked]
    exact ite_self none
  refine ⟨fun _ => ⟨event, ?_, asked, answered, ?_⟩, nofun, nofun⟩
  · rw [sinceStart_concat, asked]
    exact List.mem_append_right _ (List.mem_singleton_self event)
  · rw [accepted_concat, asked, takes]
    exact (List.append_nil (accepted events)).symm ▸ performed

theorem overruled_concat (goesOn : event.call.isStart = false) :
    Overruled (events ++ [event]) ↔ Overruled events ∨ event.Overrules := by
  rw [Overruled, sinceStart_concat, goesOn]
  constructor
  · rintro ⟨later, member, overrules⟩
    rcases List.mem_append.mp member with before | here
    · exact Or.inl ⟨later, before, overrules⟩
    · rw [List.mem_singleton.mp here] at overrules
      exact Or.inr overrules
  · rintro (⟨later, before, overrules⟩ | overrules)
    · exact ⟨later, List.mem_append_left _ before, overrules⟩
    · exact ⟨event, List.mem_append_right _ (List.mem_singleton_self event), overrules⟩

/-- What a status tells is still true after a call that changes neither the status nor the
store. -/
theorem Told.concat {status : Status} (told : Told same performs events status)
    (goesOn : event.call.isStart = false) (takes : event.accepted? = none)
    (kept : same event.before.2 event.after.2) (plain : ¬event.Overrules) :
    Told same performs (events ++ [event]) status := by
  have overruled : Overruled (events ++ [event]) ↔ Overruled events := by
    rw [overruled_concat goesOn]
    exact or_iff_left plain
  constructor
  · exact fun committed => (told.committed committed).concat goesOn takes
  · intro aborted clear
    exact (told.aborted aborted (mt overruled.mpr clear)).concat kept
  · intro aborted late
    exact (told.overruled aborted (overruled.mp late)).concat goesOn takes

/-- While a transaction is active, its calls have changed nothing. -/
theorem told_of_active (events : List (Event σ)) : Told same performs events .active where
  committed := nofun
  aborted := nofun
  overruled := nofun

end

/-! ## Runs -/

/-- The store is fit, what is staged is admitted, and the status tells what became of what was
accepted. -/
structure Fated (fit : σ → Prop) (admits : Operation → Prop) (same : σ → σ → Prop)
    (performs : List Operation → σ → σ → Prop) (events : List (Event σ))
    (found : Transaction × σ) : Prop where
  fit : fit found.2
  admitted : ∀ operation ∈ found.1.operations, admits operation
  active : found.1.status = .active → ¬Overruled events ∧ Unapplied same events
  told : Told same performs events found.1.status

section

variable {sink : Sink σ} {fit : σ → Prop} {admits : Operation → Prop} {same : σ → σ → Prop}
  {performs : List Operation → σ → σ → Prop}

/-- After a call that starts anew, nothing has been accepted yet. -/
theorem sinceStart_of_start (events : List (Event σ)) {event : Event σ}
    (asked : event.call = .start) : sinceStart (events ++ [event]) = [] := by
  rw [sinceStart_concat, asked]
  rfl

/-- A transaction that has ended has nothing staged. -/
theorem fated_of_ended {events : List (Event σ)} {status : Status} {store : σ} (sound : fit store)
    (ended : status ≠ .active) (told : Told same performs events status) :
    Fated fit admits same performs events (⟨status, []⟩, store) where
  fit := sound
  admitted _ member := absurd member List.not_mem_nil
  active active := absurd active ended
  told := told

namespace Fated

variable {events : List (Event σ)} {event : Event σ}

/-- A call that meets an active transaction and leaves the store alone has changed nothing. -/
theorem stay (fated : Fated fit admits same performs events event.before)
    (active : event.before.1.status = .active) (goesOn : event.call.isStart = false)
    (kept : same event.before.2 event.after.2) :
    ¬Overruled (events ++ [event]) ∧ Unapplied same (events ++ [event]) := by
  obtain ⟨clear, unapplied⟩ := fated.active active
  refine ⟨?_, unapplied.concat kept⟩
  rw [overruled_concat goesOn]
  rintro (before | ⟨-, committed⟩)
  · exact clear before
  · rw [active] at committed
    contradiction

/-- If it aborts the transaction, the status tells so. -/
theorem aborts (fated : Fated fit admits same performs events event.before)
    (active : event.before.1.status = .active) (goesOn : event.call.isStart = false)
    (kept : same event.before.2 event.after.2) :
    Told same performs (events ++ [event]) .aborted := by
  obtain ⟨clear, unapplied⟩ := fated.stay active goesOn kept
  exact ⟨nofun, fun _ _ => unapplied, fun _ late => absurd late clear⟩

/-- A rollback is too late for a transaction that is committed. -/
theorem rollsBack (fated : Fated fit admits same performs events event.before)
    (asked : event.call = .rollback) (kept : same event.before.2 event.after.2) :
    Told same performs (events ++ [event]) .aborted := by
  have goesOn : event.call.isStart = false := by rw [asked]; rfl
  have takes : event.accepted? = none := by
    rw [Event.accepted?, asked]
    exact ite_self none
  cases status : event.before.1.status with
  | active => exact fated.aborts status goesOn kept
  | committed =>
      have late : Overruled (events ++ [event]) :=
        (overruled_concat goesOn).mpr (Or.inr ⟨asked, status⟩)
      have applied := (fated.told.committed status).concat goesOn takes
      exact ⟨nofun, fun _ clear => absurd late clear, fun _ _ => applied⟩
  | aborted =>
      have told := fated.told
      rw [status] at told
      refine told.concat goesOn takes kept ?_
      rintro ⟨-, committed⟩
      rw [status] at committed
      contradiction

/-- Every event of a transaction over an atomic store leaves a status that tells the truth. -/
theorem concat (atomic : Atomic sink fit admits same performs)
    (fated : Fated fit admits same performs events event.before)
    (tallies : Tallies events event.before.1) (conducted : Conducted sink event)
    (asks : ∀ operation, event.call.operation? = some operation → admits operation) :
    Fated fit admits same performs (events ++ [event]) event.after := by
  cases conducted with
  | started transaction store =>
      have fresh : sinceStart (events ++ [⟨.start, (transaction, store), .ok (), (.start, store),
          []⟩]) = [] := sinceStart_of_start events rfl
      refine ⟨fated.fit, fun _ member => absurd member List.not_mem_nil, fun _ => ?_,
        told_of_active _⟩
      rw [Overruled, Unapplied, fresh]
      exact ⟨by rintro ⟨later, ⟨⟩, -⟩, fun _ member => absurd member List.not_mem_nil⟩
  | rolledBack transaction store =>
      exact fated_of_ended fated.fit nofun (fated.rollsBack rfl (atomic.refl store))
  | inactive guarded status store =>
      have plain := Call.plain_of_isGuarded guarded
      exact ⟨fated.fit, fated.admitted, fun active => absurd active status,
        fated.told.concat plain.1 rfl (atomic.refl store) fun overrules => plain.2 overrules.1⟩
  | unfit invalid collection operations store =>
      exact ⟨fated.fit, fated.admitted, fun _ => fated.stay rfl rfl (atomic.refl store),
        told_of_active _⟩
  | staged asked operations store =>
      refine ⟨fated.fit, ?_, fun _ => ?_, told_of_active _⟩
      · rw [List.forall_mem_append]
        exact ⟨fated.admitted, List.forall_mem_singleton.mpr (asks _ asked)⟩
      · exact fated.stay rfl (not_ends_of_operation? asked).1 (atomic.refl store)
  | idle store =>
      have nothing : accepted events = [] := (tallies.staged rfl).symm
      refine fated_of_ended fated.fit nofun (told_of_commit rfl rfl ?_)
      rw [nothing]
      exact atomic.nothing store
  | @carriedOut operations store after some done =>
      have staged : operations = accepted events := tallies.staged rfl
      have sound : fit (sink operations store).2 := atomic.stays fated.fit
      rw [done] at sound
      refine fated_of_ended sound nofun (told_of_commit rfl rfl ?_)
      rw [← staged]
      exact atomic.carriesOut fated.fit fated.admitted done
  | @failed operations store after cause some refused =>
      have sound : fit (sink operations store).2 := atomic.stays fated.fit
      rw [refused] at sound
      have kept := atomic.refuses fated.fit fated.admitted refused
      exact fated_of_ended sound nofun (fated.aborts rfl rfl kept)

end Fated

end

end Transaction

/-! ## Clusters -/

namespace Cluster

variable {cluster after : Cluster} {operations : List Operation}

/-- A cluster whose two segments share a node loses a document that is put after the drop of
its collection: the share of the other segment drops it again. -/
example :
    let shared : Cluster := { segments := ["alpha", "alpha"] }
    let operations : List Operation := [.drop "c", .put "c" "a" .null]
    (commit operations shared).1.isOk = true ∧
      (commit operations shared).2.document? "c" "a" = none := by
  decide +kernel

end Cluster

/-! ## Folders -/

namespace FileStore

variable {folder : Folder} {disk : Disk}

end FileStore

/-! ## What the status tells -/

namespace Transaction

/-- The rollback of a committed transaction leaves it aborted, with its document in the
cluster. -/
theorem aborted_after_commit :
    let shelf : Cluster := { segments := ["db"] }
    let steps : List (Step Cluster) := [
      .call (.put "c" "a" (.object [])), .call .commit, .call .rollback]
    (remains Cluster.commit steps (.start, shelf)).1.status = .aborted ∧
      ¬Unapplied (· = ·) (history Cluster.commit steps (.start, shelf)) ∧
      (shelf.get "c" "a").isOk = false ∧
      ((remains Cluster.commit steps (.start, shelf)).2.get "c" "a").isOk = true := by
  intro shelf steps
  refine ⟨by decide +kernel, ?_, by decide +kernel, by decide +kernel⟩
  intro unapplied
  have absent : ∀ event ∈ sinceStart (history Cluster.commit steps (.start, shelf)),
      (event.before.2.get "c" "a").isOk = (event.after.2.get "c" "a").isOk := by
    intro event member
    rw [unapplied event member]
  exact absurd absent (by decide +kernel)

end Transaction

end Polystore
