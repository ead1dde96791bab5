import Polystore.Proofs.Writer.Batches

/-!
# Watched documents are independent

A watched document is known by one key, made of its collection and its id.  A step about a
document reads and changes what is kept under its key only, and every put that a step carries
out is the put of a document that is watched as the collection and the id that the put names.
All of this holds as long as different documents of a run have different keys; a separator
within a name can make two of them share one.
-/

namespace Polystore

/-! ## What steps name and what they do -/

/-- Different pairs of a collection and an id have different keys. -/
def KeysApart (pairs : List (String × String)) : Prop :=
  ∀ left ∈ pairs, ∀ right ∈ pairs,
    watchKey left.1 left.2 = watchKey right.1 right.2 → left = right

instance (pairs : List (String × String)) : Decidable (KeysApart pairs) :=
  inferInstanceAs (Decidable (∀ left ∈ pairs, ∀ right ∈ pairs,
    watchKey left.1 left.2 = watchKey right.1 right.2 → left = right))

/-- Every watched document is one of some pairs of a collection and an id. -/
def Watch.Within (pairs : List (String × String)) (watch : Watch) : Prop :=
  ∀ (key : String) (watched : Watched), watch.documents.get? key = some watched →
    (watched.collection, watched.id) ∈ pairs

/-- The session with a store that records what it carries out from now on. -/
def Session.recording {σ : Type} (session : Session σ) : Session (Recorded σ) :=
  session.map fun store => { store := store }

namespace WatchStep

variable {σ : Type}

/-- The collection and the id that a step names; a document is watched under the id it tells. -/
def pair? (session : Session σ) : WatchStep → Option (String × String)
  | watch collection handle _ | watchPut collection handle _ =>
      some (collection, (session.document handle).id)
  | update collection id _ | updateForce collection id | stopWatch collection id =>
      some (collection, id)
  | share _ | mutate _ _ | sweep _ | setOffline _ _ => none

variable [DocumentStore σ]

/-- The result of a step; what cannot fail succeeds. -/
def result (session : Session σ) : WatchStep → Except Error Unit
  | watch collection handle now => (session.watchDocument collection handle now).1
  | watchPut collection handle now => (session.watchPut Session.quiet collection handle now).1
  | update collection id now => (session.update collection id now).1
  | updateForce collection id => (session.updateForce Session.quiet collection id).1
  | share _ | mutate _ _ | stopWatch _ _ | sweep _ | setOffline _ _ => .ok ()

variable [Networked σ]

/-- The operations that the store carries out in a step. -/
def carriedOut (step : WatchStep) (session : Session σ) : List Operation :=
  (step.run session.recording).store.operations

/-- The pairs that the steps of a run name. -/
def pairsOf : List WatchStep → Session σ → List (String × String)
  | [], _ => []
  | step :: rest, session => (step.pair? session).toList ++ pairsOf rest (step.run session)

end WatchStep

/-! ## Other keys -/

namespace Session

variable {σ : Type} {key : String}

/-- Two sessions that differ at most in what is watched under one key. -/
structure AgreeExcept (key : String) (left right : Session σ) : Prop where
  store : left.store = right.store
  shared : left.shared = right.shared
  entries : ∀ other, other ≠ key →
    left.watch.documents.get? other = right.watch.documents.get? other

variable {left right : Session σ}

theorem AgreeExcept.document (agree : AgreeExcept key left right) :
    left.document = right.document := by
  funext handle
  rw [Session.document, Session.document, agree.shared]

/-- To forget a document changes nothing else. -/
theorem agreeExcept_stopWatch (session : Session σ) (collection id : String) :
    session.AgreeExcept (watchKey collection id) (session.stopWatch collection id) where
  store := rfl
  shared := rfl
  entries other differ := by
    rw [stopWatch, Watch.remove, Keyed.get?_erase, if_neg differ]

/-- Watching another document is answered alike, and nothing else becomes different. -/
theorem AgreeExcept.watchDocument (agree : AgreeExcept key left right) {collection : String}
    {handle : Nat} (other : watchKey collection (left.document handle).id ≠ key) (now : Nat) :
    (left.watchDocument collection handle now).1 = (right.watchDocument collection handle now).1 ∧
      AgreeExcept key (left.watchDocument collection handle now).2
        (right.watchDocument collection handle now).2 := by
  rw [Session.watchDocument, Session.watchDocument, onWatch, onWatch, ← agree.document, Watch.add,
    Watch.add, ← agree.entries _ other]
  cases left.watch.documents.get? (watchKey collection (left.document handle).id) with
  | some watched =>
      dsimp only
      split
      · exact ⟨rfl, agree.store, agree.shared, agree.entries⟩
      · exact ⟨rfl, agree.store, agree.shared, agree.entries⟩
  | none =>
      refine ⟨rfl, agree.store, agree.shared, ?_⟩
      intro asked differ
      dsimp only
      rw [Keyed.get?_insert, Keyed.get?_insert, agree.entries asked differ]

/-- A forced put of another document is answered alike. -/
theorem AgreeExcept.updateForce [DocumentStore σ] (agree : AgreeExcept key left right)
    {collection id : String} (other : watchKey collection id ≠ key) :
    (left.updateForce quiet collection id).1 = (right.updateForce quiet collection id).1 := by
  rw [Session.updateForce, Session.updateForce, ← agree.entries _ other]
  cases left.watch.documents.get? (watchKey collection id) with
  | none => rfl
  | some watched =>
      dsimp only [quiet]
      rw [← agree.document, ← agree.store]
      rcases DocumentStore.put collection id (left.document watched.handle).content left.store with
        ⟨cause | done, store⟩
      · rfl
      · rfl

theorem get?_watchDocument_of_ne (session : Session σ) {collection : String} {handle : Nat}
    (other : watchKey collection (session.document handle).id ≠ key) (now : Nat) :
    (session.watchDocument collection handle now).2.watch.documents.get? key =
      session.watch.documents.get? key := by
  rw [watchDocument, onWatch, Watch.add]
  split
  · split <;> rfl
  · exact Keyed.get?_insert_of_ne _ _ (Ne.symm other)

theorem get?_updateForce_of_ne [DocumentStore σ] (session : Session σ) {collection id : String}
    (other : watchKey collection id ≠ key) :
    (session.updateForce quiet collection id).2.watch.documents.get? key =
      session.watch.documents.get? key := by
  rcases session.watch_updateForce collection id with same | ⟨version, marked⟩
  · rw [same]
  · rw [marked, Watch.noteWritten, Watch.get?_adjust_of_ne _ _ (Ne.symm other)]

end Session

namespace WatchStep

variable {σ : Type} [DocumentStore σ] {key : String}

/-- A step that names a document has the same result whatever is watched under another key. -/
theorem result_of_agreeExcept {left right : Session σ} (agree : left.AgreeExcept key right)
    {step : WatchStep} {named : String × String} (names : step.pair? left = some named)
    (other : watchKey named.1 named.2 ≠ key) : step.result left = step.result right := by
  cases step with
  | watch collection handle now =>
      cases names
      exact (agree.watchDocument other now).1
  | watchPut collection handle now =>
      cases names
      obtain ⟨answer, after⟩ := agree.watchDocument other now
      have still : watchKey collection
          ((left.watchDocument collection handle now).2.document handle).id ≠ key := other
      rw [result, result, Session.watchPut, Session.watchPut]
      revert answer after still
      rcases left.watchDocument collection handle now with ⟨leftResult, leftAfter⟩
      rcases right.watchDocument collection handle now with ⟨rightResult, rightAfter⟩
      rintro (rfl : leftResult = rightResult) after still
      cases leftResult with
      | error cause => rfl
      | ok done =>
          dsimp only
          rw [← after.document]
          exact after.updateForce still
  | update collection id now =>
      cases names
      rw [result, result, Session.update, Session.update, Session.onWatch, Session.onWatch,
        Watch.update, Watch.update, Keyed.contains, Keyed.contains, ← agree.entries _ other]
      split <;> rfl
  | updateForce collection id =>
      cases names
      exact agree.updateForce other
  | stopWatch collection id => rfl
  | share document => contradiction
  | mutate handle document => contradiction
  | sweep now => contradiction
  | setOffline address offline => contradiction

/-- A step that names a document leaves what is watched under another key. -/
theorem get?_run_of_ne [Networked σ] {session : Session σ} {step : WatchStep}
    {named : String × String} (names : step.pair? session = some named)
    (other : watchKey named.1 named.2 ≠ key) :
    (step.run session).watch.documents.get? key = session.watch.documents.get? key := by
  cases step with
  | watch collection handle now =>
      cases names
      exact session.get?_watchDocument_of_ne other now
  | watchPut collection handle now =>
      cases names
      have watched := session.get?_watchDocument_of_ne other now
      have still : watchKey collection
          ((session.watchDocument collection handle now).2.document handle).id ≠ key := other
      rw [run, Session.watchPut, ← watched]
      revert still
      rcases session.watchDocument collection handle now with ⟨cause | done, after⟩
      · exact fun _ => rfl
      · exact fun still => after.get?_updateForce_of_ne still
  | update collection id now =>
      cases names
      rw [run, Session.update, Session.onWatch, Watch.update]
      split
      · exact Watch.get?_adjust_of_ne _ _ (Ne.symm other)
      · rfl
  | updateForce collection id =>
      cases names
      exact session.get?_updateForce_of_ne other
  | stopWatch collection id =>
      cases names
      rw [run, Session.stopWatch, Watch.remove, Keyed.get?_erase, if_neg (Ne.symm other)]
  | share document => contradiction
  | mutate handle document => contradiction
  | sweep now => contradiction
  | setOffline address offline => contradiction

end WatchStep

/-! ## What is watched -/

section

variable {σ : Type} {session : Session σ} {pairs : List (String × String)}

theorem Watch.Within.remarks {before after : Watch} (within : before.Within pairs)
    (remarks : before.Remarks after) : after.Within pairs := by
  intro key marked found
  obtain ⟨watched, before, same⟩ := remarks.exists_before found
  obtain ⟨collections, identities⟩ := Prod.mk.inj same
  rw [← collections, ← (Prod.mk.inj identities).1]
  exact within _ _ before

theorem Session.within_watchDocument (within : session.watch.Within pairs) {collection : String}
    {handle : Nat} (named : (collection, (session.document handle).id) ∈ pairs) (now : Nat) :
    (session.watchDocument collection handle now).2.watch.Within pairs := by
  intro key watched found
  rw [Session.watchDocument, Session.onWatch, Watch.add] at found
  split at found
  · split at found <;> exact within _ _ found
  · dsimp only at found
    rw [Keyed.get?_insert] at found
    split at found
    · cases found
      exact named
    · exact within _ _ found

variable [DocumentStore σ] [Networked σ]

/-- A step watches no other document than the one it names. -/
theorem WatchStep.run_within (keyed : session.watch.WellKeyed) (within : session.watch.Within pairs)
    {step : WatchStep} (named : ∀ pair ∈ step.pair? session, pair ∈ pairs) :
    (step.run session).watch.Within pairs := by
  cases step with
  | share document => exact within
  | mutate handle document => exact within
  | setOffline address offline => exact within
  | watch collection handle now => exact Session.within_watchDocument within (named _ rfl) now
  | watchPut collection handle now =>
      have watched := Session.within_watchDocument within (named _ rfl) now
      rw [run, Session.watchPut]
      revert watched
      rcases session.watchDocument collection handle now with ⟨cause | done, after⟩
      · exact id
      · exact fun watched => watched.remarks (Session.remarks_updateForce after collection _)
  | update collection id now => exact within.remarks (Watch.remarks_update collection id now _)
  | updateForce collection id =>
      exact within.remarks (Session.remarks_updateForce session collection id)
  | stopWatch collection id =>
      intro key watched found
      rw [run, Session.stopWatch, Watch.remove, Keyed.get?_erase] at found
      split at found
      · contradiction
      · exact within _ _ found
  | sweep now => exact within.remarks (Session.remarks_sweep keyed.ordered now)

theorem WatchStep.runAll_within (keyed : session.watch.WellKeyed)
    (within : session.watch.Within pairs) {steps : List WatchStep}
    (named : ∀ pair ∈ pairsOf steps session, pair ∈ pairs) :
    (runAll steps session).watch.Within pairs := by
  induction steps generalizing session with
  | nil => exact within
  | cons step rest ih =>
      refine ih (run_wellKeyed keyed step) (run_within keyed within ?_) ?_
      · exact fun pair member =>
          named pair (List.mem_append_left _ (Option.mem_toList.mpr member))
      · exact fun pair member => named pair (List.mem_append_right _ member)

end

/-! ## What is written -/

/-- A call is recorded if it succeeds. -/
theorem Recorded.mem_operations_call {σ α : Type} {operations : List Operation}
    {outcome : Outcome σ α} {state : Recorded σ} {operation : Operation}
    (member : operation ∈ (state.call operations outcome).2.operations) :
    operation ∈ state.operations ∨ operation ∈ operations := by
  rw [Recorded.call] at member
  dsimp only at member
  split at member
  · exact List.mem_append.mp member
  · exact Or.inl member

namespace Session

variable {σ : Type}

/-- A put of a watched document, as the application holds it, under the collection and the id
that it is watched as. -/
def PutsWatched (session : Session σ) (watch : Watch) (operation : Operation) : Prop :=
  ∃ (watched : Watched) (stored : Json),
    watch.documents.get? (watchKey watched.collection watched.id) = some watched ∧
    Document.withId watched.id (session.document watched.handle).content = .ok stored ∧
    operation = .put watched.collection watched.id stored

/-- The marks of a document do not tell what it puts. -/
theorem PutsWatched.remarks {session : Session σ} {before after : Watch}
    (remarks : before.Remarks after) {operation : Operation}
    (puts : session.PutsWatched before operation) : session.PutsWatched after operation := by
  obtain ⟨watched, stored, found, form, rfl⟩ := puts
  have same := remarks.identity (watchKey watched.collection watched.id)
  rw [found, Option.map_some, Option.map_eq_some_iff] at same
  obtain ⟨marked, foundAfter, same⟩ := same
  obtain ⟨collections, rest⟩ := Prod.mk.inj same
  obtain ⟨ids, handles⟩ := Prod.mk.inj rest
  refine ⟨marked, stored, ?_, ?_, ?_⟩
  · rw [collections, ids]
    exact foundAfter
  · rw [ids, handles]
    exact form
  · rw [collections, ids]

variable [DocumentStore σ] {session : Session σ}

/-- A batch puts the documents of its keys. -/
theorem mem_operations_commitBatches {recorded : Session (Recorded σ)}
    {batches : List (List String)} {state : Recorded σ} {operation : Operation}
    (member : operation ∈ (recorded.commitBatches batches state).2.operations) :
    operation ∈ state.operations ∨
      ∃ key ∈ batches.flatten, recorded.stagedPut key = some operation := by
  induction batches generalizing state with
  | nil => exact Or.inl member
  | cons batch rest ih =>
      have later : operation ∈ (recorded.commitBatches rest
          (DocumentStore.commit (batch.filterMap recorded.stagedPut) state).2).2.operations := by
        rw [commitBatches] at member
        dsimp only at member
        split at member
        · exact member
        · exact member
      rcases ih later with before | ⟨key, among, staged⟩
      · rcases Recorded.mem_operations_call before with before | here
        · exact Or.inl before
        · obtain ⟨key, among, staged⟩ := List.mem_filterMap.mp here
          exact Or.inr ⟨key, List.mem_append_left _ among, staged⟩
      · exact Or.inr ⟨key, List.mem_append_right _ among, staged⟩

/-- A sweep puts documents that are watched. -/
theorem putsWatched_of_sweep (keyed : session.watch.WellKeyed) (now : Nat)
    {operation : Operation}
    (member : operation ∈ (session.recording.sweep quiet now).2.store.operations) :
    session.PutsWatched session.watch operation := by
  cases time : session.recording.watch.deadline? now with
  | none =>
      rw [sweep_of_early time] at member
      contradiction
  | some deadline =>
      have recordedKeyed : session.recording.watch.WellKeyed := keyed
      by_cases ready : session.recording.watch.settings.HasRoom ∨
        session.recording.watch.due deadline = []
      case neg =>
        rw [not_or] at ready
        rw [sweep_of_not_hasRoom time ready.2 ready.1] at member
        contradiction
      obtain ⟨report, again, swept, -⟩ := exists_sweep recordedKeyed.ordered time ready
      rw [swept] at member
      rcases mem_operations_commitBatches member with before | ⟨key, -, staged⟩
      · contradiction
      · obtain ⟨watched, stored, found, form, rfl⟩ := exists_watched_of_stagedPut staged
        have own := keyed.own found
        exact ⟨watched, stored, own ▸ found, form, rfl⟩

/-- A forced put writes a document that is watched as the collection and the id of the put, if
no other document of the same key is. -/
theorem putsWatched_of_updateForce {pairs : List (String × String)} (apart : KeysApart pairs)
    (keyed : session.watch.WellKeyed) (within : session.watch.Within pairs)
    {collection id : String} (named : (collection, id) ∈ pairs) {operation : Operation}
    (member : operation ∈ (session.recording.updateForce quiet collection id).2.store.operations) :
    session.PutsWatched session.watch operation := by
  rw [updateForce] at member
  cases found : session.recording.watch.documents.get? (watchKey collection id) with
  | none =>
      rw [found] at member
      contradiction
  | some watched =>
      -- The put takes the pair that was asked for, so it has to be the pair that is watched.
      have own := apart _ named _ (within _ _ found) (keyed.own found)
      cases own
      rw [found] at member
      dsimp only [quiet] at member
      have put : operation ∈ (DocumentStore.put watched.collection watched.id
          (session.recording.document watched.handle).content
          session.recording.store).2.operations := by
        revert member
        rcases DocumentStore.put watched.collection watched.id
          (session.recording.document watched.handle).content session.recording.store with
          ⟨cause | done, store⟩
        · exact id
        · exact id
      have listed := (Recorded.mem_operations_call put).resolve_left List.not_mem_nil
      rw [Operation.forPut] at listed
      split at listed
      · next stored form =>
        exact ⟨watched, stored, found, form, List.mem_singleton.mp listed⟩
      · contradiction

end Session

/-- A step puts documents that are watched, as the application holds them before the step, under
the collections and ids that they are watched as. -/
theorem WatchStep.putsWatched_of_mem_carriedOut {σ : Type} [DocumentStore σ] [Networked σ]
    {session : Session σ} {pairs : List (String × String)} (apart : KeysApart pairs)
    (keyed : session.watch.WellKeyed) (within : session.watch.Within pairs) {step : WatchStep}
    (named : ∀ pair ∈ step.pair? session, pair ∈ pairs) {operation : Operation}
    (member : operation ∈ step.carriedOut session) :
    session.PutsWatched (step.run session).watch operation := by
  cases step with
  | share document => contradiction
  | mutate handle document => contradiction
  | setOffline address offline => contradiction
  | watch collection handle now => contradiction
  | update collection id now => contradiction
  | stopWatch collection id => contradiction
  | watchPut collection handle now =>
      have keyedAfter : (session.watchDocument collection handle now).2.watch.WellKeyed :=
        keyed.add collection _ handle now
      have withinAfter := Session.within_watchDocument within (named _ rfl) now
      have documents : (session.watchDocument collection handle now).2.document =
          session.document := rfl
      have recorded : session.recording.watchDocument collection handle now =
          ((session.watchDocument collection handle now).1,
            (session.watchDocument collection handle now).2.recording) := rfl
      rw [carriedOut, run, Session.watchPut, recorded] at member
      rw [run, Session.watchPut]
      revert member keyedAfter withinAfter documents
      rcases session.watchDocument collection handle now with ⟨cause | done, after⟩
      · intro member keyedAfter withinAfter documents
        contradiction
      · intro member keyedAfter withinAfter documents
        have again : (collection, (after.document handle).id) ∈ pairs := by
          rw [documents]
          exact named _ rfl
        have puts := Session.putsWatched_of_updateForce apart keyedAfter withinAfter again member
        have remarked := puts.remarks
          (Session.remarks_updateForce after collection (after.document handle).id)
        rw [Session.PutsWatched, ← documents]
        exact remarked
  | updateForce collection id =>
      exact (Session.putsWatched_of_updateForce apart keyed within (named _ rfl) member).remarks
        (Session.remarks_updateForce session collection id)
  | sweep now =>
      exact (Session.putsWatched_of_sweep keyed now member).remarks
        (Session.remarks_sweep keyed.ordered now)

/-! ## Independence -/

namespace WatchStep

variable {σ : Type}

/-- A session over a store in which nothing is watched yet. -/
def fresh (settings : WatchSettings) (store : σ) (shared : List SharedDocument) : Session σ where
  store := store
  watch := { settings := settings }
  shared := shared

theorem fresh_wellKeyed (settings : WatchSettings) (store : σ) (shared : List SharedDocument) :
    (fresh settings store shared).watch.WellKeyed where
  ordered := Keyed.sorted_nil
  own found := nomatch found

variable [DocumentStore σ] [Networked σ]

theorem pairsOf_append (steps more : List WatchStep) (session : Session σ) :
    pairsOf (steps ++ more) session =
      pairsOf steps session ++ pairsOf more (runAll steps session) := by
  induction steps generalizing session with
  | nil => rfl
  | cons step rest ih =>
      rw [List.cons_append, pairsOf, pairsOf, ih, List.append_assoc]
      rfl

/-- Watched documents are independent of each other while different documents have different
keys.  Wherever a run has come to, a step that names another document leaves a document watched
or not and dirty or not, and has the result that it would have whatever were watched as that
document.  What any step carries out are puts of documents that are watched, each under the
collection and the id that it is watched as. -/
theorem steps_independent {settings : WatchSettings} {store : σ} {shared : List SharedDocument}
    {steps : List WatchStep} {step : WatchStep} {collection id : String}
    (apart : KeysApart
      ((collection, id) :: pairsOf (steps ++ [step]) (fresh settings store shared))) :
    let session := runAll steps (fresh settings store shared)
    (∀ named, step.pair? session = some named → named ≠ (collection, id) →
      (step.run session).watch.isWatched collection id = session.watch.isWatched collection id ∧
      (step.run session).watch.isDirty collection id = session.watch.isDirty collection id ∧
      ∀ other, session.AgreeExcept (watchKey collection id) other →
        step.result session = step.result other) ∧
    ∀ operation ∈ step.carriedOut session,
      session.PutsWatched (step.run session).watch operation := by
  intro session
  let pairs := (collection, id) :: pairsOf (steps ++ [step]) (fresh settings store shared)
  have earlier : ∀ pair ∈ pairsOf steps (fresh settings store shared), pair ∈ pairs := by
    intro pair member
    refine List.mem_cons_of_mem _ ?_
    rw [pairsOf_append]
    exact List.mem_append_left _ member
  have here : ∀ pair ∈ step.pair? session, pair ∈ pairs := by
    intro pair member
    refine List.mem_cons_of_mem _ ?_
    rw [pairsOf_append]
    exact List.mem_append_right _ (List.mem_append_left _ (Option.mem_toList.mpr member))
  have start := fresh_wellKeyed settings store shared
  have nothing : (fresh settings store shared).watch.Within pairs := fun _ _ found => nomatch found
  have keyed : session.watch.WellKeyed := runAll_wellKeyed start steps
  have within : session.watch.Within pairs := runAll_within start nothing earlier
  constructor
  · intro named names differ
    have other : watchKey named.1 named.2 ≠ watchKey collection id := fun same =>
      differ (apart named (here named names) (collection, id) List.mem_cons_self same)
    have still := get?_run_of_ne names other
    refine ⟨?_, ?_, fun _ agree => result_of_agreeExcept agree names other⟩
    · rw [Watch.isWatched, Watch.isWatched, Keyed.contains, Keyed.contains, still]
    · rw [Watch.isDirty, Watch.isDirty, still]
  · exact fun operation member => putsWatched_of_mem_carriedOut apart keyed within here member

/-- Two watched documents whose names hold the separator, in a run with a sweep. -/
theorem independent_with_separators :
    let shared : List SharedDocument :=
      [⟨"b$c", .object [("n", Json.ofInt 1)]⟩, ⟨"d", .object [("n", Json.ofInt 2)]⟩]
    let begun : Session ClusterStore :=
      fresh { range := 1 } (.ofCluster { segments := ["left", "right"] } 1) shared
    let steps := [.watch "a" 0 0, .watch "a$b" 1 0, .update "a$b" "d" 1, .sweep 5,
      .update "a" "b$c" 6]
    let session := runAll steps begun
    let step : WatchStep := .updateForce "a$b" "d"
    (step.run session).watch.isDirty "a" "b$c" = session.watch.isDirty "a" "b$c" ∧
      step.result session = step.result (session.stopWatch "a" "b$c") ∧
      ∀ operation ∈ step.carriedOut session,
        session.PutsWatched (step.run session).watch operation := by
  intro shared begun steps session step
  have apart : KeysApart (("a", "b$c") :: pairsOf (steps ++ [step]) begun) := by decide +kernel
  obtain ⟨others, written⟩ := steps_independent apart
  obtain ⟨-, dirty, answered⟩ := others ("a$b", "d") rfl (by decide)
  exact ⟨dirty, answered _ (session.agreeExcept_stopWatch "a" "b$c"), written⟩

/-- Two pairs share a key.  What is said about the one that is not watched changes the marks of
the other one, writes its document and keeps the pair from being watched. -/
theorem dependent_on_shared_key :
    let shared : List SharedDocument :=
      [⟨"b$c", .object [("n", Json.ofInt 1)]⟩, ⟨"c", .object [("n", Json.ofInt 2)]⟩]
    let begun : Session ClusterStore :=
      fresh {} (.ofCluster { segments := ["db"] } 1) shared
    let session := runAll [.watch "a" 0 0] begun
    let step : WatchStep := .update "a$b" "c" 1
    let written := (WatchStep.updateForce "a$b" "c").run session
    session.watch.isDirty "a" "b$c" = false ∧
      (step.run session).watch.isDirty "a" "b$c" = true ∧
      ((WatchStep.watch "a$b" 1 1).result session).isOk = false ∧
      ((WatchStep.watch "a$b" 1 1).result begun).isOk = true ∧
      (DocumentStore.get "a$b" "c" written.store).toOption.map Json.render =
        some "\x7b\"n\":1\x7d" := by
  decide +kernel

end WatchStep

end Polystore
