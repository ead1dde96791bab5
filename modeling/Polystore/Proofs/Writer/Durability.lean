import Polystore.Proofs.Store.Client
import Polystore.Proofs.Writer.Marks
import Polystore.Proofs.Writer.Staging
import Polystore.Text.Cut

/-!
# No update is lost

A watcher over a clustered store is run step by step: documents are shared, changed,
watched, updated, written and forgotten, sweeps are made, and nodes leave the network
and come back.  Under `atLeastOnce` a document stays dirty from an update on until a
step writes it.
-/

namespace Polystore

/-! ## Keys -/

/-- Where collections are free of the separator, keys tell documents apart. -/
theorem watchKey_injective {collection id otherCollection otherId : String}
    (plain : '$' ∉ collection.toList) (otherPlain : '$' ∉ otherCollection.toList)
    (same : watchKey collection id = watchKey otherCollection otherId) :
    collection = otherCollection ∧ id = otherId := by
  have texts : collection.toList ++ '$' :: id.toList =
      otherCollection.toList ++ '$' :: otherId.toList := by
    have lists := congrArg String.toList same
    simpa [watchKey] using lists
  have cuts := congrArg (Text.cutFirst '$') texts
  rw [Text.cutFirst_append plain, Text.cutFirst_append otherPlain] at cuts
  obtain ⟨collections, ids⟩ := Prod.mk.inj (Option.some.inj cuts)
  exact ⟨String.toList_inj.mp collections, String.toList_inj.mp ids⟩

/-- A sound watcher: documents are watched under their own keys, and collections are free
of the separator. -/
structure Watch.Sound (watch : Watch) : Prop extends watch.WellKeyed where
  plain : ∀ {key : String} {watched : Watched},
    watch.documents.get? key = some watched → '$' ∉ watched.collection.toList
  durable : watch.settings.durability = .atLeastOnce

theorem Watch.WellKeyed.remarks {before after : Watch} (keyed : before.WellKeyed)
    (remarks : Remarks before after) : after.WellKeyed where
  ordered := remarks.ordered keyed.ordered
  own {key marked} found := by
    obtain ⟨watched, before, same⟩ := remarks.exists_before found
    obtain ⟨collections, identities⟩ := Prod.mk.inj same
    rw [← collections, ← (Prod.mk.inj identities).1]
    exact keyed.own before

theorem Watch.Sound.remarks {before after : Watch} (sound : before.Sound)
    (remarks : Remarks before after) : after.Sound where
  toWellKeyed := sound.toWellKeyed.remarks remarks
  plain {key marked} found := by
    obtain ⟨watched, before, same⟩ := remarks.exists_before found
    rw [← (Prod.mk.inj same).1]
    exact sound.plain before
  durable := by
    rw [remarks.settings]
    exact sound.durable

/-- Watching one more document keeps all documents under their own keys. -/
theorem Watch.WellKeyed.add {watch : Watch} (keyed : watch.WellKeyed)
    (collection id : String) (handle now : Nat) :
    (watch.add collection id handle now).2.WellKeyed := by
  rw [Watch.add]
  split
  · split <;> exact keyed
  · refine ⟨Keyed.sorted_insert keyed.ordered _ _, ?_⟩
    intro key watched found
    rw [Keyed.get?_insert] at found
    split at found
    · next same =>
      cases found
      exact same
    · exact keyed.own found

theorem Watch.WellKeyed.remove {watch : Watch} (keyed : watch.WellKeyed)
    (collection id : String) : (watch.remove collection id).WellKeyed where
  ordered := Keyed.sorted_erase keyed.ordered _
  own found := by
    rw [Watch.remove, Keyed.get?_erase] at found
    split at found
    · contradiction
    · exact keyed.own found

/-- Watching one more document keeps a watcher sound. -/
theorem Watch.Sound.add {watch : Watch} (sound : watch.Sound) {collection : String}
    (plain : '$' ∉ collection.toList) (id : String) (handle now : Nat) :
    (watch.add collection id handle now).2.Sound where
  toWellKeyed := sound.toWellKeyed.add collection id handle now
  plain {key watched} found := by
    rw [Watch.add] at found
    split at found
    · split at found <;> exact sound.plain found
    · rw [Keyed.get?_insert] at found
      split at found
      · cases found
        exact plain
      · exact sound.plain found
  durable := by
    rw [Watch.add]
    split
    · split <;> exact sound.durable
    · exact sound.durable

theorem Watch.Sound.remove {watch : Watch} (sound : watch.Sound) (collection id : String) :
    (watch.remove collection id).Sound where
  toWellKeyed := sound.toWellKeyed.remove collection id
  plain found := by
    rw [Watch.remove, Keyed.get?_erase] at found
    split at found
    · contradiction
    · exact sound.plain found
  durable := sound.durable

/-! ## Steps -/

instance : Networked ClusterStore where
  setOffline address offline store :=
    { store with cluster := store.cluster.setOffline address offline }

instance {σ : Type} [Networked σ] : Networked (Recorded σ) where
  setOffline address offline state :=
    { state with store := Networked.setOffline address offline state.store }

/-- What happens to a watcher, its documents and its store, one thing at a time. -/
inductive WatchStep where
  | share (document : SharedDocument)
  | mutate (handle : Nat) (document : SharedDocument)
  | watch (collection : String) (handle now : Nat)
  | watchPut (collection : String) (handle now : Nat)
  | update (collection id : String) (now : Nat)
  | updateForce (collection id : String)
  | stopWatch (collection id : String)
  | sweep (now : Nat)
  | setOffline (address : String) (offline : Bool)

namespace WatchStep

/-- The collection that a step names. -/
def collection? : WatchStep → Option String
  | watch collection _ _ | watchPut collection _ _ | update collection _ _
  | updateForce collection _ | stopWatch collection _ => some collection
  | _ => none

/-- A step that names no collection with the separator in it. -/
def IsPlain (step : WatchStep) : Prop :=
  ∀ collection ∈ step.collection?, '$' ∉ collection.toList

instance (step : WatchStep) : Decidable step.IsPlain :=
  inferInstanceAs (Decidable (∀ collection ∈ step.collection?, '$' ∉ collection.toList))

section

variable {σ : Type} [DocumentStore σ] [Networked σ]

/-- The session after a step. -/
def run (step : WatchStep) (session : Session σ) : Session σ :=
  match step with
  | share document => (session.share document).2
  | mutate handle document => session.mutate handle document
  | watch collection handle now => (session.watchDocument collection handle now).2
  | watchPut collection handle now =>
      (session.watchPut Session.quiet collection handle now).2
  | update collection id now => (session.update collection id now).2
  | updateForce collection id => (session.updateForce Session.quiet collection id).2
  | stopWatch collection id => session.stopWatch collection id
  | sweep now => (session.sweep Session.quiet now).2
  | setOffline address offline =>
      { session with store := Networked.setOffline address offline session.store }

/-- The session after some steps. -/
def runAll (steps : List WatchStep) (session : Session σ) : Session σ :=
  steps.foldl (fun session step => step.run session) session

/-- A step that returns.  All do but a sweep that panics. -/
def Returns (step : WatchStep) (session : Session σ) : Prop :=
  match step with
  | sweep now => ∃ report, (session.sweep Session.quiet now).1 = .ok report
  | _ => True

/-- Steps all of which return. -/
def ReturnsAll : List WatchStep → Session σ → Prop
  | [], _ => True
  | step :: rest, session => step.Returns session ∧ ReturnsAll rest (step.run session)

end

/-- A session whose store records what it carries out from now on. -/
def recorded (session : Session ClusterStore) : Session (Recorded ClusterStore) :=
  session.map fun store => { store := store }

/-- The operations that the store carries out in a step. -/
def operations (step : WatchStep) (session : Session ClusterStore) : List Operation :=
  (step.run (recorded session)).store.operations

/-- A step runs on a recorded store as it does on the store. -/
theorem run_map (step : WatchStep) (session : Session (Recorded ClusterStore)) :
    step.run (session.map Recorded.store) = (step.run session).map Recorded.store := by
  cases step with
  | watchPut collection handle now =>
      exact congrArg Prod.snd (Session.watchPut_map Recorded.keepsWrites collection handle now session)
  | updateForce collection id =>
      exact congrArg Prod.snd (Session.updateForce_map Recorded.keepsWrites collection id session)
  | sweep now => exact congrArg Prod.snd (Session.sweep_map Recorded.keepsWrites now session)
  | _ => rfl

end WatchStep

/-! ## What writes do -/

namespace Session

variable {session : Session (Recorded ClusterStore)}

/-- A forced put writes its document as it is now and notes so, or changes no mark. -/
theorem updateForce_cases (distinct : session.store.cluster.segments.Nodup)
    (collection id : String) :
    let after := (session.updateForce quiet collection id).2
    after.store.cluster.segments = session.store.cluster.segments ∧
      (after.watch = session.watch ∨
        ∃ watched stored, session.watch.documents.get? (watchKey collection id) = some watched ∧
          Document.withId id (session.document watched.handle).content = .ok stored ∧
          after.store.Wrote collection id stored ∧
          after.watch = session.watch.noteWritten (watchKey collection id) watched.version) := by
  rw [updateForce]
  cases found : session.watch.documents.get? (watchKey collection id) with
  | none => exact ⟨rfl, Or.inl rfl⟩
  | some watched =>
      obtain ⟨result, state, put⟩ : ∃ result state, DocumentStore.put collection id
          (session.document watched.handle).content session.store = (result, state) := ⟨_, _, rfl⟩
      obtain ⟨segments, outcome⟩ := Recorded.put_cases distinct put
      dsimp only [quiet]
      rw [put]
      rcases outcome with ⟨stored, rfl, form, wrote⟩ | ⟨cause, rfl⟩
      · exact ⟨segments, Or.inr ⟨watched, stored, rfl, form, wrote, rfl⟩⟩
      · exact ⟨segments, Or.inl rfl⟩

/-- A document stays dirty through the same handle. -/
def StaysDirty (session : Session (Recorded ClusterStore)) (key : String) (handle : Nat) : Prop :=
  ∃ watched, session.watch.documents.get? key = some watched ∧ watched.dirty = true ∧
    watched.handle = handle

/-- A dirty document was written as it was before, or is dirty still. -/
def Saves (before after : Session (Recorded ClusterStore)) (collection id : String)
    (handle : Nat) : Prop :=
  after.StaysDirty (watchKey collection id) handle ∨
    ∃ stored, Document.withId id (before.document handle).content = .ok stored ∧
      after.store.Wrote collection id stored

/-- A document that is due is marked clean for the sweep. -/
theorem get?_markedAt_of_due {σ : Type} {session : Session σ} {deadline : Nat} {key : String}
    {watched : Watched} (found : session.watch.documents.get? key = some watched)
    (due : key ∈ (session.watch.due deadline).map Prod.fst) :
    (session.markedAt deadline).watch.documents.get? key =
      some { watched with dirty := false } := by
  rw [markedAt, Watch.get?_markClean, found, Option.map_some, if_pos due]

theorem mem_keys_due_iff {watch : Watch} (sorted : watch.documents.Sorted) {deadline : Nat}
    {key : String} {watched : Watched} (found : watch.documents.get? key = some watched) :
    key ∈ (watch.due deadline).map Prod.fst ↔
      watched.dirty = true ∧ watched.touched < deadline := by
  rw [List.mem_map]
  constructor
  · rintro ⟨⟨name, version⟩, member, rfl⟩
    obtain ⟨other, otherFound, dirty, early, -⟩ :=
      (Watch.mem_due_iff sorted deadline name version).mp member
    rw [found] at otherFound
    cases otherFound
    exact ⟨dirty, early⟩
  · rintro ⟨dirty, early⟩
    exact ⟨(key, watched.version), (Watch.mem_due_iff sorted deadline key watched.version).mpr
      ⟨watched, found, dirty, early, rfl⟩, rfl⟩

/-- What is due is watched while the sweep writes. -/
theorem exists_markedAt {σ : Type} {session : Session σ}
    (sorted : session.watch.documents.Sorted) (deadline : Nat) :
    ∀ key ∈ (session.watch.due deadline).map Prod.fst, ∃ watched,
      (session.markedAt deadline).watch.documents.get? key = some watched := by
  intro key member
  obtain ⟨⟨name, version⟩, due, rfl⟩ := List.mem_map.mp member
  obtain ⟨watched, found, -⟩ := (Watch.mem_due_iff sorted _ _ _).mp due
  exact ⟨_, get?_markedAt_of_due found member⟩

/-- A document that a sweep has not written is dirty after the sweep. -/
theorem get?_after_sweep {watch : Watch} (sorted : watch.documents.Sorted) {deadline : Nat}
    {unwritten : List String} {key : String} {watched : Watched}
    (found : watch.documents.get? key = some watched) (dirty : watched.dirty = true)
    (left : key ∈ (watch.due deadline).map Prod.fst → key ∈ unwritten) :
    (unwritten.foldl (Watch.markDirtyAt (watch.due deadline))
      (watch.markClean ((watch.due deadline).map Prod.fst))).documents.get? key =
        some watched := by
  rw [Watch.get?_markDirtyAt, Watch.get?_markClean, found, Option.map_some, Option.map_some]
  by_cases due : key ∈ (watch.due deadline).map Prod.fst
  · obtain ⟨-, early⟩ := (mem_keys_due_iff sorted found).mp due
    rw [if_pos due]
    simp only [Watch.lookup_due sorted found dirty early, left due, decide_true, beq_self_eq_true,
      Bool.and_self, Bool.or_true]
    rw [← dirty]
  · rw [if_neg due]
    simp only [dirty, Bool.true_or]
    rw [← dirty]

/-- A sweep that returns writes a dirty document as it is, or leaves it dirty. -/
theorem sweep_cases (keyed : session.watch.WellKeyed)
    (durable : session.watch.settings.durability = .atLeastOnce)
    (distinct : session.store.cluster.segments.Nodup) (now : Nat) :
    let after := (session.sweep quiet now).2
    after.store.cluster.segments = session.store.cluster.segments ∧
      session.watch.Remarks after.watch ∧
      ((∃ report, (session.sweep quiet now).1 = .ok report) →
        ∀ {key : String} {watched : Watched},
          session.watch.documents.get? key = some watched → watched.dirty = true →
          Saves session after watched.collection watched.id watched.handle) := by
  have idle : ∀ {key : String} {watched : Watched},
      session.watch.documents.get? key = some watched → watched.dirty = true →
      Saves session session watched.collection watched.id watched.handle := by
    intro key watched found dirty
    exact Or.inl ⟨watched, keyed.own found ▸ found, dirty, rfl⟩
  cases time : session.watch.deadline? now with
  | none =>
      rw [sweep_of_early time]
      exact ⟨rfl, .refl _, fun _ => idle⟩
  | some deadline =>
      have cleaned : session.watch.Remarks (session.markedAt deadline).watch :=
        Watch.remarks_markClean _ _
      by_cases nothing : session.watch.due deadline = []
      · rw [sweep_of_due_eq_nil time nothing]
        exact ⟨rfl, .refl _, fun _ => idle⟩
      · by_cases room : session.watch.settings.HasRoom
        case neg =>
          rw [sweep_of_not_hasRoom time nothing room]
          exact ⟨rfl, cleaned, fun ⟨_, returned⟩ => nomatch returned⟩
        have once : ((session.watch.due deadline).map Prod.fst).Nodup :=
          Keyed.nodup_names (Watch.sorted_due keyed.ordered deadline)
        have known := exists_markedAt keyed.ordered deadline
        obtain ⟨report, unwritten, state, wrote, segments, unstored, saved⟩ :=
          exists_writeOut (keyed.remarks cleaned) distinct once known
        rw [sweep_of_hasRoom time nothing room, writeBack_eq, wrote]
        dsimp only
        rw [show (session.markedAt deadline).watch.settings.durability = .atLeastOnce from
          cleaned.settings ▸ durable]
        refine ⟨segments, cleaned.trans (Watch.remarks_markDirtyAt _ _ _), fun _ => ?_⟩
        intro key watched found dirty
        have own := keyed.own found
        subst own
        by_cases left : watchKey watched.collection watched.id ∈
            (session.watch.due deadline).map Prod.fst →
              watchKey watched.collection watched.id ∈ unwritten
        · exact Or.inl ⟨watched, get?_after_sweep keyed.ordered found dirty left, dirty, rfl⟩
        · obtain ⟨due, written⟩ := Classical.not_imp.mp left
          have entry := get?_markedAt_of_due found due
          cases form : Document.withId watched.id (session.document watched.handle).content with
          | error cause =>
              refine absurd (unstored _ due ?_) written
              rw [stagedPut, entry]
              dsimp only
              rw [show (session.markedAt deadline).document = session.document from rfl, form]
          | ok stored =>
              refine Or.inr ⟨stored, form, (saved due ?_).resolve_left written⟩
              rw [stagedPut, entry]
              dsimp only
              rw [show (session.markedAt deadline).document = session.document from rfl, form]

/-- A sound session: a sound watcher over distinct segments. -/
structure Sound (session : Session (Recorded ClusterStore)) : Prop where
  watch : session.watch.Sound
  distinct : session.store.cluster.segments.Nodup

/-- A forced put writes a dirty document as it is, or leaves it dirty. -/
theorem updateForce_saves (sound : session.Sound) {collection id : String}
    (plain : '$' ∉ collection.toList) {changed name : String} (changedPlain : '$' ∉ changed.toList)
    {watched : Watched} (found : session.watch.documents.get? (watchKey collection id) = some watched)
    (dirty : watched.dirty = true) :
    Saves session (session.updateForce quiet changed name).2 collection id watched.handle := by
  obtain ⟨-, same | ⟨other, stored, otherFound, form, wrote, noted⟩⟩ :=
    updateForce_cases sound.distinct changed name
  · exact Or.inl ⟨watched, same ▸ found, dirty, rfl⟩
  · by_cases here : watchKey collection id = watchKey changed name
    · obtain ⟨rfl, rfl⟩ := watchKey_injective plain changedPlain here
      rw [found] at otherFound
      cases otherFound
      exact Or.inr ⟨stored, form, wrote⟩
    · refine Or.inl ⟨watched, ?_, dirty, rfl⟩
      rw [noted, Watch.noteWritten, Watch.adjust, Keyed.get?_adjust, found, Option.map_some,
        if_neg here]

theorem updateForce_sound (sound : session.Sound) (collection id : String) :
    (session.updateForce quiet collection id).2.Sound := by
  obtain ⟨segments, outcome⟩ := updateForce_cases sound.distinct collection id
  refine ⟨?_, segments.symm ▸ sound.distinct⟩
  rcases outcome with same | ⟨watched, stored, -, -, -, noted⟩
  · exact same.symm ▸ sound.watch
  · rw [noted]
    exact sound.watch.remarks (Watch.remarks_noteWritten _ _ _)

/-- Watching a document leaves the documents that are watched already. -/
theorem get?_watchDocument (collection : String) (handle now : Nat) {key : String}
    {watched : Watched} (found : session.watch.documents.get? key = some watched) :
    (session.watchDocument collection handle now).2.watch.documents.get? key = some watched := by
  rw [watchDocument, onWatch, Watch.add]
  split
  · split <;> exact found
  · next absent =>
    refine (Keyed.get?_insert_of_ne _ _ ?_).trans found
    rintro rfl
    rw [found] at absent
    contradiction

theorem watchDocument_sound (sound : session.Sound) {collection : String}
    (plain : '$' ∉ collection.toList) (handle now : Nat) :
    (session.watchDocument collection handle now).2.Sound :=
  ⟨sound.watch.add plain _ handle now, sound.distinct⟩

end Session

namespace WatchStep

variable {session : Session (Recorded ClusterStore)}

/-- Every step keeps a session sound. -/
theorem run_sound (sound : session.Sound) {step : WatchStep} (plain : step.IsPlain) :
    (step.run session).Sound := by
  cases step with
  | share document => exact ⟨sound.watch, sound.distinct⟩
  | mutate handle document => exact ⟨sound.watch, sound.distinct⟩
  | watch collection handle now =>
      exact Session.watchDocument_sound sound (plain collection rfl) handle now
  | watchPut collection handle now =>
      have watched := Session.watchDocument_sound sound (plain collection rfl) handle now
      rw [run, Session.watchPut]
      revert watched
      rcases session.watchDocument collection handle now with ⟨cause | _, session⟩
      · exact id
      · exact fun watched => Session.updateForce_sound watched collection _
  | update collection id now =>
      exact ⟨sound.watch.remarks (Watch.remarks_update collection id now _), sound.distinct⟩
  | updateForce collection id => exact Session.updateForce_sound sound collection id
  | stopWatch collection id => exact ⟨sound.watch.remove collection id, sound.distinct⟩
  | sweep now =>
      obtain ⟨segments, remarks, -⟩ := Session.sweep_cases sound.watch.toWellKeyed
        sound.watch.durable sound.distinct now
      exact ⟨sound.watch.remarks remarks, segments.symm ▸ sound.distinct⟩
  | setOffline address offline => exact ⟨sound.watch, sound.distinct⟩

/-- A step that returns writes a dirty document as it was before, or leaves it dirty. -/
theorem run_saves (sound : session.Sound) {step : WatchStep} (stepPlain : step.IsPlain)
    {collection id : String} (plain : '$' ∉ collection.toList) {watched : Watched}
    (found : session.watch.documents.get? (watchKey collection id) = some watched)
    (dirty : watched.dirty = true) (kept : step ≠ .stopWatch collection id)
    (returned : step.Returns session) :
    Session.Saves session (step.run session) collection id watched.handle := by
  have idle : session.StaysDirty (watchKey collection id) watched.handle :=
    ⟨watched, found, dirty, rfl⟩
  cases step with
  | share document => exact Or.inl idle
  | mutate handle document => exact Or.inl idle
  | setOffline address offline => exact Or.inl idle
  | watch changed handle now =>
      exact Or.inl ⟨watched, Session.get?_watchDocument _ _ _ found, dirty, rfl⟩
  | watchPut changed handle now =>
      have still := Session.get?_watchDocument changed handle now found
      have watchSound := Session.watchDocument_sound sound (stepPlain changed rfl) handle now
      rw [run, Session.watchPut]
      have shared : ∀ other, (session.watchDocument changed handle now).2.document other =
          session.document other := fun _ => rfl
      revert still watchSound shared
      rcases session.watchDocument changed handle now with ⟨cause | _, after⟩
      · exact fun still _ _ => Or.inl ⟨watched, still, dirty, rfl⟩
      · intro still watchSound shared
        rcases Session.updateForce_saves watchSound plain (stepPlain changed rfl) still dirty with
          stays | ⟨stored, form, wrote⟩
        · exact Or.inl stays
        · exact Or.inr ⟨stored, shared _ ▸ form, wrote⟩
  | update changed name now =>
      refine Or.inl ⟨_, Watch.get?_update found changed name now, ?_, ?_⟩
      · split
        · rfl
        · exact dirty
      · split <;> rfl
  | updateForce changed name =>
      exact Session.updateForce_saves sound plain (stepPlain changed rfl) found dirty
  | stopWatch changed name =>
      refine Or.inl ⟨watched, ?_, dirty, rfl⟩
      rw [run, Session.stopWatch, Watch.remove, Keyed.get?_erase, if_neg]
      · exact found
      · intro here
        obtain ⟨rfl, rfl⟩ := watchKey_injective plain (stepPlain changed rfl) here
        exact kept rfl
  | sweep now =>
      obtain ⟨-, -, saves⟩ := Session.sweep_cases sound.watch.toWellKeyed
        sound.watch.durable sound.distinct now
      obtain ⟨collections, ids⟩ :=
        watchKey_injective plain (sound.watch.plain found) (sound.watch.own found)
      have saved := saves returned found dirty
      rw [← collections, ← ids] at saved
      exact saved

/-- No step changes the settings of the watcher. -/
theorem settings_run (sound : session.Sound) (step : WatchStep) :
    (step.run session).watch.settings = session.watch.settings := by
  have settings_watch (collection : String) (handle now : Nat) :
      (session.watchDocument collection handle now).2.watch.settings =
        session.watch.settings := by
    rw [Session.watchDocument, Session.onWatch, Watch.add]
    split
    · split <;> rfl
    · rfl
  have settings_updateForce {session : Session (Recorded ClusterStore)}
      (distinct : session.store.cluster.segments.Nodup) (collection id : String) :
      (session.updateForce Session.quiet collection id).2.watch.settings =
        session.watch.settings := by
    obtain ⟨-, same | ⟨watched, stored, -, -, -, noted⟩⟩ :=
      Session.updateForce_cases distinct collection id
    · rw [same]
    · rw [noted]
      rfl
  cases step with
  | share document => rfl
  | mutate handle document => rfl
  | setOffline address offline => rfl
  | stopWatch collection id => rfl
  | watch collection handle now => exact settings_watch collection handle now
  | watchPut collection handle now =>
      have watched := settings_watch collection handle now
      have distinct : (session.watchDocument collection handle now).2.store.cluster.segments.Nodup :=
        sound.distinct
      rw [run, Session.watchPut]
      revert watched distinct
      rcases session.watchDocument collection handle now with ⟨cause | _, after⟩
      · exact fun watched _ => watched
      · exact fun watched distinct => (settings_updateForce distinct collection _).trans watched
  | update collection id now => exact (Watch.remarks_update collection id now _).settings
  | updateForce collection id => exact settings_updateForce sound.distinct collection id
  | sweep now =>
      exact (Session.sweep_cases sound.watch.toWellKeyed sound.watch.durable sound.distinct
        now).2.1.settings

/-! ## Runs -/

/-- A step writes the document of a handle under an id, as it was before the step: the
store carries out the put, and the document lies there after the step. -/
def Writes (step : WatchStep) (session : Session ClusterStore) (collection id : String)
    (handle : Nat) : Prop :=
  ∃ stored, Document.withId id (session.document handle).content = .ok stored ∧
    .put collection id stored ∈ step.operations session ∧
    (step.run session).store.cluster.document? collection id = some stored

theorem run_eq (step : WatchStep) (session : Session ClusterStore) :
    step.run session = (step.run (recorded session)).map Recorded.store :=
  step.run_map (recorded session)

theorem recorded_run_sound {session : Session ClusterStore} (sound : (recorded session).Sound)
    {step : WatchStep} (plain : step.IsPlain) : (recorded (step.run session)).Sound := by
  have kept := run_sound sound plain
  rw [run_eq]
  exact ⟨kept.watch, kept.distinct⟩

theorem runAll_sound {session : Session ClusterStore} (sound : (recorded session).Sound)
    {steps : List WatchStep} (plain : ∀ step ∈ steps, step.IsPlain) :
    (recorded (runAll steps session)).Sound := by
  induction steps generalizing session with
  | nil => exact sound
  | cons step rest ih =>
      exact ih (recorded_run_sound sound (plain step List.mem_cons_self)) fun later member =>
        plain later (List.mem_cons_of_mem _ member)

/-- A step returns on a recorded store if it does on the store. -/
theorem returns_recorded_iff {step : WatchStep} {session : Session ClusterStore} :
    step.Returns (recorded session) ↔ step.Returns session := by
  cases step with
  | sweep now =>
      have same := congrArg Prod.fst
        (Session.sweep_map Recorded.keepsWrites now (recorded session))
      rw [Returns, Returns, ← same]
      rfl
  | _ => exact Iff.rfl

theorem returnsAll_append {steps more : List WatchStep} {session : Session ClusterStore} :
    ReturnsAll (steps ++ more) session ↔
      ReturnsAll steps session ∧ ReturnsAll more (runAll steps session) := by
  induction steps generalizing session with
  | nil => exact (true_and _).symm ▸ Iff.rfl
  | cons step rest ih => exact (and_congr_right fun _ => ih).trans and_assoc.symm

/-- Where there is room for the keys of a batch, all steps return. -/
theorem returnsAll_of_hasRoom {session : Session ClusterStore} (sound : (recorded session).Sound)
    (room : session.watch.settings.HasRoom) {steps : List WatchStep}
    (plain : ∀ step ∈ steps, step.IsPlain) : ReturnsAll steps session := by
  induction steps generalizing session with
  | nil => trivial
  | cons step rest ih =>
      rw [List.forall_mem_cons] at plain
      constructor
      · cases step with
        | sweep now => exact Session.exists_report_of_hasRoom room now
        | _ => trivial
      · refine ih (recorded_run_sound sound plain.1) ?_ plain.2
        rw [run_eq]
        exact (settings_run sound step).symm ▸ room

theorem runAll_append (steps more : List WatchStep) (session : Session ClusterStore) :
    runAll (steps ++ more) session = runAll more (runAll steps session) :=
  List.foldl_append

/-- A document that was dirty is dirty at the end of a run whose steps return, or some step of
the run has written it. -/
theorem dirty_or_writes_of_runAll {session : Session ClusterStore}
    (sound : (recorded session).Sound) {collection id : String} (plain : '$' ∉ collection.toList)
    {steps : List WatchStep} (stepsPlain : ∀ step ∈ steps, step.IsPlain)
    (kept : .stopWatch collection id ∉ steps) {watched : Watched}
    (found : session.watch.documents.get? (watchKey collection id) = some watched)
    (dirty : watched.dirty = true) (returned : ReturnsAll steps session) :
    (∃ marked, (runAll steps session).watch.documents.get? (watchKey collection id) = some marked ∧
      marked.dirty = true) ∨
    ∃ earlier step later, steps = earlier ++ step :: later ∧
      step.Writes (runAll earlier session) collection id watched.handle := by
  induction steps generalizing session watched with
  | nil => exact Or.inl ⟨watched, found, dirty⟩
  | cons step rest ih =>
      rw [List.mem_cons, not_or] at kept
      have stepPlain := stepsPlain step List.mem_cons_self
      have same := run_eq step session
      rcases run_saves sound stepPlain plain found dirty (Ne.symm kept.1)
        (returns_recorded_iff.mpr returned.1) with
        ⟨marked, stillFound, stillDirty, handle⟩ | ⟨stored, form, wrote⟩
      · have nextFound : (step.run session).watch.documents.get? (watchKey collection id) =
            some marked := by
          rw [same]
          exact stillFound
        rcases ih (recorded_run_sound sound stepPlain)
          (fun later member => stepsPlain later (List.mem_cons_of_mem _ member)) kept.2 nextFound
          stillDirty returned.2 with dirty | ⟨earlier, writing, later, split, writes⟩
        · exact Or.inl dirty
        · refine Or.inr ⟨step :: earlier, writing, later, congrArg (step :: ·) split, ?_⟩
          rw [← handle]
          exact writes
      · refine Or.inr ⟨[], step, rest, rfl, stored, form, wrote.recorded, ?_⟩
        rw [show runAll [] session = session from rfl, same]
        exact wrote.held

/-- A session in which nothing is watched yet. -/
def start (settings : WatchSettings) (store : ClusterStore) (shared : List SharedDocument) :
    Session ClusterStore where
  store := store
  watch := { settings := settings }
  shared := shared

theorem start_sound {settings : WatchSettings} (durable : settings.durability = .atLeastOnce)
    {store : ClusterStore} (distinct : store.cluster.segments.Nodup)
    (shared : List SharedDocument) : (recorded (start settings store shared)).Sound where
  watch :=
    { ordered := Keyed.sorted_nil
      own := fun found => nomatch found
      plain := fun found => nomatch found
      durable := durable }
  distinct := distinct

/-- Under `atLeastOnce` an update is not lost.  In every state that a run reaches after an
update has succeeded, and before the document is forgotten, the document is dirty or some
step since the update has written it as it was then.  A run goes on as long as its steps
return, which all of them do where there is room for the keys of a batch. -/
theorem dirty_or_written_since_update {settings : WatchSettings}
    (durable : settings.durability = .atLeastOnce) {store : ClusterStore}
    (distinct : store.cluster.segments.Nodup) {shared : List SharedDocument}
    {before after : List WatchStep} {collection id : String} {now : Nat}
    (plain : ∀ step ∈ before ++ .update collection id now :: after, step.IsPlain)
    (updated : ((runAll before (start settings store shared)).update collection id now).1 = .ok ())
    (kept : .stopWatch collection id ∉ after) :
    let steps := before ++ .update collection id now :: after
    let session := runAll (before ++ [.update collection id now]) (start settings store shared)
    (ReturnsAll steps (start settings store shared) →
      (runAll steps (start settings store shared)).watch.isDirty collection id = true ∨
        ∃ watched earlier step later,
          session.watch.documents.get? (watchKey collection id) = some watched ∧
          after = earlier ++ step :: later ∧
          step.Writes (runAll earlier session) collection id watched.handle) ∧
    (settings.HasRoom → ReturnsAll steps (start settings store shared)) := by
  intro steps session
  refine ⟨fun returned => ?_,
    fun room => returnsAll_of_hasRoom (start_sound durable distinct shared) room plain⟩
  obtain ⟨beforePlain, laterPlain⟩ := List.forall_mem_append.mp plain
  obtain ⟨updatePlain, afterPlain⟩ := List.forall_mem_cons.mp laterPlain
  have sound := runAll_sound (start_sound durable distinct shared) beforePlain
  have reached : session =
      ((runAll before (start settings store shared)).update collection id now).2 :=
    runAll_append before [_] _
  obtain ⟨watched, found⟩ : ∃ watched,
      (runAll before (start settings store shared)).watch.documents.get?
        (watchKey collection id) = some watched := by
    rw [Session.update, Session.onWatch, Watch.update] at updated
    split at updated
    · next known => exact Option.isSome_iff_exists.mp known
    · contradiction
  have marked : session.watch.documents.get? (watchKey collection id) = some { watched with
      touched := now, dirty := true, version := watched.version + 1 } := by
    rw [reached]
    exact (Watch.get?_update found collection id now).trans (congrArg some (if_pos rfl))
  have updatedSound : (recorded session).Sound := by
    rw [reached]
    exact recorded_run_sound sound updatePlain
  have split : runAll steps (start settings store shared) = runAll after session := by
    rw [← runAll_append]
    exact congrArg (runAll · _) (List.append_cons before _ after)
  have afterReturned : ReturnsAll after session := by
    have later := (returnsAll_append.mp returned).2.2
    rwa [reached]
  rcases dirty_or_writes_of_runAll updatedSound (updatePlain collection rfl) afterPlain kept
    marked rfl afterReturned with ⟨last, lastFound, dirty⟩ | ⟨earlier, step, later, same, writes⟩
  · apply Or.inl
    rw [split, Watch.isDirty, lastFound]
    exact dirty
  · exact Or.inr ⟨_, earlier, step, later, marked, same, writes⟩

/-- A session over two segments with one document, and a watcher that tries again. -/
def smallSession : Session ClusterStore :=
  start { range := 1, durability := .atLeastOnce } (.ofCluster { segments := ["left", "right"] } 1)
    [⟨"a", .object [("n", Json.ofInt 1)]⟩]

/-- A sweep while no node can be reached, and one after a change when all are back. -/
def outage : List WatchStep :=
  [.setOffline "left" true, .setOffline "right" true, .sweep 5,
    .setOffline "left" false, .setOffline "right" false,
    .mutate 0 ⟨"a", .object [("n", Json.ofInt 2)]⟩, .sweep 9]

theorem dirty_then_written_over_outage :
    let steps := [.watch "notes" 0 0, .update "notes" "a" 1]
    (runAll (steps ++ outage.take 3) smallSession).watch.isDirty "notes" "a" = true ∧
      ∃ watched earlier step later,
        (runAll steps smallSession).watch.documents.get? (watchKey "notes" "a") = some watched ∧
        outage = earlier ++ step :: later ∧
        step.Writes (runAll earlier (runAll steps smallSession)) "notes" "a" watched.handle := by
  have plain : ∀ step ∈ [.watch "notes" 0 0] ++ .update "notes" "a" 1 :: outage,
      IsPlain step := by decide
  have kept : .stopWatch "notes" "a" ∉ outage := by simp [outage]
  have clean : (runAll ([.watch "notes" 0 0] ++ .update "notes" "a" 1 :: outage)
      smallSession).watch.isDirty "notes" "a" = false := by decide +kernel
  have updated : ((runAll [.watch "notes" 0 0] smallSession).update "notes" "a" 1).1 = .ok () :=
    rfl
  have durable : smallSession.watch.settings.durability = .atLeastOnce := rfl
  have distinct : smallSession.store.cluster.segments.Nodup := by decide
  obtain ⟨saved, returns⟩ := dirty_or_written_since_update durable distinct plain updated kept
  exact ⟨by decide +kernel, (saved (returns (by decide))).resolve_left (Bool.eq_false_iff.mp clean)⟩

end WatchStep

end Polystore
