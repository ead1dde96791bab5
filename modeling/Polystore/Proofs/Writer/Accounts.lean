import Polystore.Proofs.Cluster.Commit
import Polystore.Proofs.Writer.Independence

/-!
# What a sweep accounts for

A sweep over a clustered store commits the batches of the documents that are due one after the
other.  Whether a batch goes through depends on the network alone, so the batches whose segments
can all be reached are written and the others are not: every document that is due is refused,
written or left with its batch, the report counts it once, and nothing else changes.
-/

namespace Polystore

namespace Document

/-- Whether a value is an object without the reserved field. -/
def isStorable : Json → Bool
  | .object fields => !Keyed.contains fields reservedField
  | _ => false

theorem isOk_withId (id : String) (value : Json) : (withId id value).isOk = isStorable value := by
  cases value with
  | object fields =>
      rw [withId, isStorable]
      cases Keyed.contains fields reservedField with
      | true => rfl
      | false => rfl
  | _ => rfl

end Document

namespace Session

variable {σ : Type}

/-! ## Documents that are due -/

/-- The document of a key is due at a time: it is dirty, and was touched for the last time before
the range of time that documents have to be left alone. -/
def IsDue (session : Session σ) (now : Nat) (key : String) : Prop :=
  ∃ watched, session.watch.documents.get? key = some watched ∧ watched.dirty = true ∧
    watched.touched < now - session.watch.settings.range

/-- Whether the document of a key is, as the application holds it, an object without the reserved
field. -/
def isStorable (session : Session σ) (key : String) : Bool :=
  match session.watch.documents.get? key with
  | some watched => Document.isStorable (session.document watched.handle).content
  | none => false

/-- A batch of the keys that are due: those whose documents can be stored, cut after every so
many. -/
def batchAt (session : Session σ) (due : List String) (index : Nat) : List String :=
  let size := max session.watch.settings.batchSize 1
  ((due.filter session.isStorable).drop (index * size)).take size

theorem isStageable_eq_isStorable (session : Session σ) :
    session.isStageable = session.isStorable := by
  funext key
  rw [isStageable, isStorable, stagedPut]
  cases session.watch.documents.get? key with
  | none => rfl
  | some watched =>
      dsimp only
      rw [← Document.isOk_withId watched.id]
      cases Document.withId watched.id (session.document watched.handle).content with
      | ok stored => rfl
      | error cause => rfl

theorem mem_batchesOf_iff {session : Session σ} {due batch : List String}
    {key : String} (member : key ∈ batch) :
    batch ∈ session.batchesOf due ↔ ∃ index, batch = session.batchAt due index := by
  have positive : 0 < max session.watch.settings.batchSize 1 :=
    Nat.lt_of_lt_of_le Nat.zero_lt_one (Nat.le_max_right _ _)
  rw [List.mem_iff_getElem?, batchesOf, isStageable_eq_isStorable]
  constructor
  · rintro ⟨index, found⟩
    rw [BatchWriter.getElem?_batches positive] at found
    split at found
    · exact ⟨index, (Option.some.inj found).symm⟩
    · contradiction
  · rintro ⟨index, rfl⟩
    refine ⟨index, ?_⟩
    rw [BatchWriter.getElem?_batches positive, if_pos]
    · rfl
    · have some := List.length_pos_of_mem (List.mem_of_mem_take member)
      rw [List.length_drop] at some
      omega

theorem mem_keys_iff_isDue {session : Session σ} (sorted : session.watch.documents.Sorted)
    (now : Nat) (key : String) :
    key ∈ (session.watch.due (now - session.watch.settings.range)).map Prod.fst ↔
      session.IsDue now key := by
  rw [List.mem_map]
  constructor
  · rintro ⟨⟨name, version⟩, member, rfl⟩
    rcases (Watch.mem_due_iff sorted _ _ _).mp member with ⟨watched, found, dirty, early, -⟩
    exact ⟨watched, found, dirty, early⟩
  · rintro ⟨watched, found, dirty, early⟩
    exact ⟨(key, watched.version),
      (Watch.mem_due_iff sorted _ _ _).mpr ⟨watched, found, dirty, early, rfl⟩, rfl⟩

theorem due_eq_nil_iff {session : Session σ} (sorted : session.watch.documents.Sorted)
    (now : Nat) :
    session.watch.due (now - session.watch.settings.range) = [] ↔
      ∀ key, ¬ session.IsDue now key := by
  have none := @List.map_eq_nil_iff _ _ Prod.fst
    (session.watch.due (now - session.watch.settings.range))
  rw [← none, List.eq_nil_iff_forall_not_mem]
  exact forall_congr' fun key => not_congr (mem_keys_iff_isDue sorted now key)

/-- After a sweep a document that was due is dirty if it is to be tried once more, and the marks
of the others are what they were. -/
theorem get?_after_retry {session : Session σ} (sorted : session.watch.documents.Sorted)
    (deadline : Nat) {again : List String}
    (among : ∀ key ∈ again, key ∈ (session.watch.due deadline).map Prod.fst) (key : String) :
    (again.foldl (Watch.markDirtyAt (session.watch.due deadline))
      (session.markedAt deadline).watch).documents.get? key =
        (session.watch.documents.get? key).map fun watched =>
          if key ∈ (session.watch.due deadline).map Prod.fst then
            { watched with dirty := decide (key ∈ again) }
          else watched := by
  rw [Watch.get?_markDirtyAt, markedAt, Watch.get?_markClean, Option.map_map]
  cases found : session.watch.documents.get? key with
  | none => rfl
  | some watched =>
      rw [Option.map_some, Option.map_some, Function.comp_apply]
      by_cases due : key ∈ (session.watch.due deadline).map Prod.fst
      · rcases (mem_keys_due_iff sorted found).mp due with ⟨dirty, early⟩
        rw [if_pos due, if_pos due]
        simp [Watch.lookup_due sorted found dirty early]
      · have kept : key ∉ again := fun member => due (among key member)
        rw [if_neg due, if_neg due]
        simp [kept]

/-- After a sweep a document that was due is dirty exactly if it was not committed and the watcher
tries again. -/
theorem get?_after_commits [DocumentStore σ] {session : Session σ}
    (sorted : session.watch.documents.Sorted) (deadline : Nat) (store : σ) (key : String) :
    let due := (session.watch.due deadline).map Prod.fst
    let wrote := session.commitBatches (session.batchesOf due) store
    let unwritten := wrote.1.2 ++ due.filter fun key => !session.isStageable key
    ((session.watch.settings.durability.retried unwritten).foldl
      (Watch.markDirtyAt (session.watch.due deadline))
      (session.markedAt deadline).watch).documents.get? key =
        (session.watch.documents.get? key).map fun watched =>
          if key ∈ due then
            { watched with
              dirty := decide (session.watch.settings.durability = .atLeastOnce ∧
                key ∉ wrote.1.1) }
          else watched := by
  intro due wrote unwritten
  have once : due.Nodup := Keyed.nodup_names (Watch.sorted_due sorted deadline)
  have among : ∀ key ∈ session.watch.settings.durability.retried unwritten, key ∈ due := by
    intro key member
    have left := (Durability.mem_retried_iff.mp member).2
    exact (session.outcomes_perm due store).subset (List.mem_append_right _ left)
  rw [get?_after_retry sorted deadline among]
  refine congrArg (Option.map · _) (funext fun watched => ?_)
  by_cases member : key ∈ due
  · have retried : key ∈ session.watch.settings.durability.retried unwritten ↔
        session.watch.settings.durability = .atLeastOnce ∧ key ∉ wrote.1.1 :=
      Durability.mem_retried_iff.trans (and_congr_right' (mem_unwritten_iff once member store))
    rw [if_pos member, if_pos member]
    exact congrArg (fun dirty => { watched with dirty := dirty }) (decide_eq_decide.mpr retried)
  · rw [if_neg member, if_neg member]

/-- Cleaning documents and marking some dirty again changes nothing else of a watcher. -/
theorem exists_documents_after_retry (session : Session σ) (deadline : Nat)
    (again : List String) :
    ∃ documents, again.foldl (Watch.markDirtyAt (session.watch.due deadline))
      (session.markedAt deadline).watch = { session.watch with documents := documents } := by
  rcases Watch.exists_documents_foldl
    (fun watch key => watch.adjust key fun watched => { watched with dirty := false })
    (fun _ _ => ⟨_, rfl⟩) ((session.watch.due deadline).map Prod.fst) session.watch with
    ⟨cleaned, cleaning⟩
  rcases Watch.exists_documents_foldl (Watch.markDirtyAt (session.watch.due deadline))
    (fun _ _ => ⟨_, rfl⟩) again (session.markedAt deadline).watch with ⟨documents, marking⟩
  have clean : (session.markedAt deadline).watch = { session.watch with documents := cleaned } :=
    cleaning
  refine ⟨documents, ?_⟩
  rw [marking, clean]

end Session

/-! ## Batches over a network -/

namespace Session

variable {session : Session ClusterStore}

/-- No segment that owns a document of a batch is offline. -/
def Reaches (session : Session ClusterStore) (batch : List String) : Prop :=
  ∀ key ∈ batch, ∀ watched, session.watch.documents.get? key = some watched →
    ∀ owner, session.store.cluster.ownerOf watched.collection watched.id = .ok owner →
      (session.store.cluster.node owner).online = true

/-- The document of a key is that of a collection and an id, which a node owns. -/
def LiesAt (session : Session ClusterStore) (key collection id owner : String) : Prop :=
  ∃ watched, session.watch.documents.get? key = some watched ∧
    watched.collection = collection ∧ watched.id = id ∧
    session.store.cluster.ownerOf collection id = .ok owner

/-- What is obstructed is a batch with a document whose segment is offline. -/
theorem not_obstructs_iff_reaches {batch : List String}
    (staged : ∀ key ∈ batch, session.isStageable key = true) :
    ¬session.store.cluster.Obstructs (batch.filterMap session.stagedPut) ↔
      session.Reaches batch := by
  constructor
  · intro free key member watched found owner owns
    rw [← Bool.not_eq_false]
    intro offline
    rcases Option.isSome_iff_exists.mp (staged key member) with ⟨operation, put⟩
    rcases exists_stored_of_stagedPut found put with ⟨stored, -, rfl⟩
    exact free ⟨owner, offline, _, List.mem_filterMap.mpr ⟨key, member, put⟩, owns⟩
  · rintro reaches ⟨owner, offline, operation, listed, involves⟩
    rcases List.mem_filterMap.mp listed with ⟨key, member, put⟩
    rcases exists_watched_of_stagedPut put with ⟨watched, stored, found, -, rfl⟩
    rw [reaches key member watched found owner involves] at offline
    contradiction

/-- Some keys of batches were committed: those of the batches that nothing stands in the way of,
and the store holds what they put. -/
structure Commits (session : Session ClusterStore) (batches : List (List String))
    (store : ClusterStore) (committed : List String) (after : ClusterStore) : Prop where
  order : committed.Sublist batches.flatten
  mem_iff : ∀ key, key ∈ committed ↔ ∃ batch ∈ batches, key ∈ batch ∧
    ¬store.cluster.Obstructs (batch.filterMap session.stagedPut)
  cache : after.cache = store.cache
  performs : store.cluster.Performs (committed.filterMap session.stagedPut) after.cluster

/-- Whatever batches were committed before, a batch is committed exactly if all its segments can
be reached. -/
theorem commits_commitBatches (batches : List (List String)) {store : ClusterStore}
    (nonempty : store.cluster.segments ≠ []) (distinct : store.cluster.segments.Nodup) :
    session.Commits batches store (session.commitBatches batches store).1.1
      (session.commitBatches batches store).2 := by
  induction batches generalizing store with
  | nil =>
      constructor
      · exact List.Sublist.refl []
      · intro key
        simp [commitBatches]
      · rfl
      · exact .refl store.cluster
  | cons batch rest ih =>
      by_cases obstructs : store.cluster.Obstructs (batch.filterMap session.stagedPut)
      · rcases Cluster.commit_of_obstructs nonempty distinct obstructs with ⟨cause, -, failed⟩
        have refused : DocumentStore.commit (batch.filterMap session.stagedPut) store =
            (.error cause, store) := by
          change ClusterStore.onCluster (Cluster.commit _) store = _
          rw [ClusterStore.onCluster, failed]
        rcases ih nonempty distinct with ⟨order, mem_iff, cache, performs⟩
        rw [commitBatches, refused]
        constructor
        · exact order.trans (List.sublist_append_right batch rest.flatten)
        · intro key
          simp [mem_iff, obstructs]
        · exact cache
        · exact performs
      · -- A commit moves no document and no node, so it stands in the way of no later batch.
        rcases Cluster.commit_of_not_obstructs nonempty distinct obstructs with
          ⟨cluster, succeeded, first⟩
        have accepted : DocumentStore.commit (batch.filterMap session.stagedPut) store =
            (.ok (), { store with cluster := cluster }) := by
          change ClusterStore.onCluster (Cluster.commit _) store = _
          rw [ClusterStore.onCluster, succeeded]
        have between : ({ store with cluster := cluster } : ClusterStore).cluster.segments =
            store.cluster.segments := first.segments
        rcases ih (between ▸ nonempty) (between ▸ distinct) with ⟨order, mem_iff, cache, performs⟩
        rw [commitBatches, accepted]
        constructor
        · exact order.append_left batch
        · intro key
          simp [mem_iff, first.obstructs_iff, obstructs]
        · exact cache
        · rw [List.filterMap_append]
          exact first.append performs

/-! ## Accounts -/

/-- What becomes of the keys that are due in a sweep at a time, some of which are committed: the
report of the sweep, and the session after it. -/
structure Accounts (session : Session ClusterStore) (now : Nat) (due committed : List String)
    (report : FlushReport) (after : Session ClusterStore) : Prop where
  ascending : due.Pairwise (· < ·)
  mem_due_iff : ∀ key, key ∈ due ↔ session.IsDue now key
  staged : report.staged = (due.filter session.isStorable).length
  counted : report.committed = committed.length
  failed : report.committed + report.failed = due.length
  order : committed.Sublist due
  /-- The batches are committed whose segments can all be reached. -/
  mem_committed_iff : ∀ key, key ∈ committed ↔ ∃ index,
    key ∈ session.batchAt due index ∧ session.Reaches (session.batchAt due index)
  /-- What is committed lies on its segment as the application holds it. -/
  written : ∀ key ∈ committed, ∃ watched stored owner,
    session.watch.documents.get? key = some watched ∧
    Document.withId watched.id (session.document watched.handle).content = .ok stored ∧
    session.store.cluster.ownerOf watched.collection watched.id = .ok owner ∧
    (after.store.cluster.node owner).document? watched.collection watched.id = some stored
  /-- No other document of a segment has changed. -/
  untouched : ∀ name ∈ session.store.cluster.segments, ∀ collection id,
    (∀ key ∈ committed, ¬session.LiesAt key collection id name) →
      (after.store.cluster.node name).document? collection id =
        (session.store.cluster.node name).document? collection id
  segments : after.store.cluster.segments = session.store.cluster.segments
  online : ∀ name, (after.store.cluster.node name).online =
    (session.store.cluster.node name).online
  cache : after.store.cache = session.store.cache
  /-- What was due is clean, unless it was not committed and is to be tried once more. -/
  marks : ∀ key, after.watch.documents.get? key =
    (session.watch.documents.get? key).map fun watched =>
      if key ∈ due then
        { watched with
          dirty := decide (session.watch.settings.durability = .atLeastOnce ∧ key ∉ committed) }
      else watched
  rest : after = { session with
    store := after.store
    watch := { session.watch with documents := after.watch.documents } }

/-- The document of a committed key is put where it lies. -/
theorem exists_stored_of_mem (keyed : session.watch.WellKeyed) {keys : List String}
    (once : keys.Nodup) (nonempty : session.store.cluster.segments ≠ []) {after : Cluster}
    (performs : session.store.cluster.Performs (keys.filterMap session.stagedPut) after)
    {key : String} (member : key ∈ keys) (fit : session.isStageable key = true) :
    ∃ watched stored owner, session.watch.documents.get? key = some watched ∧
      Document.withId watched.id (session.document watched.handle).content = .ok stored ∧
      session.store.cluster.ownerOf watched.collection watched.id = .ok owner ∧
      (after.node owner).document? watched.collection watched.id = some stored := by
  rcases Option.isSome_iff_exists.mp fit with ⟨operation, put⟩
  rcases exists_watched_of_stagedPut put with ⟨watched, stored, found, form, rfl⟩
  rcases Cluster.exists_owner nonempty watched.collection watched.id with ⟨owner, owns⟩
  have own := keyed.own found
  subst own
  refine ⟨watched, stored, owner, found, form, owns, ?_⟩
  rw [← Cluster.document?_eq ((performs.ownerOf _ _).trans owns), performs.document? nonempty,
    effects_of_mem keyed once member put]

theorem isStageable_of_mem_batchAt {due : List String} {index : Nat} :
    ∀ key ∈ session.batchAt due index, session.isStageable key = true := by
  intro key member
  rw [isStageable_eq_isStorable]
  exact (List.mem_filter.mp (List.mem_of_mem_drop (List.mem_of_mem_take member))).2

/-- A key of a batch of a sweep is committed if the segments of its batch can all be reached. -/
theorem Commits.mem_committed_iff {due committed : List String} {after : ClusterStore}
    (commits : session.Commits (session.batchesOf due) session.store committed after)
    (key : String) :
    key ∈ committed ↔ ∃ index, key ∈ session.batchAt due index ∧
      session.Reaches (session.batchAt due index) := by
  rw [commits.mem_iff]
  constructor
  · rintro ⟨batch, cut, member, free⟩
    rcases (mem_batchesOf_iff member).mp cut with ⟨index, rfl⟩
    exact ⟨index, member, (not_obstructs_iff_reaches isStageable_of_mem_batchAt).mp free⟩
  · rintro ⟨index, member, reaches⟩
    exact ⟨_, (mem_batchesOf_iff member).mpr ⟨index, rfl⟩, member,
      (not_obstructs_iff_reaches isStageable_of_mem_batchAt).mpr reaches⟩

/-- Puts of keys leave every document alone that is not one of theirs. -/
theorem document?_of_not_liesAt (distinct : session.store.cluster.segments.Nodup)
    {keys : List String} {after : Cluster}
    (performs : session.store.cluster.Performs (keys.filterMap session.stagedPut) after)
    {name collection id : String} (segment : name ∈ session.store.cluster.segments)
    (elsewhere : ∀ key ∈ keys, ¬session.LiesAt key collection id name) :
    (after.node name).document? collection id =
      (session.store.cluster.node name).document? collection id := by
  rcases List.getElem?_of_mem segment with ⟨position, place⟩
  apply performs.document?_of_idle place
  intro operation listed concerned
  rcases List.mem_filterMap.mp listed with ⟨key, member, put⟩
  rcases exists_watched_of_stagedPut put with ⟨watched, stored, found, -, rfl⟩
  have owns := (Cluster.concerns_iff_involves distinct place _).mp concerned
  apply if_neg
  rintro ⟨rfl, rfl⟩
  exact elsewhere key member ⟨watched, found, rfl, rfl, owns⟩

/-- A sweep that is late enough accounts for every document that is due. -/
theorem exists_accounts (keyed : session.watch.WellKeyed)
    (nonempty : session.store.cluster.segments ≠ [])
    (distinct : session.store.cluster.segments.Nodup) {now : Nat}
    (late : session.watch.settings.range ≤ now)
    (ready : session.watch.settings.HasRoom ∨ ∀ key, ¬ session.IsDue now key) :
    ∃ report due committed, (session.sweep quiet now).1 = .ok report ∧
      session.Accounts now due committed report (session.sweep quiet now).2 := by
  let deadline := now - session.watch.settings.range
  let due := (session.watch.due deadline).map Prod.fst
  let wrote := session.commitBatches (session.batchesOf due) session.store
  have ascending := Watch.sorted_due keyed.ordered deadline
  have once : due.Nodup := Keyed.nodup_names ascending
  have listed : (session.batchesOf due).flatten = due.filter session.isStageable :=
    BatchWriter.flatten_batches _ [] _
  -- The sweep marks documents before and after it writes, but what they put stays the same, so
  -- the batches are those of the session that the sweep found.
  have commits := session.commits_commitBatches (session.batchesOf due) nonempty distinct
  have order := commits.order
  rw [listed] at order
  have outcomes := session.outcomes_perm due session.store
  have time : session.watch.deadline? now = some deadline := if_pos late
  rw [sweep_eq_commitBatches keyed.ordered time
    (ready.imp_right (due_eq_nil_iff keyed.ordered now).mpr)]
  refine ⟨_, due, wrote.1.1, rfl, ?_⟩
  constructor
  · exact List.pairwise_map.mpr ascending
  · exact mem_keys_iff_isDue keyed.ordered now
  · rw [← isStageable_eq_isStorable]
  · rfl
  · have counts := outcomes.length_eq
    rw [List.length_append, List.length_append] at counts
    exact counts
  · exact order.trans List.filter_sublist
  · exact commits.mem_committed_iff
  · intro key member
    exact exists_stored_of_mem keyed (once.sublist (order.trans List.filter_sublist)) nonempty
      commits.performs member (List.mem_filter.mp (order.subset member)).2
  · intro name segment collection id elsewhere
    exact document?_of_not_liesAt distinct commits.performs segment elsewhere
  · exact commits.performs.segments
  · exact commits.performs.online
  · exact commits.cache
  · exact get?_after_commits keyed.ordered deadline session.store
  · rcases exists_documents_after_retry session deadline _ with ⟨documents, retried⟩
    rw [retried]

end Session

namespace WatchStep

variable {settings : WatchSettings} {start store : ClusterStore} {shared : List SharedDocument}

/-- A sweep flushes what is due and accounts for all of it.  Wherever a run has come to, whatever
the store holds by then and whichever nodes are offline, a sweep earlier than the range of the
watcher does nothing; any other one commits the documents that are due, as far as they can be
stored and the segments of their batches can be reached, counts the others as failed, and changes
nothing else.  If there is no room for the keys of a batch, a sweep that finds documents due
panics: it has marked them clean and done nothing else. -/
theorem sweep_accounts_for_due (steps : List WatchStep) (nonempty : store.cluster.segments ≠ [])
    (distinct : store.cluster.segments.Nodup) (now : Nat) :
    let session := { runAll steps (fresh settings start shared) with store := store }
    let range := session.watch.settings.range
    (now < range → session.sweep Session.quiet now = (.ok {}, session)) ∧
    (range ≤ now → session.watch.settings.HasRoom ∨ (∀ key, ¬ session.IsDue now key) →
      ∃ report due committed, (session.sweep Session.quiet now).1 = .ok report ∧
        session.Accounts now due committed report (session.sweep Session.quiet now).2) ∧
    (range ≤ now → ¬ session.watch.settings.HasRoom → (∃ key, session.IsDue now key) →
      session.sweep Session.quiet now = (.error .capacity, session.markedAt (now - range))) := by
  intro session range
  have keyed : session.watch.WellKeyed :=
    runAll_wellKeyed (fresh_wellKeyed settings start shared) steps
  refine ⟨fun early => ?_, fun late ready => ?_, fun late lack ⟨key, due⟩ => ?_⟩
  · exact Session.sweep_of_early (if_neg (Nat.not_le_of_lt early))
  · exact Session.exists_accounts keyed nonempty distinct late ready
  · refine Session.sweep_of_not_hasRoom (if_pos late) ?_ lack
    exact fun nothing => (Session.due_eq_nil_iff keyed.ordered now).mp nothing key due

/-- Five documents are due: one cannot be stored, two are committed in a batch, and two fail with
their batch as the segment of one of them is offline.  A sixth is not due yet. -/
theorem sweep_accounts_over_outage :
    let note (id : String) : SharedDocument := ⟨id, .object [("n", .ofInt 1)]⟩
    let shared := [note "a", ⟨"b", .null⟩, note "c", note "d", note "e", note "f"]
    let settings : WatchSettings := { range := 5, batchSize := 2, durability := .atLeastOnce }
    let start : ClusterStore := .ofCluster { segments := ["east", "west"] } 1
    let store : ClusterStore := { start with cluster := start.cluster.setOffline "west" true }
    let watches := (List.range 6).map fun handle => WatchStep.watch "notes" handle 0
    let updates := ["a", "b", "c", "d", "e"].map fun id => WatchStep.update "notes" id 1
    let steps := watches ++ updates ++ [.update "notes" "f" 8]
    let session := { runAll steps (fresh settings start shared) with store := store }
    ∃ due committed, session.Accounts 10 due committed { staged := 4, committed := 2, failed := 3 }
      (session.sweep Session.quiet 10).2 := by
  intro note shared settings start store watches updates steps session
  have counted : (session.sweep Session.quiet 10).1.toOption =
      some { staged := 4, committed := 2, failed := 3 } := by decide +kernel
  obtain ⟨-, accounts, -⟩ :=
    @sweep_accounts_for_due settings start store shared steps (by decide) (by decide) 10
  obtain ⟨report, due, committed, told, account⟩ :=
    accounts (by decide +kernel) (Or.inl (by decide +kernel))
  rw [told] at counted
  cases counted
  exact ⟨due, committed, account⟩

end WatchStep

end Polystore
