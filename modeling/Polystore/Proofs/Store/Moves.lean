import Polystore.Proofs.Filter.Cache
import Polystore.Proofs.Store.Paging
import Polystore.Proofs.Store.Recorded

/-!
# What happens to a cursor store

Clients call a store, its nodes come and go, and pages are forgotten.  Whatever happens
is a change of the documents by operations that are recorded, or a query that leaves the
documents alone, or the forgetting of pages.
-/

namespace Polystore

/-! ## Operations and ids -/

namespace Operation

/-- An operation writes the document of an id, or drops its collection. -/
def Touches (collection id : String) : Operation → Prop
  | put changed name _ | delete changed name => changed = collection ∧ name = id
  | drop changed => changed = collection

instance (collection id : String) :
    (operation : Operation) → Decidable (operation.Touches collection id)
  | put changed name _ | delete changed name =>
      inferInstanceAs (Decidable (changed = collection ∧ name = id))
  | drop changed => inferInstanceAs (Decidable (changed = collection))

theorem effects_append (operations more : List Operation) (collection id : String)
    (found : Option Json) :
    effects (operations ++ more) collection id found =
      effects more collection id (effects operations collection id found) :=
  List.foldl_append

/-- Operations that do not touch an id leave its document. -/
theorem effects_of_untouched {operations : List Operation} {collection id : String}
    (untouched : ∀ operation ∈ operations, ¬operation.Touches collection id)
    (found : Option Json) : effects operations collection id found = found := by
  apply effects_of_idle
  intro operation member
  have spared := untouched operation member
  cases operation with
  | put changed name stored =>
      apply if_neg
      rintro ⟨rfl, rfl⟩
      exact spared ⟨rfl, rfl⟩
  | delete changed name =>
      apply if_neg
      rintro ⟨rfl, rfl⟩
      exact spared ⟨rfl, rfl⟩
  | drop changed =>
      apply if_neg
      rintro rfl
      exact spared rfl

end Operation

namespace CursorStore

variable {store : CursorStore}

theorem servePage_frame (query : Query) (filter : Filter.CursorFilter) (paging : Paging)
    (after : Option Marker) (store : CursorStore) :
    ∃ memo, (servePage query filter paging after store).2 = { store with memo := memo } ∧
      ∀ signature size, ¬(signature = query.signature ∧ size = paging.size) →
        memo.ends signature size = store.memo.ends signature size := by
  rw [servePage]
  split
  · exact ⟨store.memo, rfl, fun _ _ _ => rfl⟩
  · refine ⟨_, rfl, ?_⟩
    intro signature size apart
    exact PageMemo.ends_record _ apart _ _

theorem runPage_frame (query : Query) (filter : Filter.CursorFilter) (paging : Paging)
    (store : CursorStore) :
    ∃ memo, (runPage query filter paging store).2 = { store with memo := memo } ∧
      ∀ signature size, ¬(signature = query.signature ∧ size = paging.size) →
        memo.ends signature size = store.memo.ends signature size := by
  have located := fun (signature : String) (size : Nat)
      (apart : ¬(signature = query.signature ∧ size = paging.size)) =>
    PageMemo.ends_locate store.memo apart (fetch query filter) store.cluster
  rw [runPage]
  split
  next start memo source found =>
  rw [found] at located
  have served (after : Option Marker) :
      ∃ last, (servePage query filter paging after { store with memo := memo }).2 =
          { store with memo := last } ∧
        ∀ signature size, ¬(signature = query.signature ∧ size = paging.size) →
          last.ends signature size = store.memo.ends signature size := by
    obtain ⟨last, left, same⟩ :=
      servePage_frame query filter paging after { store with memo := memo }
    refine ⟨last, left, ?_⟩
    intro signature size apart
    exact (same signature size apart).trans (located signature size apart)
  cases start with
  | error cause => exact ⟨memo, rfl, located⟩
  | ok start =>
      cases start with
      | first => exact served none
      | after marker => exact served (some marker)
      | exhausted => exact ⟨memo, rfl, located⟩

/-- A query leaves the documents, looks up its own signature, and changes what is known of
the pages of its own size. -/
theorem query_frame (asked : Query) (store : CursorStore) :
    ∃ memo, (CursorStore.query asked store).2 =
        { store with
          cache := (store.cache.getOrCompile asked.signature
            fun _ => Filter.cursor.compile asked.condition).2
          memo := memo } ∧
      ∀ signature size,
        (∀ paging ∈ asked.page?, ¬(signature = asked.signature ∧ size = paging.size)) →
          memo.ends signature size = store.memo.ends signature size := by
  rw [CursorStore.query]
  rcases store.cache.getOrCompile asked.signature
    fun _ => Filter.cursor.compile asked.condition with ⟨_ | filter, cache⟩
  · exact ⟨store.memo, rfl, fun _ _ _ => rfl⟩
  · dsimp only
    rw [runWith]
    split
    · exact ⟨store.memo, rfl, fun _ _ _ => rfl⟩
    · split
      · next paging page =>
        obtain ⟨memo, left, same⟩ :=
          runPage_frame asked filter paging { store with cache := cache }
        refine ⟨memo, left, ?_⟩
        intro signature size apart
        exact same signature size (apart paging page)
      · exact ⟨store.memo, rfl, fun _ _ _ => rfl⟩

end CursorStore

/-! ## Events -/

/-- What happens to a cursor store between two requests of a reader. -/
inductive StoreEvent where
  | call (step : ClientStep)
  | setOffline (address : String) (offline : Bool)
  | forget (asked : Query)

namespace StoreEvent

/-- What an event leaves. -/
def meet (client : Client (Recorded CursorStore)) :
    StoreEvent → Client (Recorded CursorStore)
  | call step => (client.run step).2
  | setOffline address offline =>
      { client with store := { client.store with
          store := Networked.setOffline address offline client.store.store } }
  | forget asked => { client with store := DocumentStore.forgetPages asked client.store }

/-- An event that puts documents with integers that fit a signed word only. -/
def IsIntegral : StoreEvent → Prop
  | call step => step.IsIntegral
  | setOffline _ _ | forget _ => True

instance : (event : StoreEvent) → Decidable event.IsIntegral
  | call step => inferInstanceAs (Decidable step.IsIntegral)
  | setOffline _ _ | forget _ => isTrue trivial

/-- An event that runs no other query under the signature of a query. -/
def Agrees (query : Query) : StoreEvent → Prop
  | call step => ∀ asked ∈ step.query?, asked.signature = query.signature →
      asked.condition = query.condition
  | setOffline _ _ | forget _ => True

/-- An event that neither asks for a page of a query at one size nor forgets its pages.
Pages at other sizes may be asked for. -/
def Leaves (query : Query) (size : Nat) : StoreEvent → Prop
  | call step => ∀ asked ∈ step.query?, asked.signature = query.signature →
      ∀ paging ∈ asked.page?, paging.size ≠ size
  | setOffline _ _ => True
  | forget asked => asked.signature ≠ query.signature

end StoreEvent

namespace Client

/-- The cluster behind a client. -/
def cluster (client : Client (Recorded CursorStore)) : Cluster :=
  client.store.store.cluster

/-- A client of filed documents, with filed documents staged. -/
structure Files (client : Client (Recorded CursorStore)) : Prop where
  keeps : client.cluster.Keeps Document.Filed
  stages : ∀ number, (client.transactions number).Stages

/-- Operations were carried out and put on record, and nothing but documents and
transactions changed. -/
structure Changed (operations : List Operation)
    (client after : Client (Recorded CursorStore)) : Prop where
  recorded : after.store.operations = client.store.operations ++ operations
  documents : ∀ collection id, after.cluster.document? collection id =
    Operation.effects operations collection id (client.cluster.document? collection id)
  files : after.Files
  cache : after.store.store.cache = client.store.store.cache
  memo : after.store.store.memo = client.store.store.memo

variable {client after : Client (Recorded CursorStore)} {operations : List Operation}

theorem Changed.refl (files : client.Files) : Changed [] client client where
  recorded := (List.append_nil _).symm
  documents _ _ := rfl
  files := files
  cache := rfl
  memo := rfl

theorem Changed.keep (changed : Changed operations client after) (number : Nat)
    {transaction : Transaction} (stages : transaction.Stages) :
    Changed operations client (after.keep number transaction) where
  recorded := changed.recorded
  documents := changed.documents
  files := ⟨changed.files.keeps, stages_keep changed.files.stages number stages⟩
  cache := changed.cache
  memo := changed.memo

/-- A recorded call that carries out operations or fails changes documents only. -/
theorem Files.call (files : client.Files) (operations : List Operation)
    (action : Cluster → Outcome Cluster Unit)
    (respect : ∀ operation ∈ operations, operation.Respects Document.Filed)
    (outcome : ((action client.cluster).1 = .ok () ∧
        Cluster.Performs operations client.cluster (action client.cluster).2) ∨
      ∃ cause, (action client.cluster).1 = .error cause ∧
        Cluster.Performs [] client.cluster (action client.cluster).2) :
    ∃ carried, Changed carried client { client with
      store := (client.store.call operations
        (CursorStore.onCluster action client.store.store)).2 } := by
  rcases outcome with ⟨succeeded, performs⟩ | ⟨cause, failed, performs⟩
  · have answered : (CursorStore.onCluster action client.store.store).1 = .ok () := succeeded
    exact ⟨operations, Recorded.operations_call_of_ok operations answered client.store,
      performs.document? files.keeps.nonempty,
      ⟨performs.keeps files.keeps respect, files.stages⟩, rfl, rfl⟩
  · have refused : (CursorStore.onCluster action client.store.store).1 = .error cause := failed
    refine ⟨[], ?_, performs.document? files.keeps.nonempty,
      ⟨performs.keeps files.keeps ?_, files.stages⟩, rfl, rfl⟩
    · rw [List.append_nil]
      exact Recorded.operations_call_of_error operations refused client.store
    · intro operation member
      contradiction

theorem Files.commit (files : client.Files)
    (respect : ∀ operation ∈ operations, operation.Respects Document.Filed) :
    ∃ carried, Changed carried client { client with
      store := (DocumentStore.commit operations client.store).2 } := by
  apply files.call operations (Cluster.commit operations) respect
  rcases Cluster.commit_cases files.keeps.distinct
    (Prod.eta (Cluster.commit operations client.cluster)).symm with
    ⟨succeeded, -, performs⟩ | ⟨cause, failed, same⟩
  · exact Or.inl ⟨succeeded, performs⟩
  · apply Or.inr
    rw [same]
    exact ⟨cause, failed, .refl _⟩

/-- A call changes documents by operations that it records, or runs a query. -/
theorem Files.run (files : client.Files) {step : ClientStep} (integral : step.IsIntegral) :
    (∃ carried, Changed carried client (client.run step).2) ∨ ∃ asked, step = .query asked := by
  have unchanged := Changed.refl files
  cases step with
  | query asked => exact Or.inr ⟨asked, rfl⟩
  | put collection id value =>
      apply Or.inl
      apply files.call _ (fun cluster => cluster.put collection id value)
        (Operation.respects_forPut collection id (integral value rfl))
      rcases Cluster.put_cases files.keeps.distinct (Prod.eta _).symm with
        ⟨stored, succeeded, -, form, performs⟩ | failed
      · apply Or.inl
        constructor
        · exact succeeded
        · rw [Operation.forPut, form]
          exact performs
      · exact Or.inr failed
  | delete collection id =>
      apply Or.inl
      apply files.call [.delete collection id] fun cluster => cluster.delete collection id
      · intro operation member
        rw [List.mem_singleton.mp member]
        trivial
      · exact Cluster.delete_cases files.keeps.distinct (Prod.eta _).symm
  | createCollection collection =>
      apply Or.inl
      apply files.call [] fun cluster => cluster.createCollection collection
      · intro operation member
        contradiction
      · have performs := Cluster.performs_createCollection
          (Prod.eta (client.cluster.createCollection collection)).symm
        cases (client.cluster.createCollection collection).1 with
        | ok _ => exact Or.inl ⟨rfl, performs⟩
        | error cause => exact Or.inr ⟨cause, rfl, performs⟩
  | commit number =>
      apply Or.inl
      have stages := files.stages number
      have left := stages.commit DocumentStore.commit client.store
      rw [Client.run]
      dsimp only
      rcases (client.transactions number).commit_store DocumentStore.commit client.store with
        same | handed
      · rw [same]
        exact ⟨[], unchanged.keep number left⟩
      · rw [handed]
        obtain ⟨carried, changed⟩ := files.commit stages
        exact ⟨carried, changed.keep number left⟩
  | get collection id => exact Or.inl ⟨[], unchanged⟩
  | dropCollection collection => exact Or.inl ⟨[], unchanged⟩
  | countDistinct asked field => exact Or.inl ⟨[], unchanged⟩
  | start number => exact Or.inl ⟨[], unchanged.keep number Transaction.stages_start⟩
  | stagePut number collection id value =>
      exact Or.inl ⟨[], unchanged.keep number
        ((files.stages number).put collection id (integral value rfl))⟩
  | stageDelete number collection id =>
      exact Or.inl ⟨[], unchanged.keep number ((files.stages number).stage trivial)⟩
  | stageDrop number collection =>
      exact Or.inl ⟨[], unchanged.keep number ((files.stages number).stage trivial)⟩
  | rollback number => exact Or.inl ⟨[], unchanged.keep number Transaction.stages_start⟩

/-- A client of filed documents that holds no filter for a query but its own. -/
structure Reads (query : Query) (client : Client (Recorded CursorStore)) : Prop where
  files : client.Files
  faithful : client.store.store.cache.Faithful query.signature
    (Filter.cursor.compile query.condition)

/-- What an event leaves is what its recorded operations make of the documents. -/
def Follows (client after : Client (Recorded CursorStore)) : Prop :=
  ∃ carried, after.store.operations = client.store.operations ++ carried ∧
    ∀ collection id, after.cluster.document? collection id =
      Operation.effects carried collection id (client.cluster.document? collection id)

/-- The ends of the pages of a query at one size that a client's store remembers. -/
def ends (client : Client (Recorded CursorStore)) (query : Query) (size : Nat) : List Marker :=
  client.store.store.memo.ends query.signature size

variable {query : Query} {size : Nat}

theorem Changed.follows (changed : Changed operations client after) : client.Follows after :=
  ⟨operations, changed.recorded, changed.documents⟩

theorem Changed.reads (changed : Changed operations client after) (reads : client.Reads query) :
    after.Reads query where
  files := changed.files
  faithful := by
    rw [changed.cache]
    exact reads.faithful

/-- A query leaves the documents, a filter of its own, and pages that it does not ask for. -/
theorem Reads.query_left (reads : client.Reads query) (asked : Query)
    (agrees : asked.signature = query.signature → asked.condition = query.condition) :
    (CursorStore.query asked client.store.store).2.cluster = client.cluster ∧
      (CursorStore.query asked client.store.store).2.cache.Faithful query.signature
        (Filter.cursor.compile query.condition) ∧
      ∀ size, (∀ paging ∈ asked.page?, ¬(query.signature = asked.signature ∧ size = paging.size)) →
        (CursorStore.query asked client.store.store).2.memo.ends query.signature size =
          client.ends query size := by
  obtain ⟨memo, left, same⟩ := CursorStore.query_frame asked client.store.store
  rw [left]
  refine ⟨rfl, ?_, same query.signature⟩
  apply reads.faithful.getOrCompile
  intro alike
  rw [agrees alike]

end Client

namespace StoreEvent

variable {client : Client (Recorded CursorStore)} {query : Query} {event : StoreEvent}

/-- An event puts its operations on record and keeps a reader's store sound. -/
theorem meet_of_reads (reads : client.Reads query) (integral : event.IsIntegral)
    (agrees : event.Agrees query) :
    client.Follows (event.meet client) ∧ (event.meet client).Reads query := by
  have still (same : (event.meet client).store.operations = client.store.operations)
      (documents : ∀ collection id, (event.meet client).cluster.document? collection id =
        client.cluster.document? collection id) : client.Follows (event.meet client) := by
    refine ⟨[], ?_, documents⟩
    rw [List.append_nil]
    exact same
  cases event with
  | call step =>
      rcases reads.files.run integral with ⟨carried, changed⟩ | ⟨asked, rfl⟩
      · exact ⟨changed.follows, changed.reads reads⟩
      · obtain ⟨cluster, faithful, -⟩ := reads.query_left asked (agrees asked rfl)
        constructor
        · apply still rfl
          intro collection id
          exact congrArg (Cluster.document? · collection id) cluster
        · refine ⟨⟨?_, reads.files.stages⟩, faithful⟩
          exact (congrArg (Cluster.Keeps Document.Filed) cluster).mpr reads.files.keeps
  | setOffline address offline =>
      constructor
      · apply still rfl
        intro collection id
        exact client.cluster.document?_setOffline address offline collection id
      · exact ⟨⟨reads.files.keeps.setOffline address offline, reads.files.stages⟩, reads.faithful⟩
  | forget asked =>
      have spared : (CursorStore.forgetPages asked client.store.store).cluster = client.cluster ∧
          (CursorStore.forgetPages asked client.store.store).cache =
            client.store.store.cache := by
        rw [CursorStore.forgetPages]
        split
        · exact ⟨rfl, rfl⟩
        · exact ⟨rfl, rfl⟩
      constructor
      · apply still rfl
        intro collection id
        exact congrArg (Cluster.document? · collection id) spared.1
      · refine ⟨⟨?_, reads.files.stages⟩, ?_⟩
        · exact (congrArg (Cluster.Keeps Document.Filed) spared.1).mpr reads.files.keeps
        · exact (congrArg (Filter.Cache.Faithful · _ _) spared.2).mpr reads.faithful

/-- An event that leaves the pages of a query at one size alone changes none of their ends. -/
theorem ends_meet (reads : client.Reads query) (integral : event.IsIntegral)
    (agrees : event.Agrees query) {size : Nat} (leaves : event.Leaves query size) :
    (event.meet client).ends query size = client.ends query size := by
  cases event with
  | call step =>
      rcases reads.files.run integral with ⟨carried, changed⟩ | ⟨asked, rfl⟩
      · exact congrArg (PageMemo.ends · query.signature size) changed.memo
      · obtain ⟨-, -, same⟩ := reads.query_left asked (agrees asked rfl)
        apply same
        rintro paging page ⟨alike, level⟩
        exact leaves asked rfl alike.symm paging page level.symm
  | setOffline address offline => rfl
  | forget asked =>
      rw [meet, Client.ends, Client.ends]
      change (CursorStore.forgetPages asked client.store.store).memo.ends query.signature size = _
      rw [CursorStore.forgetPages]
      split
      · exact (PageMemo.ends_clean _ _ _ _).trans (if_neg fun same => leaves same.symm)
      · rfl

/-- What some events leave. -/
def meetAll (events : List StoreEvent) (client : Client (Recorded CursorStore)) :
    Client (Recorded CursorStore) :=
  events.foldl meet client

theorem reads_meetAll {events : List StoreEvent} (reads : client.Reads query)
    (integral : ∀ event ∈ events, event.IsIntegral)
    (agrees : ∀ event ∈ events, event.Agrees query) : (meetAll events client).Reads query := by
  induction events generalizing client with
  | nil => exact reads
  | cons event rest ih =>
      apply ih
      · exact (meet_of_reads reads (integral event List.mem_cons_self)
          (agrees event List.mem_cons_self)).2
      · intro later member
        exact integral later (List.mem_cons_of_mem _ member)
      · intro later member
        exact agrees later (List.mem_cons_of_mem _ member)

end StoreEvent

end Polystore
