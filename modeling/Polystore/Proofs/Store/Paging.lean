import Polystore.Proofs.Cluster.Connection
import Polystore.Proofs.Cluster.Online
import Polystore.Proofs.Store.Cursor

/-!
# Pages in any order

Whatever pages of a query were asked for before, at whatever sizes, and whichever nodes
came and went, a page that is asked for while every node can be reached is the slice of
the unpaged result, and a page that is asked for while some node cannot be reached fails
and leaves no trace in later answers.
-/

namespace Polystore

/-- The same query for a page. -/
def Query.paged (query : Query) (paging : Paging) : Query :=
  { query with paging := some paging }

/-! ## Held filters -/

namespace Filter.Cache

variable {φ : Type} {cache : Cache φ} {signature : String} {filter : φ}

theorem eq_of_get?_promote {found : φ}
    (held : (cache.promote signature filter).get? signature = some found) : found = filter := by
  rw [promote, get?] at held
  dsimp only at held
  cases room : cache.capacity with
  | zero =>
      rw [room, List.take_zero] at held
      contradiction
  | succ slots =>
      rw [room, List.take_succ_cons, List.lookup_cons_self] at held
      exact (Option.some.inj held).symm

/-- If no other filter is held under a signature, the one that compiles is given and held. -/
theorem getOrCompile_of_held (held : ∀ found, cache.get? signature = some found → found = filter)
    (compile : Unit → Except Error φ) (compiled : compile () = .ok filter) :
    ∃ after, cache.getOrCompile signature compile = (.ok filter, after) ∧
      ∀ found, after.get? signature = some found → found = filter := by
  rw [getOrCompile]
  cases here : cache.get? signature with
  | some other =>
      rw [held other here]
      exact ⟨_, rfl, fun found => eq_of_get?_promote⟩
  | none =>
      rw [compiled]
      exact ⟨_, rfl, fun found => eq_of_get?_promote⟩

end Filter.Cache

/-! ## Nodes that come and go -/

namespace Cluster

theorem Keeps.setOffline {kind : String → String → Json → Prop} {cluster : Cluster}
    (keeps : cluster.Keeps kind) (address : String) (offline : Bool) :
    (cluster.setOffline address offline).Keeps kind where
  nonempty := keeps.nonempty
  distinct := keeps.distinct
  nodes place := (keeps.nodes place).congr (cluster.documents_setOffline address offline _)

theorem passing_setOffline (cluster : Cluster) (address : String) (offline : Bool)
    (collection : String) (keep : Json → Bool) :
    (cluster.setOffline address offline).passing collection keep =
      cluster.passing collection keep := by
  simp only [passing, documents_setOffline]
  rfl

end Cluster

namespace CursorStore

open Marker

/-! ## Requests for pages -/

/-- A store of filed documents that holds no filter for a query but its own, and remembers
no page ends but those of its documents. -/
structure Serves (query : Query) (filter : Filter.CursorFilter) (store : CursorStore) : Prop where
  keeps : store.cluster.Keeps Document.Filed
  held : ∀ found, store.cache.get? query.signature = some found → found = filter
  fits : MemoFits query filter store.cluster store.memo

section

variable {query : Query} {filter : Filter.CursorFilter} {store : CursorStore}

/-- A query whose filter is not confused with another runs with its own. -/
theorem query_of_held (query : Query)
    (held : ∀ found, store.cache.get? query.signature = some found → found = filter)
    (compiled : Filter.cursor.compile query.condition = .ok filter) :
    ∃ cache, (∀ found, cache.get? query.signature = some found → found = filter) ∧
      CursorStore.query query store =
        (.ofExcept (runWith query filter { store with cache := cache }).1,
          (runWith query filter { store with cache := cache }).2) := by
  obtain ⟨cache, got, after⟩ := Filter.Cache.getOrCompile_of_held held
    (fun _ => Filter.cursor.compile query.condition) compiled
  refine ⟨cache, after, ?_⟩
  rw [CursorStore.query, got]

/-- While all nodes can be reached, the unpaged query gives the whole list. -/
theorem Serves.unpaged (serves : Serves query filter store) (streams : query.selectOne = false)
    (compiled : Filter.cursor.compile query.condition = .ok filter)
    (online : store.cluster.AllOnline) :
    (CursorStore.query query.unpaged store).1 =
      .many ((ordered store.cluster query filter).map Document.withoutId)
        (ordered store.cluster query filter).length := by
  obtain ⟨cache, -, asked⟩ := query_of_held query.unpaged serves.held compiled
  have start : PageMemo.Tells (ofDocument query.order) (ordered store.cluster query filter) none 0 :=
    rfl
  have read : readAfter store.cluster query.unpaged filter none =
      .ok (ordered store.cluster query filter) :=
    readAfter_of_allOnline serves.keeps online start
  have several : ¬query.unpaged.selectOne = true := Bool.eq_false_iff.mp streams
  rw [asked, runWith, if_neg several]
  dsimp only [Query.page?, Query.unpaged]
  exact congrArg Answer.ofExcept (congrArg _ read)

/-- Every request for a page is answered by a slice, or fails, and keeps the store so. -/
theorem Serves.request (serves : Serves query filter store) (streams : query.selectOne = false)
    (compiled : Filter.cursor.compile query.condition = .ok filter) {paging : Paging}
    (positive : 0 < paging.size) :
    ∃ after, CursorStore.query (query.paged paging) store =
        (pageAnswer store.cluster query filter paging, after) ∧
      after.cluster = store.cluster ∧ Serves query filter after := by
  obtain ⟨cache, held, asked⟩ := query_of_held (query.paged paging) serves.held compiled
  have page : (query.paged paging).page? = some paging := if_pos ⟨positive, streams⟩
  have several : ¬(query.paged paging).selectOne = true := Bool.eq_false_iff.mp streams
  have served (memo : PageMemo Marker) (fits : MemoFits query filter store.cluster memo) :
      Serves query filter { store with cache := cache, memo := memo } := ⟨serves.keeps, held, fits⟩
  rw [asked, runWith, if_neg several, page]
  dsimp only
  by_cases online : store.cluster.AllOnline
  · obtain ⟨answer, memo, answered, rfl, fits⟩ := runPage_of_allOnline
      (query.paged paging) { store with cache := cache } serves.keeps online serves.fits positive
    rw [answered]
    exact ⟨_, rfl, rfl, served memo fits⟩
  · obtain ⟨address, failed⟩ := readAfter_of_not_allOnline online (query.paged paging) filter
    obtain ⟨memo, answered, fits⟩ := runPage_of_error (query.paged paging)
      { store with cache := cache } failed serves.fits positive
    rw [answered, pageAnswer_of_error query failed]
    exact ⟨_, rfl, rfl, served memo fits⟩

end

instance : Networked CursorStore where
  setOffline address offline store :=
    { store with cluster := store.cluster.setOffline address offline }

end CursorStore

/-! ## Runs -/

/-- What happens while the pages of a query are read. -/
inductive PageEvent where
  | request (paging : Paging) (positive : 0 < paging.size)
  /-- The pages of the query are forgotten, if it is given with a page. -/
  | forget (paging : Option Paging)
  | setOffline (address : String) (offline : Bool)

namespace PageEvent

open CursorStore

/-- The answer to a request, and what an event leaves. -/
def run (query : Query) (store : CursorStore) : PageEvent → Option Answer × CursorStore
  | request paging _ =>
      let (answer, store) := DocumentStore.query (query.paged paging) store
      (some answer, store)
  | forget paging => (none, DocumentStore.forgetPages { query with paging := paging } store)
  | setOffline address offline => (none, Networked.setOffline address offline store)

/-- The answers to the requests of a run, and what it leaves. -/
def runAll (query : Query) : List PageEvent → CursorStore → List (Option Answer) × CursorStore
  | [], store => ([], store)
  | event :: rest, store =>
      let (answer, store) := event.run query store
      let (answers, store) := runAll query rest store
      (answer :: answers, store)

/-- What an event does to the nodes. -/
def move (cluster : Cluster) : PageEvent → Cluster
  | request _ _ | forget _ => cluster
  | setOffline address offline => cluster.setOffline address offline

/-- The answer to a request that reads everything and cuts the page out. -/
def expected (query : Query) (filter : Filter.CursorFilter) (cluster : Cluster) :
    PageEvent → Option Answer
  | request paging _ => some (pageAnswer cluster query filter paging)
  | forget _ | setOffline _ _ => none

/-- The answers to requests that read everything each time. -/
def expectedAll (query : Query) (filter : Filter.CursorFilter) :
    List PageEvent → Cluster → List (Option Answer)
  | [], _ => []
  | event :: rest, cluster =>
      event.expected query filter cluster :: expectedAll query filter rest (event.move cluster)

section

variable {query : Query} {filter : Filter.CursorFilter} {store : CursorStore}

/-- The documents do not change in a run. -/
theorem ordered_move (query : Query) (filter : Filter.CursorFilter) (event : PageEvent)
    (cluster : Cluster) :
    ordered (event.move cluster) query filter = ordered cluster query filter := by
  cases event with
  | request paging positive => rfl
  | forget paging => rfl
  | setOffline address offline =>
      rw [move, ordered, ordered, Cluster.passing_setOffline]

/-- An event is answered as if everything was read, and keeps the store so. -/
theorem run_of_serves (serves : Serves query filter store) (streams : query.selectOne = false)
    (compiled : Filter.cursor.compile query.condition = .ok filter) (event : PageEvent) :
    ∃ after, event.run query store = (event.expected query filter store.cluster, after) ∧
      after.cluster = event.move store.cluster ∧ Serves query filter after := by
  cases event with
  | request paging positive =>
      obtain ⟨after, asked, kept, served⟩ := serves.request streams compiled positive
      refine ⟨after, ?_, kept, served⟩
      have run : DocumentStore.query (query.paged paging) store =
          (pageAnswer store.cluster query filter paging, after) := asked
      rw [PageEvent.run, run]
      rfl
  | forget paging =>
      refine ⟨_, rfl, ?_⟩
      cases paging with
      | none => exact ⟨rfl, serves⟩
      | some paging =>
          exact ⟨rfl, serves.keeps, serves.held, PageMemo.remembers_clean _ _ _ store.memo⟩
  | setOffline address offline =>
      refine ⟨_, rfl, rfl, serves.keeps.setOffline address offline, serves.held, ?_⟩
      have same := ordered_move query filter (setOffline address offline)
        store.cluster
      change MemoFits query filter ((setOffline address offline).move store.cluster) store.memo
      rw [MemoFits, same]
      exact serves.fits

/-- All requests of a run are answered as if everything was read each time. -/
theorem runAll_of_serves (serves : Serves query filter store) (streams : query.selectOne = false)
    (compiled : Filter.cursor.compile query.condition = .ok filter) (events : List PageEvent) :
    (runAll query events store).1 = expectedAll query filter events store.cluster ∧
      ordered (runAll query events store).2.cluster query filter =
        ordered store.cluster query filter ∧
      Serves query filter (runAll query events store).2 := by
  induction events generalizing store with
  | nil => exact ⟨rfl, rfl, serves⟩
  | cons event rest ih =>
      obtain ⟨after, ran, moved, served⟩ := run_of_serves serves streams compiled event
      obtain ⟨answers, documents, last⟩ := ih served
      rw [runAll, ran]
      dsimp only
      rw [answers, documents, moved, ordered_move]
      exact ⟨rfl, rfl, last⟩

end

end PageEvent

/-! ## Stores that were filled -/

/-- A client of a cursor store that holds filed documents and has run no query yet. -/
structure Client.Fills (capacity : Nat) (client : Client CursorStore) : Prop where
  keeps : client.store.cluster.Keeps Document.Filed
  online : client.store.cluster.AllOnline
  fresh : client.store = .ofCluster client.store.cluster capacity
  stages : ∀ number, (client.transactions number).Stages

namespace Client.Fills

variable {capacity : Nat} {client : Client CursorStore}

/-- The cluster may perform operations that put filed documents. -/
theorem performs (fills : Fills capacity client) {operations : List Operation} {after : Cluster}
    (performs : Cluster.Performs operations client.store.cluster after)
    (respect : ∀ operation ∈ operations, operation.Respects Document.Filed) :
    Fills capacity { client with store := { client.store with cluster := after } } where
  keeps := performs.keeps fills.keeps respect
  online := performs.allOnline fills.online
  fresh := by
    rw [fills.fresh]
    rfl
  stages := fills.stages

theorem keep (fills : Fills capacity client) (number : Nat) {transaction : Transaction}
    (stages : transaction.Stages) : Fills capacity (client.keep number transaction) where
  keeps := fills.keeps
  online := fills.online
  fresh := fills.fresh
  stages := Client.stages_keep fills.stages number stages

theorem commit (fills : Fills capacity client) (number : Nat) :
    Fills capacity (client.run (.commit number)).2 := by
  have stages := fills.stages number
  have after := stages.commit DocumentStore.commit client.store
  have performs := Cluster.performs_commit fills.keeps.distinct fills.keeps.nonempty fills.online
    (client.transactions number).operations
  rw [Client.run]
  dsimp only
  rcases (client.transactions number).commit_store DocumentStore.commit client.store with
    same | handed
  · rw [same]
    exact fills.keep number after
  · rw [handed]
    exact (fills.performs performs stages).keep number after

/-- Steps that run no query leave the store to be queried for the first time. -/
theorem run (fills : Fills capacity client) {step : ClientStep} (plain : step.IsPlain)
    (integral : step.IsIntegral) : Fills capacity (client.run step).2 := by
  have distinct := fills.keeps.distinct
  have nonempty := fills.keeps.nonempty
  cases step with
  | put collection id value =>
      exact fills.performs (Cluster.performs_put distinct nonempty fills.online collection id value)
        (Operation.respects_forPut collection id (integral value rfl))
  | get collection id => exact fills
  | delete collection id =>
      exact fills.performs (Cluster.performs_delete distinct nonempty fills.online collection id)
        (Operation.respects_deletion _ _ _ _)
  | createCollection collection =>
      exact fills.performs (Cluster.performs_createCollection
        (rfl : client.store.cluster.createCollection collection = (_, _)))
        fun _ member => absurd member List.not_mem_nil
  | dropCollection collection => exact fills
  | query query => contradiction
  | countDistinct query field => contradiction
  | start number => exact fills.keep number Transaction.stages_start
  | stagePut number collection id value =>
      exact fills.keep number ((fills.stages number).put collection id (integral value rfl))
  | stageDelete number collection id => exact fills.keep number ((fills.stages number).stage trivial)
  | stageDrop number collection => exact fills.keep number ((fills.stages number).stage trivial)
  | commit number => exact fills.commit number
  | rollback number => exact fills.keep number Transaction.stages_start

theorem runAll (fills : Fills capacity client) {steps : List ClientStep}
    (plain : ∀ step ∈ steps, step.IsPlain) (integral : ∀ step ∈ steps, step.IsIntegral) :
    Fills capacity (Client.runAll steps client).2 := by
  induction steps generalizing client with
  | nil => exact fills
  | cons step rest ih =>
      exact ih (fills.run (plain step List.mem_cons_self) (integral step List.mem_cons_self))
        (fun later member => plain later (List.mem_cons_of_mem _ member))
        fun later member => integral later (List.mem_cons_of_mem _ member)

/-- A filled store serves any query. -/
theorem serves (fills : Fills capacity client) (query : Query) (filter : Filter.CursorFilter) :
    client.store.Serves query filter where
  keeps := fills.keeps
  held found here := by
    rw [fills.fresh] at here
    contradiction
  fits := by
    rw [fills.fresh]
    exact PageMemo.remembers_empty _ _ _

end Client.Fills

/-- A new client of an empty store. -/
theorem Client.fills_ofSpec {spec : Connection.Spec} {hasFile : String → Bool}
    {pool : Pool String} (connected : Pool.ofSpec spec (Cluster.connector hasFile) = .ok pool)
    (distinct : (spec.clusters.map Connection.Descriptor.address).Nodup) (capacity : Nat) :
    Fills capacity ⟨.ofCluster (.ofPool pool) capacity, fun _ => .start⟩ where
  keeps := Cluster.keeps_ofPool _ (Cluster.segments_ofPool connected ▸ distinct)
  online := Cluster.allOnline_ofPool pool
  fresh := rfl
  stages _ := Transaction.stages_start

namespace CursorStore

open Connection

/-- A page is the slice of the unpaged result whenever every node can be reached, whatever
was asked for before; otherwise the request fails, and later answers are as without it. -/
theorem page_eq_slice_of_unpaged {spec : Spec} {hasFile : String → Bool} {pool : Pool String}
    (connected : Pool.ofSpec spec (Cluster.connector hasFile) = .ok pool)
    (distinct : (spec.clusters.map Descriptor.address).Nodup) (capacity : Nat)
    {steps : List ClientStep} (plain : ∀ step ∈ steps, step.IsPlain)
    (integral : ∀ step ∈ steps, step.IsIntegral) {query : Query}
    (streams : query.selectOne = false) {filter : Filter.CursorFilter}
    (compiled : Filter.cursor.compile query.condition = .ok filter) (events : List PageEvent)
    {paging : Paging} (positive : 0 < paging.size) :
    let filled := (Client.runAll steps ⟨ofCluster (.ofPool pool) capacity, fun _ => .start⟩).2.store
    let all := (CursorStore.query query.unpaged filled).1.documents
    let store := (PageEvent.runAll query events filled).2
    let reply := CursorStore.query (query.paged paging) store
    (CursorStore.query query.unpaged filled).1 = .many all all.length ∧
      (store.cluster.AllOnline → reply.1 =
        if paging.skip ≤ all.length then .many (paging.slice all) (paging.slice all).length
        else .exhausted) ∧
      (¬store.cluster.AllOnline →
        (∃ cause, reply.1 = .failed cause ∧ cause.kind = .transportFailure) ∧
          ∀ later, (PageEvent.runAll query later reply.2).1 =
            (PageEvent.runAll query later store).1) := by
  intro filled all store reply
  have fills := (Client.fills_ofSpec connected distinct capacity).runAll plain integral
  have serves : Serves query filter filled := fills.serves query filter
  have unpaged := serves.unpaged streams compiled fills.online
  have listed : all = (ordered filled.cluster query filter).map Document.withoutId := by
    simp only [all, unpaged]
    rfl
  obtain ⟨-, documents, served⟩ := PageEvent.runAll_of_serves serves streams compiled events
  obtain ⟨after, asked, kept, afterServes⟩ := served.request streams compiled positive
  have answered : reply = (pageAnswer store.cluster query filter paging, after) := asked
  refine ⟨?_, ?_, ?_⟩
  · rw [unpaged, listed, List.length_map]
  · intro online
    rw [answered, pageAnswer_of_allOnline served.keeps online, documents, listed, Paging.slice_map,
      List.length_map, List.length_map]
  · intro offline
    obtain ⟨address, failed⟩ := readAfter_of_not_allOnline offline query filter
    constructor
    · refine ⟨.unreachable address, ?_, rfl⟩
      rw [answered]
      exact pageAnswer_of_error query failed
    · intro later
      obtain ⟨answers, -⟩ := PageEvent.runAll_of_serves served streams compiled later
      obtain ⟨others, -⟩ := PageEvent.runAll_of_serves afterServes streams compiled later
      rw [answered, answers, others, kept]

/-- The pool of a specification of two nodes. -/
def twoNodes : Pool String where
  segments := [
    { descriptor := { address := "east" }, connections := ["east"], nonempty := List.cons_ne_nil _ _ },
    { descriptor := { address := "west" }, connections := ["west"], nonempty := List.cons_ne_nil _ _ }]
  nonempty := List.cons_ne_nil _ _

/-- The second page is the rest of three documents, after a jump, an outage and a reset. -/
theorem page_after_outage :
    let steps : List ClientStep := [
      .put "books" "a" (.object [("year", .number (.integer 3))]), .put "books" "b" (.object []),
      .put "books" "c" (.object [("year", .number (.integer 5))])]
    let query : Query := { collection := "books", sorts := [⟨"year", false⟩] }
    let events : List PageEvent := [
      .request ⟨2, 1⟩ (by decide), .setOffline "west" true, .request ⟨1, 2⟩ (by decide),
      .forget (some ⟨0, 1⟩), .setOffline "west" false]
    let filled := (Client.runAll steps ⟨ofCluster (.ofPool twoNodes) 4, fun _ => .start⟩).2.store
    let all := (CursorStore.query query.unpaged filled).1.documents
    (CursorStore.query (query.paged ⟨1, 2⟩) (PageEvent.runAll query events filled).2).1 =
      .many ((all.drop 2).take 2) 1 := by
  intro steps query events filled all
  have connected : Pool.ofSpec ⟨[{ address := "east" }, { address := "west" }]⟩
      (Cluster.connector fun _ => false) = .ok twoNodes := rfl
  have compiled : Filter.cursor.compile query.condition = .ok .all := rfl
  have three : all.length = 3 := by decide +kernel
  have online : (PageEvent.runAll query events filled).2.cluster.AllOnline := by
    rw [Cluster.AllOnline]
    decide +kernel
  obtain ⟨-, served, -⟩ := page_eq_slice_of_unpaged connected (by decide) 4 (by decide)
    (by decide : ∀ step ∈ steps, step.IsIntegral) rfl compiled events
    (by decide : 0 < (⟨1, 2⟩ : Paging).size)
  have rest : ((Paging.mk 1 2).slice all).length = 1 := by
    rw [Paging.slice, List.length_take, List.length_drop, three]
    rfl
  have inside : (Paging.mk 1 2).skip ≤ all.length := by
    rw [three]
    decide
  have answered := served online
  rw [if_pos inside, rest] at answered
  exact answered

end CursorStore

end Polystore
