import Mathlib.Data.List.Forall2
import Polystore.Proofs.Store.Moves

/-!
# Walks under changes

A reader who asks for the pages of a query one after the other is given documents in the
order of the query, whatever is written between the requests.  What is served next comes
after all that was served before, also when the document that ended the last page is gone:
its marker still stands where it stood.  So a document that nobody touches is served once.
-/

namespace Polystore

/-! ## Parting lists -/

/-- If all items before one with a property have it too, a list has those items first. -/
theorem exists_parted {α : Type} (first : α → Bool) {items : List α}
    (downward : items.Pairwise fun earlier later => first later = true → first earlier = true) :
    ∃ before after, items = before ++ after ∧ (∀ item ∈ before, first item = true) ∧
      ∀ item ∈ after, first item = false := by
  induction items with
  | nil => exact ⟨[], [], rfl, List.forall_mem_nil _, List.forall_mem_nil _⟩
  | cons head rest ih =>
      obtain ⟨closed, restClosed⟩ := List.pairwise_cons.mp downward
      cases kept : first head with
      | true =>
          obtain ⟨before, after, rfl, passed, ahead⟩ := ih restClosed
          exact ⟨head :: before, after, rfl, List.forall_mem_cons.mpr ⟨kept, passed⟩, ahead⟩
      | false =>
          refine ⟨[], head :: rest, rfl, List.forall_mem_nil _, ?_⟩
          intro item member
          rcases List.mem_cons.mp member with rfl | later
          · exact kept
          · cases held : first item with
            | false => rfl
            | true => exact absurd (closed item later held) (Bool.eq_false_iff.mp kept)

/-- What lies behind the place that halving finds are the items without the property. -/
theorem drop_bisect {α : Type} (first : α → Bool) {items : List α}
    (downward : items.Pairwise fun earlier later => first later = true → first earlier = true) :
    items.drop (bisect first items) = items.filter fun item => !first item := by
  obtain ⟨before, after, rfl, passed, ahead⟩ := exists_parted first downward
  have none : before.filter (fun item => !first item) = [] := by
    apply List.filter_eq_nil_iff.mpr
    intro item member
    rw [passed item member]
    exact Bool.false_ne_true
  have all : after.filter (fun item => !first item) = after := by
    apply List.filter_eq_self.mpr
    intro item member
    rw [ahead item member]
    rfl
  rw [bisect_append first before after passed ahead, List.drop_left, List.filter_append, none, all]
  rfl

/-! ## Coming after what was served -/

namespace Document

/-- A document that can be placed in the order of a query. -/
def IsFiled (document : Json) : Prop :=
  ∃ id, Filed "" id document

/-- A document comes after the last of some documents. -/
def IsAfter (order : List SortField) (last : Option Json) (document : Json) : Prop :=
  ∀ other ∈ last, compareBy order other document = .lt

end Document

open Document

theorem compareBy_trans {order : List SortField} {first second third : Json}
    (firstFiled : IsFiled first) (secondFiled : IsFiled second) (thirdFiled : IsFiled third)
    (before : compareBy order first second = .lt) (after : compareBy order second third = .lt) :
    compareBy order first third = .lt := by
  obtain ⟨-, -, firstIntegral⟩ := firstFiled
  obtain ⟨-, -, secondIntegral⟩ := secondFiled
  obtain ⟨-, -, thirdIntegral⟩ := thirdFiled
  exact @Std.TransCmp.lt_trans Json.Integral (fun left right => compareBy order left.1 right.1)
    _ ⟨first, firstIntegral⟩ ⟨second, secondIntegral⟩ ⟨third, thirdIntegral⟩ before after

theorem compareBy_irrefl {order : List SortField} {document : Json} (filed : IsFiled document) :
    compareBy order document document ≠ .lt := by
  obtain ⟨-, -, integral⟩ := filed
  have level : compareBy order document document = (compareBy order document document).swap :=
    compareBy_swap integral integral
  intro before
  rw [before] at level
  contradiction

/-- A document after the last that was served comes after all of them. -/
theorem lt_of_isAfter {order : List SortField} {items : List Json}
    (sorted : items.Pairwise fun earlier later => compareBy order earlier later = .lt)
    (filed : ∀ item ∈ items, IsFiled item) {document : Json}
    (documentFiled : IsFiled document)
    (after : IsAfter order items.getLast? document) :
    ∀ item ∈ items, compareBy order item document = .lt := by
  rcases List.eq_nil_or_concat items with rfl | ⟨earlier, last, rfl⟩
  · exact List.forall_mem_nil _
  · rw [List.concat_eq_append] at sorted filed after ⊢
    rw [List.getLast?_concat] at after
    obtain ⟨-, -, ahead⟩ := List.pairwise_append.mp sorted
    have lastBefore := after last rfl
    intro item member
    rcases List.mem_append.mp member with early | late
    · exact compareBy_trans (filed item member)
        (filed last (List.mem_append_right _ (List.mem_singleton.mpr rfl))) documentFiled
        (ahead item early last (List.mem_singleton.mpr rfl)) lastBefore
    · rw [List.mem_singleton.mp late]
      exact lastBefore

namespace CursorStore

open Marker

/-- Reading on from the marker of a document gives the documents that come after it, whether
or not the document is still there. -/
theorem beyond_ofDocument {query : Query} {documents : List Json} (listing : Listing documents)
    (sorted : documents.Pairwise fun left right => compareBy query.order left right = .lt)
    {last : Option Json} (lastFiled : ∀ document ∈ last, IsFiled document) :
    ∃ found, beyond query.order (last.map (ofDocument query.order)) documents = found ∧
      found.Sublist documents ∧
      ∀ other, other ∈ found ↔ other ∈ documents ∧ IsAfter query.order last other := by
  cases last with
  | none =>
      refine ⟨documents, rfl, List.Sublist.refl _, ?_⟩
      intro other
      exact (and_iff_left fun _ member => nomatch member).symm
  | some document =>
      obtain ⟨id, named, integral⟩ := lastFiled document rfl
      have filed {other : Json} (member : other ∈ documents) : IsFiled other := by
        obtain ⟨otherId, otherNamed⟩ := listing.named other member
        exact ⟨otherId, otherNamed, listing.integral other member⟩
      have passed {other : Json} (member : other ∈ documents) :
          ((ofDocument query.order document).compareDocument query.order other != .gt) = true ↔
            ¬compareBy query.order document other = .lt := by
        obtain ⟨otherId, otherNamed⟩ := listing.named other member
        rw [compareDocument_ofDocument query named otherNamed,
          compareBy_swap (listing.integral other member) integral]
        cases compareBy query.order document other <;> decide
      have downward : documents.Pairwise fun earlier later =>
          ((ofDocument query.order document).compareDocument query.order later != .gt) = true →
            ((ofDocument query.order document).compareDocument query.order earlier != .gt) =
              true := by
        refine List.Pairwise.imp_of_mem ?_ sorted
        intro earlier later earlierMember laterMember before
        rw [passed earlierMember, passed laterMember]
        intro behind ahead
        exact behind (compareBy_trans ⟨id, named, integral⟩ (filed earlierMember)
          (filed laterMember) ahead before)
      refine ⟨_, drop_bisect _ downward, List.filter_sublist, ?_⟩
      intro other
      rw [List.mem_filter]
      apply and_congr_right
      intro member
      rw [Bool.not_eq_true', Bool.eq_false_iff, ne_eq, passed member, Classical.not_not]
      constructor
      · rintro ahead _ ⟨⟩
        exact ahead
      · intro after
        exact after document rfl

end CursorStore

/-! ## The page after the last -/

namespace PageMemo

variable {μ σ : Type} {memo : PageMemo μ} {signature : String} {number size : Nat}

/-- Where to read on from: after a marker, or at the first document. -/
def startFrom : (last : Option μ) → PageStart μ
  | none => .first
  | some marker => .after marker

/-- The page after the walked ones starts after the last of them. -/
theorem locate_next (positive : 0 < size) (walked : memo.walked signature size = number)
    (fetch : Fetch σ μ) (source : σ) :
    ∃ after, memo.locate signature ⟨number, size⟩ fetch source =
        (.ok (startFrom (memo.ends signature size).getLast?), after, source) ∧
      after.ends signature size = memo.ends signature size := by
  rw [PageMemo.walked] at walked
  rw [locate, if_neg (Nat.ne_of_gt positive)]
  cases number with
  | zero =>
      rw [List.eq_nil_of_length_eq_zero walked]
      exact ⟨memo, rfl, List.eq_nil_of_length_eq_zero walked⟩
  | succ before =>
      rw [if_neg (Nat.succ_ne_zero before)]
      dsimp only
      rw [walked, Nat.sub_self, walk, startAfter, List.getLast?_eq_getElem?, walked,
        Nat.add_sub_cancel]
      obtain ⟨marker, found⟩ : ∃ marker, (memo.ends signature size)[before]? = some marker :=
        ⟨_, List.getElem?_eq_getElem (walked ▸ Nat.lt_succ_self before)⟩
      rw [found]
      exact ⟨_, rfl, (ends_remember _ _ _ _ _ _).trans (if_pos ⟨rfl, rfl⟩)⟩

/-- Serving the page after the walked ones in full adds its end. -/
theorem ends_record_next (positive : 0 < size) (walked : memo.walked signature size = number)
    {count : Nat} (full : size ≤ count) (marker : μ) :
    (memo.record signature ⟨number, size⟩ count (some marker)).ends signature size =
      memo.ends signature size ++ [marker] := by
  rw [PageMemo.walked] at walked
  rw [record, if_neg]
  · dsimp only
    rw [if_pos walked.symm]
    exact (ends_remember _ _ _ _ _ _).trans (if_pos ⟨rfl, rfl⟩)
  · rintro (empty | short)
    · exact Nat.ne_of_gt positive empty
    · exact Nat.not_lt_of_le full short

end PageMemo

/-- A document passes the condition of a query. -/
def Query.Matches (query : Query) (document : Json) : Prop :=
  ∃ filter, Filter.cursor.compile query.condition = .ok filter ∧ filter.holds document = true

theorem exists_getLast?_of_full {size : Nat} (positive : 0 < size) {page : List Json}
    (full : size ≤ page.length) : ∃ document, page.getLast? = some document :=
  Option.isSome_iff_exists.mp (List.getLast?_isSome.mpr
    (List.length_pos_iff.mp (Nat.lt_of_lt_of_le positive full)))

/-- Some documents are the next page, and others come behind it: together they are the
matching documents after the last that was served. -/
structure Query.NextPage (query : Query) (size : Nat) (cluster : Cluster) (last : Option Json)
    (page behind : List Json) : Prop where
  sorted : (page ++ behind).Pairwise fun earlier later =>
    compareBy query.order earlier later = .lt
  mem_iff : ∀ document, document ∈ page ++ behind ↔
    (∃ id, cluster.document? query.collection id = some document) ∧ query.Matches document ∧
      Document.IsAfter query.order last document
  full : behind ≠ [] → size ≤ page.length

namespace Query.NextPage

variable {query : Query} {size : Nat} {cluster : Cluster} {shown page behind : List Json}
  {last : Option Json}

theorem exists_filed (next : query.NextPage size cluster last page behind)
    (keeps : cluster.Keeps Document.Filed) {document : Json} (member : document ∈ page ++ behind) :
    ∃ id, Document.Filed query.collection id document ∧
      cluster.document? query.collection id = some document := by
  obtain ⟨⟨id, found⟩, -, -⟩ := (next.mem_iff document).mp member
  exact ⟨id, keeps.kept found, found⟩

theorem isFiled (next : query.NextPage size cluster last page behind)
    (keeps : cluster.Keeps Document.Filed) {document : Json} (member : document ∈ page) :
    IsFiled document := by
  obtain ⟨id, filed, -⟩ := next.exists_filed keeps (List.mem_append_left behind member)
  exact ⟨id, filed⟩

/-- The next page keeps in order what was shown. -/
theorem sorted_append (next : query.NextPage size cluster shown.getLast? page behind)
    (keeps : cluster.Keeps Document.Filed)
    (sorted : shown.Pairwise fun earlier later => compareBy query.order earlier later = .lt)
    (filed : ∀ document ∈ shown, IsFiled document) :
    (shown ++ page).Pairwise fun earlier later => compareBy query.order earlier later = .lt := by
  apply List.pairwise_append.mpr
  constructor
  · exact sorted
  constructor
  · exact (List.pairwise_append.mp next.sorted).1
  · intro earlier earlierMember later laterMember
    obtain ⟨-, -, after⟩ := (next.mem_iff later).mp (List.mem_append_left behind laterMember)
    exact lt_of_isAfter sorted filed (next.isFiled keeps laterMember) after earlier earlierMember

/-- A document that comes next is on the next page, or that page is full and the document
comes after it. -/
theorem mem_or_isAfter (next : query.NextPage size cluster shown.getLast? page behind)
    (positive : 0 < size) {id : String} {document : Json}
    (found : cluster.document? query.collection id = some document)
    (fits : query.Matches document) (after : IsAfter query.order shown.getLast? document) :
    document ∈ page ∨
      size ≤ page.length ∧ IsAfter query.order (shown ++ page).getLast? document := by
  rcases List.mem_append.mp ((next.mem_iff document).mpr ⟨⟨id, found⟩, fits, after⟩) with
    here | waiting
  · exact Or.inl here
  · have full := next.full (List.ne_nil_of_mem waiting)
    obtain ⟨final, ended⟩ := exists_getLast?_of_full positive full
    apply Or.inr
    constructor
    · exact full
    · rw [List.getLast?_append, ended]
      rintro _ ⟨⟩
      exact (List.pairwise_append.mp next.sorted).2.2 final (List.mem_of_getLast? ended)
        document waiting

end Query.NextPage

namespace CursorStore

open Marker

variable {store : CursorStore} {query : Query} {filter : Filter.CursorFilter} {number size : Nat}
  {last : Option Json}

/-- What comes after the last document that was served, up to the size of a page. -/
theorem nextPage_ordered {cluster : Cluster} (keeps : cluster.Keeps Document.Filed)
    (compiled : Filter.cursor.compile query.condition = .ok filter) (size : Nat)
    (lastFiled : ∀ document ∈ last, IsFiled document) :
    ∃ found, beyond query.order (last.map (ofDocument query.order)) (ordered cluster query filter) =
        found ∧
      query.NextPage size cluster last (found.take size) (found.drop size) := by
  have passing := Cluster.listing_passing keeps query.collection filter.holds
  have sorted := passing.pairwise_sortDocuments query
  obtain ⟨found, read, sublist, members⟩ :=
    beyond_ofDocument (passing.perm (sortDocuments_perm query.order _)) sorted lastFiled
  refine ⟨found, read, ?_, ?_, ?_⟩
  · rw [List.take_append_drop]
    exact sorted.sublist sublist
  · intro document
    rw [List.take_append_drop, members, (sortDocuments_perm query.order _).mem_iff,
      Cluster.mem_passing_iff keeps, and_assoc]
    apply and_congr_right
    intro _
    apply and_congr_left
    intro _
    constructor
    · intro holds
      exact ⟨filter, compiled, holds⟩
    · rintro ⟨other, alike, holds⟩
      cases compiled.symm.trans alike
      exact holds
  · intro more
    rw [List.length_take]
    have longer := List.length_pos_iff.mpr more
    rw [List.length_drop] at longer
    omega

theorem servePage_next (store : CursorStore) (query : Query)
    (keeps : store.cluster.Keeps Document.Filed)
    (compiled : Filter.cursor.compile query.condition = .ok filter) (positive : 0 < size)
    (walked : store.memo.walked query.signature size = number)
    (lastFiled : ∀ document ∈ last, IsFiled document) :
    (∃ cause, servePage query filter ⟨number, size⟩ (last.map (ofDocument query.order)) store =
        (.error cause, store)) ∨
      ∃ page behind memo,
        servePage query filter ⟨number, size⟩ (last.map (ofDocument query.order)) store =
          (.ok (.many (page.map Document.withoutId) page.length), { store with memo := memo }) ∧
        query.NextPage size store.cluster last page behind ∧
        ∀ document ∈ page.getLast?, size ≤ page.length →
          memo.ends query.signature size =
            store.memo.ends query.signature size ++ [ofDocument query.order document] := by
  rw [servePage]
  by_cases online : store.cluster.AllOnline
  · apply Or.inr
    obtain ⟨found, read, next⟩ := nextPage_ordered keeps compiled size lastFiled
    have served : readAfter store.cluster query filter (last.map (ofDocument query.order)) =
        .ok found := by
      rw [readAfter, Cluster.scan_of_allOnline online]
      exact congrArg Except.ok read
    rw [served]
    refine ⟨found.take size, found.drop size, _, rfl, next, ?_⟩
    intro document ended full
    rw [lastMarker, ended]
    exact PageMemo.ends_record_next positive walked full _
  · obtain ⟨address, failed⟩ := readAfter_of_not_allOnline online query filter
    rw [failed]
    exact Or.inl ⟨_, rfl⟩

/-- The page after the walked ones is read on from the last of them. -/
theorem runPage_next (store : CursorStore) (query : Query) (filter : Filter.CursorFilter)
    (positive : 0 < size)
    (walked : store.memo.walked query.signature size = number)
    (ended : (store.memo.ends query.signature size).getLast? = last.map (ofDocument query.order)) :
    ∃ memo : PageMemo Marker,
      memo.ends query.signature size = store.memo.ends query.signature size ∧
      runPage query filter ⟨number, size⟩ store =
        servePage query filter ⟨number, size⟩ (last.map (ofDocument query.order))
          { store with memo := memo } := by
  obtain ⟨memo, located, same⟩ :=
    PageMemo.locate_next positive walked (fetch query filter) store.cluster
  refine ⟨memo, same, ?_⟩
  rw [runPage, located, ended]
  cases last with
  | none => rfl
  | some document => rfl

/-- A request for the page after the walked ones fails, or serves the next page and
remembers its end if it is full. -/
theorem query_next (streams : query.selectOne = false) (positive : 0 < size)
    (keeps : store.cluster.Keeps Document.Filed)
    (faithful : store.cache.Faithful query.signature (Filter.cursor.compile query.condition))
    (walked : store.memo.walked query.signature size = number)
    (lastFiled : ∀ document ∈ last, IsFiled document)
    (ended : (store.memo.ends query.signature size).getLast? = last.map (ofDocument query.order)) :
    ∃ answer after, CursorStore.query (query.paged ⟨number, size⟩) store = (answer, after) ∧
      ((∃ cause, answer = .failed cause ∧
          after.memo.ends query.signature size = store.memo.ends query.signature size) ∨
        ∃ page behind, answer = .many (page.map Document.withoutId) page.length ∧
          query.NextPage size store.cluster last page behind ∧
          ∀ document ∈ page.getLast?, size ≤ page.length →
            after.memo.ends query.signature size =
              store.memo.ends query.signature size ++ [ofDocument query.order document]) := by
  have page : (query.paged ⟨number, size⟩).page? = some ⟨number, size⟩ :=
    if_pos ⟨positive, streams⟩
  have several : ¬(query.paged ⟨number, size⟩).selectOne = true := Bool.eq_false_iff.mp streams
  have got : (store.cache.getOrCompile (query.paged ⟨number, size⟩).signature
      fun _ => Filter.cursor.compile (query.paged ⟨number, size⟩).condition).1 =
        Filter.cursor.compile query.condition :=
    Filter.Cache.getOrCompile_of_faithful faithful
  rw [CursorStore.query]
  split
  next result cache found =>
  rw [found] at got
  subst got
  cases compiled : Filter.cursor.compile query.condition with
  | error cause => exact ⟨_, _, rfl, Or.inl ⟨cause, rfl, rfl⟩⟩
  | ok filter =>
      obtain ⟨memo, same, reached⟩ := runPage_next { store with cache := cache }
        (query.paged ⟨number, size⟩) filter positive walked ended
      have kept : memo.walked query.signature size = number :=
        (congrArg List.length same).trans walked
      dsimp only
      rw [runWith, if_neg several, page]
      dsimp only
      rw [reached]
      rcases servePage_next { store with cache := cache, memo := memo }
        (query.paged ⟨number, size⟩) keeps compiled positive kept lastFiled with
        ⟨cause, refused⟩ | ⟨served, behind, final, answered, next, ends⟩
      · rw [refused]
        exact ⟨_, _, rfl, Or.inl ⟨cause, rfl, same⟩⟩
      · rw [answered]
        refine ⟨_, _, rfl, Or.inr ⟨served, behind, rfl, ⟨next.sorted, next.mem_iff, next.full⟩, ?_⟩⟩
        intro document last full
        have found : memo.ends query.signature size = store.memo.ends query.signature size := same
        exact (ends document last full).trans (congrArg (· ++ _) found)

end CursorStore

/-! ## Walks -/

/-- A page that was served, and the cluster that it was read from. -/
structure ServedPage where
  cluster : Cluster
  answer : Answer

/-- A page shows stored documents that match a query. -/
def ServedPage.Shows (query : Query) (page : ServedPage) (documents : List Json) : Prop :=
  page.answer = .many (documents.map Document.withoutId) documents.length ∧
    ∀ document ∈ documents, query.Matches document ∧
      ∃ id, Document.idOf? document = some id ∧
        page.cluster.document? query.collection id = some document

/-- A reader of the pages of a query, one after the other. -/
structure Walk where
  client : Client (Recorded CursorStore)
  pages : List ServedPage := []
  /-- Whether a page was short, or not there. -/
  completed : Bool := false

/-- What happens on a walk. -/
inductive WalkEvent where
  | request
  | meanwhile (event : StoreEvent)

namespace WalkEvent

/-- What happens to the store apart from the requests of the walk. -/
def event? : WalkEvent → Option StoreEvent
  | request => none
  | meanwhile event => some event

end WalkEvent

namespace Walk

/-- The pages of a query are forgotten, and operations are put on record from now on. -/
def start (query : Query) (paging : Paging) (client : Client (Recorded CursorStore)) : Walk where
  client := { client with store := {
    DocumentStore.forgetPages (query.paged paging) client.store with operations := [] } }

/-- Ask for the next page.  A request that fails may be repeated. -/
def request (query : Query) (size : Nat) (walk : Walk) : Walk :=
  let (answer, store) :=
    DocumentStore.query (query.paged ⟨walk.pages.length, size⟩) walk.client.store
  let client := { walk.client with store := store }
  if answer.error.isSome then { walk with client := client }
  else
    { client := client
      pages := walk.pages ++ [⟨walk.client.cluster, answer⟩]
      completed := !answer.available || decide (answer.documents.length < size) }

/-- What an event leaves of a walk.  After a page that was short or not there, no more pages
are asked for. -/
def meet (query : Query) (size : Nat) (walk : Walk) : WalkEvent → Walk
  | .request => if walk.completed then walk else walk.request query size
  | .meanwhile event => { walk with client := event.meet walk.client }

/-- What some events leave of a walk. -/
def meetAll (query : Query) (size : Nat) (events : List WalkEvent) (walk : Walk) : Walk :=
  events.foldl (meet query size) walk

/-- No operation on record touches an id. -/
def Spares (walk : Walk) (collection id : String) : Prop :=
  ∀ operation ∈ walk.client.store.operations, ¬operation.Touches collection id

/-- What was served is in order and comes before what was not served yet; nothing else is
known of documents that were touched. -/
structure Stands (query : Query) (size : Nat) (before : Cluster) (walk : Walk)
    (served : List (List Json)) : Prop where
  reads : walk.client.Reads query
  documents : ∀ id, walk.client.cluster.document? query.collection id =
    Operation.effects walk.client.store.operations query.collection id
      (before.document? query.collection id)
  pages : List.Forall₂ (ServedPage.Shows query) walk.pages served
  filed : ∀ document ∈ served.flatten, Document.IsFiled document
  sorted : served.flatten.Pairwise fun earlier later =>
    compareBy query.order earlier later = .lt
  walked : walk.completed = false → (walk.client.ends query size).length = walk.pages.length
  ended : walk.completed = false → (walk.client.ends query size).getLast? =
    served.flatten.getLast?.map (Marker.ofDocument query.order)
  kept : ∀ document ∈ served.flatten, ∀ id, Document.idOf? document = some id →
    walk.Spares query.collection id → before.document? query.collection id = some document
  reached : ∀ id, walk.Spares query.collection id → ∀ stored,
    before.document? query.collection id = some stored → query.Matches stored →
      stored ∈ served.flatten ∨
        walk.completed = false ∧ Document.IsAfter query.order served.flatten.getLast? stored

variable {query : Query} {size : Nat} {before : Cluster} {walk : Walk}
  {served : List (List Json)}

theorem Stands.document?_of_spares (stands : walk.Stands query size before served) {id : String}
    (spares : walk.Spares query.collection id) :
    walk.client.cluster.document? query.collection id =
      before.document? query.collection id := by
  rw [stands.documents id]
  exact Operation.effects_of_untouched spares _

/-- Changes that are on record and leave the page ends leave a walk standing. -/
theorem Stands.follow (stands : walk.Stands query size before served)
    {client : Client (Recorded CursorStore)} (follows : walk.client.Follows client)
    (reads : client.Reads query) (ends : client.ends query size = walk.client.ends query size) :
    Stands query size before { walk with client := client } served := by
  obtain ⟨carried, recorded, documents⟩ := follows
  have grown {id : String} (spares : ∀ operation ∈ client.store.operations,
      ¬operation.Touches query.collection id) : walk.Spares query.collection id := by
    intro operation member
    apply spares
    rw [recorded]
    exact List.mem_append_left _ member
  constructor
  case reads => exact reads
  case documents =>
    intro id
    rw [documents, stands.documents, recorded, Operation.effects_append]
  case pages => exact stands.pages
  case filed => exact stands.filed
  case sorted => exact stands.sorted
  case walked =>
    intro going
    rw [ends]
    exact stands.walked going
  case ended =>
    intro going
    rw [ends]
    exact stands.ended going
  case kept =>
    intro document member id named spares
    exact stands.kept document member id named (grown spares)
  case reached =>
    intro id spares
    exact stands.reached id (grown spares)

/-- A page that is served next leaves a walk standing. -/
theorem Stands.serve (stands : walk.Stands query size before served)
    (going : walk.completed = false) (positive : 0 < size) {page behind : List Json}
    (next : query.NextPage size walk.client.cluster served.flatten.getLast? page behind)
    (store : Recorded CursorStore)
    (operations : store.operations = walk.client.store.operations)
    (reads : Client.Reads query { walk.client with store := store })
    (cluster : store.store.cluster = walk.client.cluster)
    (ends : ∀ document ∈ page.getLast?, size ≤ page.length →
      store.store.memo.ends query.signature size =
        walk.client.ends query size ++ [Marker.ofDocument query.order document]) :
    Stands query size before {
      client := { walk.client with store := store }
      pages := walk.pages ++
        [⟨walk.client.cluster, .many (page.map Document.withoutId) page.length⟩]
      completed := decide (page.length < size) } (served ++ [page]) := by
  have keeps := stands.reads.files.keeps
  have joined : (served ++ [page]).flatten = served.flatten ++ page := by
    rw [List.flatten_append, List.flatten_singleton]
  have unchanged {id : String} (spares : ∀ operation ∈ store.operations,
      ¬operation.Touches query.collection id) : walk.Spares query.collection id := by
    intro operation member
    apply spares
    rw [operations]
    exact member
  constructor
  case reads => exact reads
  case documents =>
    intro id
    change store.store.cluster.document? query.collection id =
      Operation.effects store.operations query.collection id _
    rw [cluster, operations]
    exact stands.documents id
  case pages =>
    apply List.rel_append stands.pages
    apply List.Forall₂.cons _ .nil
    constructor
    · rfl
    · intro document member
      have present := List.mem_append_left behind member
      obtain ⟨id, filed, found⟩ := next.exists_filed keeps present
      exact ⟨((next.mem_iff document).mp present).2.1, id, filed.1, found⟩
  case filed =>
    rw [joined]
    intro document member
    rcases List.mem_append.mp member with old | new
    · exact stands.filed document old
    · exact next.isFiled keeps new
  case sorted =>
    rw [joined]
    exact next.sorted_append keeps stands.sorted stands.filed
  case walked =>
    intro more
    have full := Nat.le_of_not_lt (of_decide_eq_false more)
    obtain ⟨document, ended⟩ := exists_getLast?_of_full positive full
    change (store.store.memo.ends query.signature size).length = _
    rw [ends document ended full, List.length_append, List.length_append, stands.walked going]
    rfl
  case ended =>
    intro more
    have full := Nat.le_of_not_lt (of_decide_eq_false more)
    obtain ⟨document, ended⟩ := exists_getLast?_of_full positive full
    change (store.store.memo.ends query.signature size).getLast? = _
    rw [ends document ended full, List.getLast?_concat, joined, List.getLast?_append, ended]
    rfl
  case kept =>
    rw [joined]
    intro document member id named spares
    rcases List.mem_append.mp member with old | new
    · exact stands.kept document old id named (unchanged spares)
    · obtain ⟨otherId, filed, found⟩ := next.exists_filed keeps (List.mem_append_left behind new)
      cases filed.1.symm.trans named
      rw [← stands.document?_of_spares (unchanged spares)]
      exact found
  case reached =>
    rw [joined]
    intro id spares document found fits
    rcases stands.reached id (unchanged spares) document found fits with old | ⟨-, after⟩
    · exact Or.inl (List.mem_append_left _ old)
    · rw [← stands.document?_of_spares (unchanged spares)] at found
      rcases next.mem_or_isAfter positive found fits after with new | ⟨full, behindPage⟩
      · exact Or.inl (List.mem_append_right _ new)
      · exact Or.inr ⟨decide_eq_false (Nat.not_lt_of_le full), behindPage⟩

/-- A request leaves a walk standing, with one more page or without. -/
theorem Stands.request (stands : walk.Stands query size before served)
    (streams : query.selectOne = false) (positive : 0 < size) :
    ∃ more, (walk.meet query size .request).Stands query size before more := by
  rw [meet]
  cases finished : walk.completed with
  | true => exact ⟨served, stands⟩
  | false =>
      have last : ∀ document ∈ served.flatten.getLast?, Document.IsFiled document :=
        fun document ended => stands.filed document (List.mem_of_getLast? ended)
      obtain ⟨answer, after, asked, outcome⟩ := CursorStore.query_next streams positive
        stands.reads.files.keeps stands.reads.faithful (stands.walked finished) last
        (stands.ended finished)
      obtain ⟨cluster, faithful, -⟩ :=
        stands.reads.query_left (query.paged ⟨walk.pages.length, size⟩) fun _ => rfl
      rw [asked] at cluster faithful
      have left : DocumentStore.query (query.paged ⟨walk.pages.length, size⟩) walk.client.store =
          (answer, { walk.client.store with store := after }) :=
        congrArg (fun outcome : Answer × CursorStore =>
          (outcome.1, { walk.client.store with store := outcome.2 })) asked
      have reads : Client.Reads query
          { walk.client with store := { walk.client.store with store := after } } := by
        refine ⟨⟨?_, stands.reads.files.stages⟩, faithful⟩
        exact (congrArg (Cluster.Keeps Document.Filed) cluster).mpr stands.reads.files.keeps
      rw [if_neg Bool.false_ne_true, Walk.request, left]
      rcases outcome with ⟨cause, rfl, ends⟩ | ⟨page, behind, rfl, next, ends⟩
      · refine ⟨served, stands.follow ⟨[], (List.append_nil _).symm, ?_⟩ reads ends⟩
        intro collection id
        exact congrArg (Cluster.document? · collection id) cluster
      · refine ⟨served ++ [page], ?_⟩
        have short : (!(Answer.many (page.map Document.withoutId) page.length).available ||
            decide ((Answer.many (page.map Document.withoutId) page.length).documents.length <
              size)) = decide (page.length < size) :=
          congrArg (fun length => decide (length < size)) (List.length_map _)
        have shown := stands.serve finished positive next
          { walk.client.store with store := after } rfl reads cluster ends
        rw [← short] at shown
        exact shown

/-- Every event leaves a walk standing. -/
theorem Stands.meet (stands : walk.Stands query size before served)
    (streams : query.selectOne = false) (positive : 0 < size) {event : WalkEvent}
    (integral : ∀ inner ∈ event.event?, inner.IsIntegral)
    (agrees : ∀ inner ∈ event.event?, inner.Agrees query)
    (leaves : ∀ inner ∈ event.event?, inner.Leaves query size) :
    ∃ more, (walk.meet query size event).Stands query size before more := by
  cases event with
  | request => exact stands.request streams positive
  | meanwhile event =>
      obtain ⟨follows, reads⟩ :=
        StoreEvent.meet_of_reads stands.reads (integral event rfl) (agrees event rfl)
      have ends := StoreEvent.ends_meet stands.reads (integral event rfl) (agrees event rfl)
        (leaves event rfl)
      exact ⟨served, stands.follow follows reads ends⟩

theorem Stands.meetAll (stands : walk.Stands query size before served)
    (streams : query.selectOne = false) (positive : 0 < size) {events : List WalkEvent}
    (integral : ∀ event ∈ events, ∀ inner ∈ event.event?, inner.IsIntegral)
    (agrees : ∀ event ∈ events, ∀ inner ∈ event.event?, inner.Agrees query)
    (leaves : ∀ event ∈ events, ∀ inner ∈ event.event?, inner.Leaves query size) :
    ∃ more, (walk.meetAll query size events).Stands query size before more := by
  induction events generalizing walk served with
  | nil => exact ⟨served, stands⟩
  | cons event rest ih =>
      obtain ⟨more, standing⟩ := stands.meet streams positive
        (integral event List.mem_cons_self) (agrees event List.mem_cons_self)
        (leaves event List.mem_cons_self)
      apply ih standing
      · intro later member
        exact integral later (List.mem_cons_of_mem _ member)
      · intro later member
        exact agrees later (List.mem_cons_of_mem _ member)
      · intro later member
        exact leaves later (List.mem_cons_of_mem _ member)

/-- A walk stands at its start. -/
theorem stands_start {client : Client (Recorded CursorStore)} (reads : client.Reads query)
    (paging : Paging) (size : Nat) :
    (start query paging client).Stands query size client.cluster [] := by
  have ends : (start query paging client).client.ends query size = [] :=
    (PageMemo.ends_clean _ _ _ _).trans (if_pos rfl)
  constructor
  case reads => exact ⟨⟨reads.files.keeps, reads.files.stages⟩, reads.faithful⟩
  case documents =>
    intro id
    rfl
  case pages => exact List.Forall₂.nil
  case filed => exact List.forall_mem_nil _
  case sorted => exact List.Pairwise.nil
  case walked =>
    intro going
    rw [ends]
    rfl
  case ended =>
    intro going
    rw [ends]
    rfl
  case kept => exact List.forall_mem_nil _
  case reached =>
    intro id spares stored found fits
    apply Or.inr
    constructor
    · rfl
    · intro other ended
      contradiction

/-! ## What a walk serves -/

/-- The documents of an id among those that were served. -/
def occurrences (id : String) (served : List (List Json)) : List Json :=
  served.flatten.filter fun document => decide (Document.idOf? document = some id)

theorem mem_occurrences_iff {id : String} {document : Json} :
    document ∈ occurrences id served ↔
      document ∈ served.flatten ∧ Document.idOf? document = some id := by
  rw [occurrences, List.mem_filter, decide_eq_true_iff]

/-- The document of an id that was not touched is served once at most. -/
theorem Stands.length_occurrences_le (stands : walk.Stands query size before served) {id : String}
    (spares : walk.Spares query.collection id) : (occurrences id served).length ≤ 1 := by
  have sorted : (occurrences id served).Pairwise fun earlier later =>
      compareBy query.order earlier later = .lt := stands.sorted.filter _
  have alike : ∀ document ∈ occurrences id served,
      before.document? query.collection id = some document := by
    intro document member
    obtain ⟨shown, named⟩ := mem_occurrences_iff.mp member
    exact stands.kept document shown id named spares
  have filed : ∀ document ∈ occurrences id served, Document.IsFiled document := by
    intro document member
    exact stands.filed document (mem_occurrences_iff.mp member).1
  match occurrences id served, sorted, alike, filed with
  | [], _, _, _ => exact Nat.zero_le 1
  | [_], _, _, _ => exact Nat.le_refl 1
  | first :: second :: rest, sorted, alike, filed =>
      have here := alike first List.mem_cons_self
      have there := alike second (List.mem_cons_of_mem _ List.mem_cons_self)
      cases here.symm.trans there
      exact absurd ((List.pairwise_cons.mp sorted).1 first List.mem_cons_self)
        (compareBy_irrefl (filed first List.mem_cons_self))

/-- Once a walk is over, a matching document that was not touched was served. -/
theorem Stands.occurrences_eq (stands : walk.Stands query size before served)
    (keeps : before.Keeps Document.Filed) (finished : walk.completed = true) {id : String}
    (spares : walk.Spares query.collection id) {stored : Json}
    (found : before.document? query.collection id = some stored) (fits : query.Matches stored) :
    occurrences id served = [stored] := by
  have shown : stored ∈ served.flatten := by
    rcases stands.reached id spares stored found fits with shown | ⟨going, -⟩
    · exact shown
    · rw [finished] at going
      contradiction
  have member : stored ∈ occurrences id served :=
    mem_occurrences_iff.mpr ⟨shown, (keeps.kept found).1⟩
  have short := stands.length_occurrences_le spares
  obtain ⟨before, after, split⟩ := List.append_of_mem member
  rw [split, List.length_append, List.length_cons] at short
  rw [split, List.eq_nil_of_length_eq_zero (by omega : before.length = 0),
    List.eq_nil_of_length_eq_zero (by omega : after.length = 0)]
  rfl

open Connection

/-- While documents are written and nodes come and go, a walk over the pages of a query serves
stored documents that match it, in its order; those that nobody touches it serves once. -/
theorem untouched_served_once_in_order {spec : Spec} {hasFile : String → Bool}
    {pool : Pool String}
    (connected : Pool.ofSpec spec (Cluster.connector hasFile) = .ok pool)
    (distinct : (spec.clusters.map Descriptor.address).Nodup) (capacity : Nat) {query : Query}
    (streams : query.selectOne = false) {history : List StoreEvent}
    (historyIntegral : ∀ event ∈ history, event.IsIntegral)
    (historyAgrees : ∀ event ∈ history, event.Agrees query) (paging : Paging) {size : Nat}
    (positive : 0 < size) {events : List WalkEvent}
    (integral : ∀ event ∈ events, ∀ inner ∈ event.event?, inner.IsIntegral)
    (agrees : ∀ event ∈ events, ∀ inner ∈ event.event?, inner.Agrees query)
    (leaves : ∀ event ∈ events, ∀ inner ∈ event.event?, inner.Leaves query size) :
    let client := StoreEvent.meetAll history
      ⟨⟨.ofCluster (.ofPool pool) capacity, []⟩, fun _ => .start⟩
    let walk := (start query paging client).meetAll query size events
    ∃ served : List (List Json),
      List.Forall₂ (ServedPage.Shows query) walk.pages served ∧
      (served.flatten.Pairwise fun earlier later => compareBy query.order earlier later = .lt) ∧
      ∀ id, walk.Spares query.collection id →
        (occurrences id served).length ≤ 1 ∧
          (walk.completed = true → ∀ stored,
            client.cluster.document? query.collection id = some stored → query.Matches stored →
              occurrences id served = [stored]) := by
  intro client walk
  have fresh : Client.Reads query ⟨⟨.ofCluster (.ofPool pool) capacity, []⟩, fun _ => .start⟩ := by
    refine ⟨⟨?_, fun _ => Transaction.stages_start⟩, Filter.Cache.faithful_ofCapacity _ _ _⟩
    exact Cluster.keeps_ofPool _ (Cluster.segments_ofPool connected ▸ distinct)
  have reads : client.Reads query := StoreEvent.reads_meetAll fresh historyIntegral historyAgrees
  obtain ⟨served, stands⟩ :=
    (stands_start reads paging size).meetAll streams positive integral agrees leaves
  refine ⟨served, stands.pages, stands.sorted, ?_⟩
  intro id spares
  constructor
  · exact stands.length_occurrences_le spares
  · intro finished stored found fits
    exact stands.occurrences_eq reads.files.keeps finished spares found fits

/-- The document that ended the first page is deleted, others are put before and behind it,
and a node is away for a while: a document that stayed is served once. -/
theorem served_once_while_written :
    let document (year : Int) : Json := .object [("year", .number (.integer year))]
    let history : List StoreEvent := [
      .call (.put "books" "a" (document 3)), .call (.put "books" "b" (.object [])),
      .call (.put "books" "c" (document 5)), .call (.put "books" "d" (document 4))]
    let query : Query := { collection := "books", sorts := [⟨"year", false⟩] }
    let events : List WalkEvent := [
      .request, .meanwhile (.call (.delete "books" "c")),
      .meanwhile (.call (.stagePut 0 "books" "a" (document 9))),
      .meanwhile (.call (.stagePut 0 "books" "e" (document 2))),
      .meanwhile (.call (.commit 0)), .meanwhile (.call (.query (query.paged ⟨1, 2⟩))),
      .meanwhile (.setOffline "west" true), .request, .meanwhile (.setOffline "west" false),
      .request, .request, .request, .request]
    let client := StoreEvent.meetAll history
      ⟨⟨.ofCluster (.ofPool CursorStore.twoNodes) 4, []⟩, fun _ => .start⟩
    let walk := (start query ⟨0, 1⟩ client).meetAll query 1 events
    walk.pages.length = 5 ∧ ∃ served, List.Forall₂ (ServedPage.Shows query) walk.pages served ∧
      occurrences "d" served =
        [.object [("__id", .string "d"), ("year", .number (.integer 4))]] := by
  intro document history query events client walk
  have connected : Pool.ofSpec ⟨[{ address := "east" }, { address := "west" }]⟩
      (Cluster.connector fun _ => false) = .ok CursorStore.twoNodes := rfl
  have finished : walk.completed = true ∧ walk.pages.length = 5 := by decide +kernel
  have spares : walk.Spares "books" "d" := by
    rw [Spares]
    decide +kernel
  have found : client.cluster.document? "books" "d" =
      some (.object [("__id", .string "d"), ("year", .number (.integer 4))]) := by
    have written : (client.cluster.document? "books" "d").map Json.text =
        some (Json.object [("__id", .string "d"), ("year", .number (.integer 4))]).text := by
      decide +kernel
    obtain ⟨stored, found, same⟩ := Option.map_eq_some_iff.mp written
    rw [found, Json.text_injective same]
  obtain ⟨served, pages, -, once⟩ := untouched_served_once_in_order connected (by decide) 4
    (rfl : query.selectOne = false) (by decide : ∀ event ∈ history, event.IsIntegral)
    (by simp [history, StoreEvent.Agrees, ClientStep.query?]) ⟨0, 1⟩ (by decide : 0 < 1)
    (by decide : ∀ event ∈ events, ∀ inner ∈ event.event?, inner.IsIntegral)
    (by simp [events, WalkEvent.event?, StoreEvent.Agrees, ClientStep.query?, Query.paged])
    (by simp [events, WalkEvent.event?, StoreEvent.Leaves, ClientStep.query?, Query.page?,
      Query.paged])
  refine ⟨finished.2, served, pages, ?_⟩
  exact (once "d" spares).2 finished.1 _ found ⟨.all, rfl, rfl⟩

end Walk

end Polystore
