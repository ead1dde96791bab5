import Polystore.Proofs.Query.Pages
import Polystore.Proofs.Store.Filed
import Polystore.Store.Cursor

/-!
# Reading from markers

The marker of a document stands in the order of a query where the document stands, so a
cursor that reads on from it reads what comes after the document.  What a cursor store
reads is one list, and its memo remembers page ends of that list.
-/

namespace Polystore

/-! ## Markers -/

namespace Marker

theorem compareKeys_ofDocument (document other : Json) (sorts : List SortField) :
    compareKeys other sorts (ofDocument sorts document).keys = compareBy sorts other document := by
  induction sorts with
  | nil => rfl
  | cons sort rest ih =>
      rw [compareBy, ← ih]
      rfl

/-- A document compares with a marker as with the document of the marker. -/
theorem compareDocument_ofDocument (query : Query) {document other : Json}
    {id otherId : String} (named : Document.idOf? document = some id)
    (otherNamed : Document.idOf? other = some otherId) :
    (ofDocument query.order document).compareDocument query.order other =
      compareBy query.order other document := by
  rw [compareDocument, compareKeys_ofDocument, otherNamed, Option.getD_some, ofDocument, named,
    Option.getD_some]
  cases level : compareBy query.order other document with
  | lt => rfl
  | gt => rfl
  | eq =>
      rw [compareBy_order query otherNamed named, Ordering.then_eq_eq] at level
      rw [Std.LawfulEqOrd.eq_of_compare level.2]
      exact (if_neg Std.lt_irrefl).trans (if_pos rfl)

end Marker

namespace CursorStore

open Marker

/-- A marker parts a list in the order of a query after the document it was made of. -/
theorem beyond_marker {query : Query} {earlier later : List Json} {document : Json}
    (listing : Document.Listing (earlier ++ document :: later))
    (ordered : (earlier ++ document :: later).Pairwise fun left right =>
      compareBy query.order left right = .lt) :
    beyond query.order (some (ofDocument query.order document)) (earlier ++ document :: later) =
      later := by
  have member : document ∈ earlier ++ document :: later :=
    List.mem_append_right _ List.mem_cons_self
  have compared {other : Json} (otherMember : other ∈ earlier ++ document :: later) :
      (ofDocument query.order document).compareDocument query.order other =
        compareBy query.order other document := by
    obtain ⟨id, named⟩ := listing.named document member
    obtain ⟨otherId, otherNamed⟩ := listing.named other otherMember
    exact compareDocument_ofDocument query named otherNamed
  obtain ⟨-, rest, before⟩ := List.pairwise_append.mp ordered
  have passed : ∀ other ∈ earlier ++ [document],
      ((ofDocument query.order document).compareDocument query.order other != .gt) = true := by
    intro other otherMember
    rcases List.mem_append.mp otherMember with first | last
    · rw [compared (List.mem_append_left _ first), before other first document List.mem_cons_self]
      rfl
    · rw [List.mem_singleton.mp last, compared member]
      have level : compareBy query.order document document =
          (compareBy query.order document document).swap :=
        compareBy_swap (listing.integral document member) (listing.integral document member)
      revert level
      cases compareBy query.order document document <;> simp
  have ahead : ∀ other ∈ later,
      ((ofDocument query.order document).compareDocument query.order other != .gt) = false := by
    intro other otherMember
    have within : other ∈ earlier ++ document :: later :=
      List.mem_append_right _ (List.mem_cons_of_mem _ otherMember)
    rw [compared within, compareBy_swap (listing.integral other within)
      (listing.integral document member), (List.pairwise_cons.mp rest).1 other otherMember]
    rfl
  have joined : earlier ++ document :: later = (earlier ++ [document]) ++ later :=
    List.append_cons earlier document later
  have counted := bisect_append _ (earlier ++ [document]) later passed ahead
  rw [← joined] at counted
  rw [beyond, counted, joined, List.drop_left]

/-- The stored documents that a query finds, in its order. -/
def ordered (cluster : Cluster) (query : Query) (filter : Filter.CursorFilter) : List Json :=
  sortDocuments query.order (cluster.passing query.collection filter.holds)

section

variable {cluster : Cluster} {query : Query} {filter : Filter.CursorFilter}

/-- Reading on from a marker gives what comes after the document it tells. -/
theorem beyond_of_tells (keeps : cluster.Keeps Document.Filed) {after : Option Marker}
    {position : Nat}
    (tells : PageMemo.Tells (ofDocument query.order) (ordered cluster query filter) after position) :
    beyond query.order after (ordered cluster query filter) =
      (ordered cluster query filter).drop position := by
  have found := Cluster.listing_passing keeps query.collection filter.holds
  have listing : Document.Listing (ordered cluster query filter) :=
    found.perm (sortDocuments_perm query.order _)
  have sorted : (ordered cluster query filter).Pairwise fun left right =>
      compareBy query.order left right = .lt := found.pairwise_sortDocuments query
  cases after with
  | none =>
      rw [show position = 0 from tells]
      rfl
  | some marker =>
      obtain ⟨before, document, place, rfl, rfl⟩ := tells
      obtain ⟨inside, here⟩ := List.getElem?_eq_some_iff.mp place
      have apart : ordered cluster query filter = (ordered cluster query filter).take before ++
          document :: (ordered cluster query filter).drop (before + 1) := by
        rw [← here, List.getElem_cons_drop, List.take_append_drop]
      rw [apart] at listing sorted
      have reached := beyond_marker listing sorted
      rw [← apart] at reached
      exact reached

/-- While all nodes can be reached, a cursor reads the list on from a marker. -/
theorem readAfter_of_allOnline (keeps : cluster.Keeps Document.Filed) (online : cluster.AllOnline)
    {after : Option Marker} {position : Nat}
    (tells : PageMemo.Tells (ofDocument query.order) (ordered cluster query filter) after position) :
    readAfter cluster query filter after = .ok ((ordered cluster query filter).drop position) := by
  rw [readAfter, Cluster.scan_of_allOnline online]
  exact congrArg Except.ok (beyond_of_tells keeps tells)

/-- While some node cannot be reached, every read fails with the same cause. -/
theorem readAfter_of_not_allOnline (offline : ¬cluster.AllOnline) (query : Query)
    (filter : Filter.CursorFilter) : ∃ address, ∀ after,
      readAfter cluster query filter after = .error (.unreachable address) := by
  obtain ⟨address, failed⟩ :=
    Cluster.scan_of_not_allOnline offline query.collection filter.holds
  refine ⟨address, fun after => ?_⟩
  rw [readAfter, failed]
  rfl

theorem reads_fetch (keeps : cluster.Keeps Document.Filed) (online : cluster.AllOnline) :
    PageMemo.Reads (ofDocument query.order) (ordered cluster query filter) (fetch query filter)
      cluster := by
  intro after position limit tells
  rw [fetch, readAfter_of_allOnline keeps online tells]
  rfl

theorem refuses_fetch {cause : Error}
    (failed : ∀ after, readAfter cluster query filter after = .error cause) :
    PageMemo.Refuses (fetch query filter) cause cluster := by
  intro after limit
  rw [fetch, failed]

end

/-! ## Serving pages -/

/-- The answer that reads everything and cuts the page out. -/
def pageAnswer (cluster : Cluster) (query : Query) (filter : Filter.CursorFilter)
    (paging : Paging) : Answer :=
  match readAfter cluster query filter none with
  | .error cause => .failed cause
  | .ok found =>
      if paging.skip ≤ found.length then
        .many ((paging.slice found).map Document.withoutId) (paging.slice found).length
      else .exhausted

section

variable {cluster : Cluster} {query : Query} {filter : Filter.CursorFilter} {paging : Paging}

theorem pageAnswer_of_allOnline (keeps : cluster.Keeps Document.Filed) (online : cluster.AllOnline) :
    pageAnswer cluster query filter paging =
      if paging.skip ≤ (ordered cluster query filter).length then
        .many ((paging.slice (ordered cluster query filter)).map Document.withoutId)
          (paging.slice (ordered cluster query filter)).length
      else .exhausted := by
  have start : PageMemo.Tells (ofDocument query.order) (ordered cluster query filter) none 0 := rfl
  rw [pageAnswer, readAfter_of_allOnline keeps online start]
  rfl

theorem pageAnswer_of_error (query : Query) {cause : Error}
    (failed : ∀ after, readAfter cluster query filter after = .error cause) :
    pageAnswer cluster query filter paging = .failed cause := by
  rw [pageAnswer, failed]

end

section

variable {store : CursorStore} {query : Query} {filter : Filter.CursorFilter} {paging : Paging}

theorem servePage_of_tells (keeps : store.cluster.Keeps Document.Filed)
    (online : store.cluster.AllOnline) {after : Option Marker}
    (tells : PageMemo.Tells (ofDocument query.order) (ordered store.cluster query filter) after
      paging.skip) (memo : PageMemo Marker) :
    servePage query filter paging after { store with memo := memo } =
      (.ok (.many ((paging.slice (ordered store.cluster query filter)).map Document.withoutId)
          (paging.slice (ordered store.cluster query filter)).length),
        { store with
          memo := memo.record query.signature paging
            (paging.slice (ordered store.cluster query filter)).length
            ((paging.slice (ordered store.cluster query filter)).getLast?.map
              (ofDocument query.order)) }) := by
  have read := readAfter_of_allOnline keeps online tells
  simp only [servePage, read]
  rfl

/-- What the memo of a store remembers are page ends of the list that its cursor reads. -/
def MemoFits (query : Query) (filter : Filter.CursorFilter) (cluster : Cluster)
    (memo : PageMemo Marker) : Prop :=
  memo.Remembers (ofDocument query.order) (ordered cluster query filter) query.signature

/-- While all nodes can be reached, a page is the slice of the list. -/
theorem runPage_of_allOnline (query : Query) (store : CursorStore) (keeps : store.cluster.Keeps Document.Filed)
    (online : store.cluster.AllOnline) (fits : MemoFits query filter store.cluster store.memo)
    (positive : 0 < paging.size) :
    ∃ answer memo, runPage query filter paging store = (.ok answer, { store with memo := memo }) ∧
      answer = pageAnswer store.cluster query filter paging ∧
      MemoFits query filter store.cluster memo := by
  obtain ⟨start, found, located, leads, remembers⟩ :=
    PageMemo.locate_of_reads (reads_fetch keeps online) fits positive
  rw [runPage, located, pageAnswer_of_allOnline keeps online]
  have inside {after : Option Marker} (tells : PageMemo.Tells (ofDocument query.order)
      (ordered store.cluster query filter) after paging.skip) :
      paging.skip ≤ (ordered store.cluster query filter).length := by
    cases after with
    | none =>
        rw [show paging.skip = 0 from tells]
        exact Nat.zero_le _
    | some marker =>
        obtain ⟨before, document, place, -, next⟩ := tells
        rw [next]
        exact (List.getElem?_eq_some_iff.mp place).1
  cases start with
  | first =>
      have tells : PageMemo.Tells (ofDocument query.order) (ordered store.cluster query filter) none
        paging.skip := leads
      dsimp only
      rw [servePage_of_tells keeps online tells, if_pos (inside tells)]
      exact ⟨_, _, rfl, rfl, remembers.record paging⟩
  | after marker =>
      have tells : PageMemo.Tells (ofDocument query.order) (ordered store.cluster query filter)
        (some marker) paging.skip := leads
      dsimp only
      rw [servePage_of_tells keeps online tells, if_pos (inside tells)]
      exact ⟨_, _, rfl, rfl, remembers.record paging⟩
  | exhausted =>
      rw [if_neg (Nat.not_le_of_lt leads)]
      exact ⟨_, _, rfl, rfl, remembers⟩

/-- While nothing can be read, a request for a page fails, wherever it gets to. -/
theorem runPage_of_error (query : Query) (store : CursorStore) {cause : Error}
    (failed : ∀ after, readAfter store.cluster query filter after = .error cause)
    (fits : MemoFits query filter store.cluster store.memo) (positive : 0 < paging.size) :
    ∃ memo, runPage query filter paging store = (.error cause, { store with memo := memo }) ∧
      MemoFits query filter store.cluster memo := by
  obtain ⟨result, found, located, reached, remembers⟩ :=
    PageMemo.locate_of_refuses (refuses_fetch failed) fits positive
  have refused (after : Option Marker) :
      servePage query filter paging after { store with memo := found } =
        (.error cause, { store with memo := found }) := by
    rw [servePage, failed]
  rw [runPage, located]
  refine ⟨found, ?_, remembers⟩
  rcases reached with rfl | rfl | ⟨marker, rfl⟩
  · rfl
  · exact refused none
  · exact refused (some marker)

end

end CursorStore

end Polystore
