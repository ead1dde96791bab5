import Mathlib.Data.Finset.Card
import Polystore.Proofs.Filter.Cache

/-!
# The memory of a cache

What a cache still holds follows from the history of its requests.  Between two requests for a
signature only the signatures used in between can have come before it, so it is held as long as
these are fewer than there is room for; and what is held was compiled last, and not forgotten
since.
-/

namespace Polystore.Filter.Cache

variable {φ : Type}

/-! ## Histories -/

/-- What is asked of a cache. -/
inductive Request (φ : Type) where
  /-- Look a signature up, which compiles to a result if it comes to that. -/
  | lookup (signature : String) (compiled : Except Error φ)
  | invalidate (signature : String)
  | clear

/-- A request, with the cache that it found, its answer if it has one, and the cache that it
left. -/
structure Event (φ : Type) where
  request : Request φ
  before : Cache φ
  answer : Option (Except Error φ)
  after : Cache φ

namespace Request

/-- What comes of a request. -/
def meet (cache : Cache φ) : Request φ → Event φ
  | lookup signature compiled =>
      let (answer, after) := cache.getOrCompile signature fun _ => compiled
      ⟨lookup signature compiled, cache, some answer, after⟩
  | invalidate signature => ⟨invalidate signature, cache, none, cache.invalidate signature⟩
  | clear => ⟨clear, cache, none, cache.clear⟩

/-- A request that is a lookup. -/
def isLookup : Request φ → Bool
  | lookup _ _ => true
  | invalidate _ | clear => false

/-- A request that makes a cache forget a signature. -/
def Forgets (signature : String) : Request φ → Prop
  | lookup _ _ => False
  | invalidate other => other = signature
  | clear => True

end Request

/-- What comes of some requests, one after the other. -/
def history : List (Request φ) → Cache φ → List (Event φ)
  | [], _ => []
  | request :: rest, cache => request.meet cache :: history rest (request.meet cache).after

/-- What some requests leave of a cache. -/
def remains (requests : List (Request φ)) (cache : Cache φ) : Cache φ :=
  requests.foldl (fun cache request => (request.meet cache).after) cache

namespace Event

/-- A lookup that found a filter, which is then counted as a hit. -/
def IsHit (event : Event φ) : Prop :=
  event.after.hits = event.before.hits + 1

/-- The signature of a lookup and the filter that it was answered, if it was. -/
def used? (event : Event φ) : Option (String × φ) :=
  match event.request, event.answer with
  | .lookup signature _, some (.ok filter) => some (signature, filter)
  | _, _ => none

/-- A lookup that compiled a filter. -/
def Compiles (event : Event φ) (signature : String) (filter : φ) : Prop :=
  event.used? = some (signature, filter) ∧ ¬event.IsHit

end Event

/-- A filter is what a signature was compiled to last, and it was not forgotten since. -/
def LastCompiled (signature : String) (filter : φ) (events : List (Event φ)) : Prop :=
  ∃ first event rest, events = first ++ event :: rest ∧ event.Compiles signature filter ∧
    ∀ later ∈ rest, ¬later.request.Forgets signature ∧ ∀ other, ¬later.Compiles signature other

/-- The other signatures that were used. -/
def othersUsed (signature : String) (events : List (Event φ)) : Finset String :=
  ((events.filterMap Event.used?).map Prod.fst).toFinset.erase signature

/-- A signature was used and not forgotten, and fewer other ones than there is room for were used
since. -/
def UsedRecently (room : Nat) (signature : String) (events : List (Event φ)) : Prop :=
  ∃ first event rest, events = first ++ event :: rest ∧
    (∃ filter, event.used? = some (signature, filter)) ∧
    (∀ later ∈ rest, ¬later.request.Forgets signature) ∧
    (othersUsed signature rest).card < room

theorem history_concat (requests : List (Request φ)) (request : Request φ) (cache : Cache φ) :
    history (requests ++ [request]) cache =
      history requests cache ++ [request.meet (remains requests cache)] := by
  induction requests generalizing cache with
  | nil => rfl
  | cons first rest ih =>
      rw [List.cons_append, history, ih, history, List.cons_append]
      rfl

theorem remains_concat (requests : List (Request φ)) (request : Request φ) (cache : Cache φ) :
    remains (requests ++ [request]) cache = (request.meet (remains requests cache)).after :=
  List.foldl_concat _ _ _ _

/-- A history is cut where its requests are cut. -/
theorem exists_of_history_eq {requests : List (Request φ)} {cache : Cache φ}
    {earlier later : List (Event φ)} {event : Event φ}
    (cut : history requests cache = earlier ++ event :: later) :
    ∃ first request rest, requests = first ++ request :: rest ∧ history first cache = earlier ∧
      request.meet (remains first cache) = event ∧ history rest event.after = later := by
  induction earlier generalizing requests cache with
  | nil =>
      cases requests with
      | nil => contradiction
      | cons request rest =>
          obtain ⟨rfl, rfl⟩ := List.cons.inj cut
          exact ⟨[], request, rest, rfl, rfl, rfl, rfl⟩
  | cons head earlier ih =>
      cases requests with
      | nil => contradiction
      | cons request rest =>
          obtain ⟨rfl, tail⟩ := List.cons.inj cut
          obtain ⟨first, next, last, rfl, rfl, rfl, rfl⟩ := ih tail
          exact ⟨request :: first, next, last, rfl, rfl, rfl, rfl⟩

/-! ## Requests -/

/-- What a request can come to. -/
inductive Conducted : Event φ → Prop where
  | hit {cache : Cache φ} {signature : String} {filter : φ} (compiled : Except Error φ)
      (held : cache.get? signature = some filter) :
      Conducted ⟨.lookup signature compiled, cache, some (.ok filter),
        { cache.promote signature filter with hits := cache.hits + 1 }⟩
  | compiled {cache : Cache φ} {signature : String} (filter : φ)
      (absent : cache.get? signature = none) :
      Conducted ⟨.lookup signature (.ok filter), cache, some (.ok filter),
        { cache with misses := cache.misses + 1 }.promote signature filter⟩
  | failed {cache : Cache φ} {signature : String} (cause : Error)
      (absent : cache.get? signature = none) :
      Conducted ⟨.lookup signature (.error cause), cache, some (.error cause),
        { cache with misses := cache.misses + 1 }⟩
  | invalidated (cache : Cache φ) (signature : String) :
      Conducted ⟨.invalidate signature, cache, none, cache.invalidate signature⟩
  | cleared (cache : Cache φ) : Conducted ⟨.clear, cache, none, cache.clear⟩

theorem conducted_meet (cache : Cache φ) (request : Request φ) :
    Conducted (request.meet cache) := by
  cases request with
  | lookup signature compiled =>
      rw [Request.meet, getOrCompile]
      cases held : cache.get? signature with
      | some filter => exact .hit compiled held
      | none =>
          cases compiled with
          | ok filter => exact .compiled filter held
          | error cause => exact .failed cause held
  | invalidate signature => exact .invalidated cache signature
  | clear => exact .cleared cache

theorem before_meet (cache : Cache φ) (request : Request φ) :
    (request.meet cache).before = cache := by
  cases request with
  | lookup signature compiled => rfl
  | invalidate signature => rfl
  | clear => rfl

theorem request_meet (cache : Cache φ) (request : Request φ) :
    (request.meet cache).request = request := by
  cases request with
  | lookup signature compiled => rfl
  | invalidate signature => rfl
  | clear => rfl

namespace Conducted

variable {event : Event φ} {signature : String} {filter : φ}

theorem capacity (conducted : Conducted event) :
    event.after.capacity = event.before.capacity := by
  cases conducted with
  | hit compiled held => rfl
  | compiled filter absent => rfl
  | failed cause absent => rfl
  | invalidated cache signature => rfl
  | cleared cache => rfl

theorem size_le (conducted : Conducted event)
    (fits : event.before.size ≤ event.before.capacity) :
    event.after.size ≤ event.before.capacity := by
  cases conducted with
  | hit compiled held => exact size_promote_le _ _ _
  | compiled filter absent => exact size_promote_le _ _ _
  | failed cause absent => exact fits
  | invalidated cache signature => exact (List.length_filter_le _ _).trans fits
  | cleared cache => exact Nat.zero_le _

/-- Every lookup is counted once. -/
theorem count (conducted : Conducted event) :
    event.after.hits + event.after.misses =
      event.before.hits + event.before.misses + event.request.isLookup.toNat := by
  cases conducted with
  | hit compiled held => exact Nat.add_right_comm _ _ _
  | compiled filter absent => rfl
  | failed cause absent => rfl
  | invalidated cache signature => rfl
  | cleared cache => rfl

/-- A filter that a lookup is answered becomes the one used most recently. -/
theorem entries_of_used (conducted : Conducted event)
    (used : event.used? = some (signature, filter)) :
    event.after.entries = (event.before.promote signature filter).entries := by
  cases conducted with
  | hit compiled held =>
      cases used
      rfl
  | compiled filter absent =>
      cases used
      rfl
  | failed cause absent => cases used
  | invalidated cache signature => cases used
  | cleared cache => cases used

/-- A request that is answered no filter only removes some. -/
theorem entries_of_unused (conducted : Conducted event) (unused : event.used? = none) :
    event.after.entries.Sublist event.before.entries := by
  cases conducted with
  | hit compiled held => cases unused
  | compiled filter absent => cases unused
  | failed cause absent => exact .refl _
  | invalidated cache signature => exact List.filter_sublist
  | cleared cache => exact List.nil_sublist _

/-- A lookup is a hit exactly if its signature is held. -/
theorem isHit_iff (conducted : Conducted event) {compiled : Except Error φ}
    (asked : event.request = .lookup signature compiled) :
    event.IsHit ↔ (event.before.get? signature).isSome := by
  cases conducted with
  | hit compiled held =>
      cases asked
      exact iff_of_true rfl (held ▸ rfl)
  | compiled filter absent =>
      cases asked
      exact iff_of_false (Nat.ne_of_lt (Nat.lt_succ_self _)) (by simp [absent])
  | failed cause absent =>
      cases asked
      exact iff_of_false (Nat.ne_of_lt (Nat.lt_succ_self _)) (by simp [absent])
  | invalidated cache signature => cases asked
  | cleared cache => cases asked

/-- A signature that is held is answered its filter. -/
theorem answer_of_held (conducted : Conducted event) {compiled : Except Error φ}
    (asked : event.request = .lookup signature compiled)
    (held : event.before.get? signature = some filter) : event.answer = some (.ok filter) := by
  cases conducted with
  | hit compiled found =>
      cases asked
      rw [← Option.some.inj (found.symm.trans held)]
  | compiled given absent =>
      cases asked
      cases absent.symm.trans held
  | failed cause absent =>
      cases asked
      cases absent.symm.trans held
  | invalidated cache other => cases asked
  | cleared cache => cases asked

/-- A lookup that is no hit is answered what it compiles to, and a failure is kept nowhere. -/
theorem answer_of_missed (conducted : Conducted event) {compiled : Except Error φ}
    (asked : event.request = .lookup signature compiled) (missed : ¬event.IsHit) :
    event.answer = some compiled ∧ ∀ cause, compiled = .error cause →
      event.after = { event.before with misses := event.before.misses + 1 } := by
  cases conducted with
  | hit compiled found => exact absurd rfl missed
  | compiled given absent =>
      cases asked
      exact ⟨rfl, nofun⟩
  | failed cause absent =>
      cases asked
      exact ⟨rfl, fun _ _ => rfl⟩
  | invalidated cache other => cases asked
  | cleared cache => cases asked

/-- What is held after a request was compiled for it, or held before and not forgotten. -/
theorem get?_cases (conducted : Conducted event)
    (held : event.after.get? signature = some filter) :
    event.Compiles signature filter ∨
      event.before.get? signature = some filter ∧ ¬event.request.Forgets signature := by
  cases conducted with
  | hit compiled found =>
      rcases get?_promote_cases held with ⟨rfl, rfl⟩ | old
      · exact Or.inr ⟨found, id⟩
      · exact Or.inr ⟨old, id⟩
  | compiled filter absent =>
      rcases get?_promote_cases held with ⟨rfl, rfl⟩ | old
      · exact Or.inl ⟨rfl, Nat.ne_of_lt (Nat.lt_succ_self _)⟩
      · exact Or.inr ⟨old, id⟩
  | failed cause absent => exact Or.inr ⟨held, id⟩
  | invalidated cache other =>
      have kept : (if signature = other then none else cache.get? signature) = some filter :=
        (Keyed.get?_erase other signature cache.entries).symm.trans held
      split at kept
      · contradiction
      · next differ => exact Or.inr ⟨kept, fun same => differ same.symm⟩
  | cleared cache => contradiction

end Conducted

/-! ## What was compiled last -/

theorem LastCompiled.concat {signature : String} {filter : φ} {events : List (Event φ)}
    {event : Event φ} (last : LastCompiled signature filter events)
    (kept : ¬event.request.Forgets signature)
    (uncompiled : ∀ other, ¬event.Compiles signature other) :
    LastCompiled signature filter (events ++ [event]) := by
  obtain ⟨first, source, rest, rfl, compiles, quiet⟩ := last
  refine ⟨first, source, rest ++ [event], by simp, compiles, ?_⟩
  intro later member
  rcases List.mem_append.mp member with before | here
  · exact quiet later before
  · rw [List.mem_singleton.mp here]
    exact ⟨kept, uncompiled⟩

/-- A signature that is held is not compiled. -/
theorem Conducted.not_compiles {event : Event φ} (conducted : Conducted event)
    {signature : String} {held : φ} (found : event.before.get? signature = some held)
    (filter : φ) : ¬event.Compiles signature filter := by
  rintro ⟨used, missed⟩
  cases asked : event.request with
  | lookup other compiled =>
      cases answered : event.answer with
      | none =>
          rw [Event.used?, asked, answered] at used
          cases used
      | some result =>
          rw [Event.used?, asked, answered] at used
          cases result with
          | error cause => cases used
          | ok given =>
              cases used
              exact missed ((conducted.isHit_iff asked).mpr (found ▸ rfl))
  | invalidate other =>
      rw [Event.used?, asked] at used
      cases used
  | clear =>
      rw [Event.used?, asked] at used
      cases used

/-- Whatever is held was compiled last. -/
theorem lastCompiled_of_get? {capacity : Nat} (requests : List (Request φ)) {signature : String}
    {filter : φ} (held : (remains requests (ofCapacity capacity)).get? signature = some filter) :
    LastCompiled signature filter (history requests (ofCapacity capacity)) := by
  induction requests using List.reverseRecOn generalizing filter with
  | nil => contradiction
  | append_singleton requests request ih =>
      have conducted := conducted_meet (remains requests (ofCapacity capacity)) request
      rw [remains_concat] at held
      rw [history_concat]
      rcases conducted.get?_cases held with compiles | ⟨old, kept⟩
      · exact ⟨_, _, [], rfl, compiles, List.forall_mem_nil _⟩
      · have before := old
        rw [before_meet] at before
        exact (ih before).concat kept (conducted.not_compiles old)

/-! ## What was used recently -/

/-- No two filters are held under one signature. -/
def Distinct (cache : Cache φ) : Prop :=
  (cache.entries.map Prod.fst).Nodup

/-- A signature is held, and only some other ones were used after it. -/
def HeldBehind (cache : Cache φ) (signature : String) (recent : Finset String) : Prop :=
  ∃ front filter back, cache.entries = front ++ (signature, filter) :: back ∧
    ∀ entry ∈ front, entry.1 ∈ recent

theorem not_mem_names_others (cache : Cache φ) (signature : String) :
    signature ∉ (cache.others signature).map Prod.fst := by
  intro member
  obtain ⟨entry, listed, same⟩ := List.mem_map.mp member
  exact of_decide_eq_true (List.mem_filter.mp listed).2 same

theorem Distinct.others {cache : Cache φ} (distinct : cache.Distinct) (signature : String) :
    ((cache.others signature).map Prod.fst).Nodup :=
  (List.filter_sublist.map Prod.fst).nodup distinct

theorem Distinct.promote {cache : Cache φ} (distinct : cache.Distinct) (signature : String)
    (filter : φ) : (cache.promote signature filter).Distinct := by
  have all : (((signature, filter) :: cache.others signature).map Prod.fst).Nodup :=
    List.nodup_cons.mpr ⟨not_mem_names_others cache signature, distinct.others signature⟩
  exact ((List.take_sublist _ _).map Prod.fst).nodup all

theorem Conducted.distinct {event : Event φ} (conducted : Conducted event)
    (distinct : event.before.Distinct) : event.after.Distinct := by
  cases used : event.used? with
  | none => exact ((conducted.entries_of_unused used).map Prod.fst).nodup distinct
  | some pair =>
      rw [Distinct, conducted.entries_of_used used]
      exact distinct.promote _ _

theorem distinct_remains (requests : List (Request φ)) {cache : Cache φ}
    (distinct : cache.Distinct) : (remains requests cache).Distinct := by
  induction requests using List.reverseRecOn with
  | nil => exact distinct
  | append_singleton requests request ih =>
      rw [remains_concat]
      apply (conducted_meet _ request).distinct
      rw [before_meet]
      exact ih

theorem capacity_remains (requests : List (Request φ)) (cache : Cache φ) :
    (remains requests cache).capacity = cache.capacity := by
  induction requests using List.reverseRecOn with
  | nil => rfl
  | append_singleton requests request ih =>
      rw [remains_concat, (conducted_meet _ request).capacity, before_meet, ih]

section

variable {cache : Cache φ} {signature other : String} {recent more : Finset String}

theorem HeldBehind.mono (held : cache.HeldBehind signature recent) (within : recent ⊆ more) :
    cache.HeldBehind signature more := by
  obtain ⟨front, filter, back, entries, among⟩ := held
  exact ⟨front, filter, back, entries, fun entry member => within (among entry member)⟩

theorem HeldBehind.isSome_get? (held : cache.HeldBehind signature recent) :
    (cache.get? signature).isSome := by
  obtain ⟨front, filter, back, entries, -⟩ := held
  rw [get?, entries, List.lookup_isSome_iff]
  exact ⟨(signature, filter), by simp⟩

/-- A filter that becomes the one used most recently is held behind no other. -/
theorem heldBehind_promote_self (room : 0 < cache.capacity) (filter : φ) :
    (cache.promote signature filter).HeldBehind signature ∅ := by
  obtain ⟨slots, same⟩ := Nat.exists_eq_succ_of_ne_zero (Nat.ne_of_gt room)
  refine ⟨[], filter, (cache.others signature).take slots, ?_, List.forall_mem_nil _⟩
  rw [promote, same]
  rfl

/-- Filters of other signatures may be taken out. -/
theorem HeldBehind.others (held : cache.HeldBehind signature recent) (differ : other ≠ signature) :
    ∃ front filter back, cache.others other = front ++ (signature, filter) :: back ∧
      ∀ entry ∈ front, entry.1 ∈ recent := by
  obtain ⟨front, filter, back, entries, among⟩ := held
  refine ⟨front.filter fun entry => entry.1 ≠ other, filter,
    back.filter fun entry => entry.1 ≠ other, ?_, ?_⟩
  · rw [Cache.others, entries, List.filter_append, List.filter_cons_of_pos]
    exact decide_eq_true differ.symm
  · intro entry member
    exact among entry (List.mem_filter.mp member).1

/-- A signature stays held when another one is used, if there is room for all that were used
after it. -/
theorem HeldBehind.promote (held : cache.HeldBehind signature recent)
    (distinct : cache.Distinct) (differ : other ≠ signature) (filter : φ)
    (room : (insert other recent).card < cache.capacity) :
    (cache.promote other filter).HeldBehind signature (insert other recent) := by
  obtain ⟨front, kept, back, entries, among⟩ := held.others differ
  have names : ∀ entry ∈ (other, filter) :: front, entry.1 ∈ insert other recent := by
    intro entry member
    rcases List.mem_cons.mp member with rfl | behind
    · exact Finset.mem_insert_self _ _
    · exact Finset.mem_insert_of_mem (among entry behind)
  have once : (((other, filter) :: front).map Prod.fst).Nodup := by
    have all : (((other, filter) :: cache.others other).map Prod.fst).Nodup :=
      List.nodup_cons.mpr ⟨not_mem_names_others cache other, distinct.others other⟩
    rw [entries, ← List.cons_append, List.map_append] at all
    exact all.of_append_left
  have short : ((other, filter) :: front).length < cache.capacity := by
    refine Nat.lt_of_le_of_lt ?_ room
    rw [← List.length_map Prod.fst, ← List.toFinset_card_of_nodup once]
    apply Finset.card_le_card
    intro name member
    obtain ⟨entry, listed, rfl⟩ := List.mem_map.mp (List.mem_toFinset.mp member)
    exact names entry listed
  obtain ⟨slots, same⟩ := Nat.exists_eq_add_of_lt short
  refine ⟨(other, filter) :: front, kept, back.take slots, ?_, names⟩
  rw [Cache.promote, entries, ← List.cons_append]
  dsimp only
  rw [same, Nat.add_assoc, List.take_length_add_append, List.take_succ_cons]

theorem Conducted.heldBehind_of_unused {event : Event φ} (conducted : Conducted event)
    (unused : event.used? = none) (kept : ¬event.request.Forgets signature)
    (held : event.before.HeldBehind signature recent) :
    event.after.HeldBehind signature recent := by
  cases conducted with
  | hit compiled found => cases unused
  | compiled filter absent => cases unused
  | failed cause absent => exact held
  | invalidated cache other => exact held.others kept
  | cleared cache => exact absurd trivial kept

end

theorem othersUsed_concat (signature : String) (events : List (Event φ)) (event : Event φ) :
    othersUsed signature (events ++ [event]) =
      match event.used? with
      | some (other, _) =>
          if other = signature then othersUsed signature events
          else insert other (othersUsed signature events)
      | none => othersUsed signature events := by
  rw [othersUsed, List.filterMap_append, List.map_append, List.toFinset_append]
  cases used : event.used? with
  | none =>
      rw [List.filterMap_cons_none used, List.filterMap_nil, List.map_nil, List.toFinset_nil,
        Finset.union_empty]
      rfl
  | some pair =>
      rw [List.filterMap_cons_some used, List.filterMap_nil, List.map_singleton,
        List.toFinset_cons, List.toFinset_nil, insert_empty_eq, Finset.union_comm,
        ← Finset.insert_eq]
      dsimp only
      split
      · next same => rw [same, Finset.erase_insert_eq_erase]; rfl
      · next differ => rw [Finset.erase_insert_of_ne differ]; rfl

/-- A request keeps a signature held that it does not make the cache forget, if there is room for
all that were used after it. -/
theorem Conducted.heldBehind {event : Event φ} (conducted : Conducted event)
    (distinct : event.before.Distinct) {signature : String} {events : List (Event φ)}
    (kept : ¬event.request.Forgets signature)
    (few : (othersUsed signature (events ++ [event])).card < event.before.capacity)
    (held : event.before.HeldBehind signature (othersUsed signature events)) :
    event.after.HeldBehind signature (othersUsed signature (events ++ [event])) := by
  rw [othersUsed_concat] at few ⊢
  cases used : event.used? with
  | none => exact conducted.heldBehind_of_unused used kept held
  | some pair =>
      obtain ⟨other, filter⟩ := pair
      rw [used] at few
      dsimp only at few ⊢
      rw [HeldBehind, conducted.entries_of_used used]
      split at few
      · next same =>
        subst same
        exact (heldBehind_promote_self (Nat.zero_lt_of_lt few) filter).mono
          (Finset.empty_subset _)
      · next differ =>
        rw [if_neg differ]
        exact held.promote distinct differ filter few

/-- A signature that comes first stays held while it is not forgotten and fewer other signatures
are used than there is room for. -/
theorem heldBehind_remains {cache : Cache φ} (distinct : cache.Distinct) {signature : String}
    (first : cache.HeldBehind signature ∅) {requests : List (Request φ)}
    (kept : ∀ event ∈ history requests cache, ¬event.request.Forgets signature)
    (few : (othersUsed signature (history requests cache)).card < cache.capacity) :
    (remains requests cache).HeldBehind signature
      (othersUsed signature (history requests cache)) := by
  induction requests using List.reverseRecOn with
  | nil => exact first.mono (Finset.empty_subset _)
  | append_singleton requests request ih =>
      rw [history_concat] at kept few ⊢
      have within : othersUsed signature (history requests cache) ⊆ othersUsed signature
          (history requests cache ++ [request.meet (remains requests cache)]) := by
        rw [othersUsed_concat]
        split
        · split
          · exact subset_rfl
          · exact Finset.subset_insert _ _
        · exact subset_rfl
      have held := ih (fun event member => kept event (List.mem_append_left _ member))
        (Nat.lt_of_le_of_lt (Finset.card_le_card within) few)
      rw [remains_concat]
      apply (conducted_meet _ request).heldBehind
      · rw [before_meet]
        exact distinct_remains requests distinct
      · exact kept _ (List.mem_append_right _ List.mem_cons_self)
      · rw [before_meet, capacity_remains]
        exact few
      · rw [before_meet]
        exact held

/-! ## What a cache recalls -/

theorem size_remains_le (requests : List (Request φ)) (capacity : Nat) :
    (remains requests (ofCapacity capacity : Cache φ)).size ≤ max capacity 1 := by
  induction requests using List.reverseRecOn with
  | nil => exact Nat.zero_le _
  | append_singleton requests request ih =>
      have room : (remains requests (ofCapacity capacity : Cache φ)).capacity = max capacity 1 :=
        capacity_remains requests _
      have fits := (conducted_meet (remains requests (ofCapacity capacity)) request).size_le
      rw [before_meet, room] at fits
      rw [remains_concat]
      exact fits ih

theorem count_remains (requests : List (Request φ)) (capacity : Nat) :
    (remains requests (ofCapacity capacity : Cache φ)).hits +
      (remains requests (ofCapacity capacity : Cache φ)).misses =
        requests.countP Request.isLookup := by
  induction requests using List.reverseRecOn with
  | nil => rfl
  | append_singleton requests request ih =>
      rw [remains_concat, (conducted_meet _ request).count, before_meet, request_meet, ih,
        List.countP_append, List.countP_singleton]
      cases request.isLookup with
      | false => rfl
      | true => rfl

/-- A signature that was used recently is held. -/
theorem isSome_get?_of_usedRecently {capacity : Nat} {requests : List (Request φ)}
    {signature : String}
    (recent : UsedRecently (max capacity 1) signature
      (history requests (ofCapacity capacity))) :
    ((remains requests (ofCapacity capacity)).get? signature).isSome := by
  obtain ⟨earlier, event, later, cut, ⟨filter, used⟩, kept, few⟩ := recent
  obtain ⟨first, request, rest, rfl, -, rfl, rfl⟩ := exists_of_history_eq cut
  have conducted := conducted_meet (remains first (ofCapacity capacity)) request
  have room : (remains first (ofCapacity capacity : Cache φ)).capacity = max capacity 1 :=
    capacity_remains first _
  have front : (request.meet (remains first (ofCapacity capacity))).after.HeldBehind
      signature ∅ := by
    rw [HeldBehind, conducted.entries_of_used used, before_meet]
    exact heldBehind_promote_self (room ▸ Nat.lt_of_lt_of_le Nat.zero_lt_one
      (Nat.le_max_right capacity 1)) filter
  have distinct : (request.meet (remains first (ofCapacity capacity))).after.Distinct := by
    apply conducted.distinct
    rw [before_meet]
    exact distinct_remains first List.nodup_nil
  have held := heldBehind_remains distinct front kept (by
    rw [conducted.capacity, before_meet, room]
    exact few)
  rw [remains, List.foldl_append]
  exact held.isSome_get?

/-- Whatever was asked of a cache, it holds no more filters than it has room for, and every lookup
is counted as a hit or a miss.  A hit is answered what its signature was compiled to last, if that
was not forgotten since; a signature that was used recently is a hit; and any other lookup is
answered what it compiles to, where a failure changes nothing but the count of misses. -/
theorem recalls_last_compiled_while_recent (capacity : Nat) (requests : List (Request φ)) :
    (remains requests (ofCapacity capacity : Cache φ)).size ≤ max capacity 1 ∧
    (remains requests (ofCapacity capacity : Cache φ)).hits +
      (remains requests (ofCapacity capacity : Cache φ)).misses =
        requests.countP Request.isLookup ∧
    ∀ earlier event later signature compiled,
      history requests (ofCapacity capacity) = earlier ++ event :: later →
      event.request = .lookup signature compiled →
        (event.IsHit → ∃ filter, event.answer = some (.ok filter) ∧
          LastCompiled signature filter earlier) ∧
        (UsedRecently (max capacity 1) signature earlier → event.IsHit) ∧
        (¬event.IsHit → event.answer = some compiled ∧ ∀ cause, compiled = .error cause →
          event.after = { event.before with misses := event.before.misses + 1 }) := by
  refine ⟨size_remains_le requests capacity, count_remains requests capacity, ?_⟩
  intro earlier event later signature compiled cut asked
  obtain ⟨first, request, rest, -, rfl, met, -⟩ := exists_of_history_eq cut
  have before : event.before = remains first (ofCapacity capacity) := by
    rw [← met, before_meet]
  have conducted : Conducted event := met ▸ conducted_meet _ request
  refine ⟨?_, ?_, ?_⟩
  · intro hit
    obtain ⟨filter, held⟩ := Option.isSome_iff_exists.mp ((conducted.isHit_iff asked).mp hit)
    refine ⟨filter, conducted.answer_of_held asked held, ?_⟩
    rw [before] at held
    exact lastCompiled_of_get? first held
  · intro recent
    rw [conducted.isHit_iff asked, before]
    exact isSome_get?_of_usedRecently recent
  · intro missed
    exact conducted.answer_of_missed asked missed

/-- With room for two filters, the one that was used again before a third came is still there, and
the other one is not. -/
theorem recalls_one_of_two :
    let requests : List (Request Nat) := [
      .lookup "a" (.ok 1), .lookup "b" (.ok 2), .lookup "a" (.ok 7), .lookup "c" (.ok 3),
      .lookup "a" (.ok 8), .lookup "b" (.error .invalidPattern)]
    let cache := remains requests (ofCapacity 2)
    cache.size ≤ 2 ∧ cache.hits + cache.misses = 6 ∧
    ∃ earlier hit missed, history requests (ofCapacity 2) = earlier ++ [hit, missed] ∧
      (∃ filter, hit.answer = some (.ok filter) ∧ LastCompiled "a" filter earlier) ∧
      missed.answer = some (.error .invalidPattern) ∧
      missed.after = { missed.before with misses := missed.before.misses + 1 } := by
  intro requests cache
  obtain ⟨size, count, recalls⟩ := recalls_last_compiled_while_recent 2 requests
  let earlier := history (requests.take 4) (ofCapacity 2)
  refine ⟨size, count, earlier,
    (Request.lookup "a" (.ok 8)).meet (remains (requests.take 4) (ofCapacity 2)),
    (Request.lookup "b" (.error .invalidPattern)).meet
      (remains (requests.take 5) (ofCapacity 2)), rfl, ?_, ?_⟩
  · have recent : UsedRecently (max 2 1) "a" earlier := by
      refine ⟨history (requests.take 2) (ofCapacity 2), _, _, rfl, ⟨1, by decide +kernel⟩, ?_,
        by decide +kernel⟩
      rintro later member
      rw [List.mem_singleton.mp member]
      exact id
    obtain ⟨answered, hit, -⟩ := recalls earlier _ _ "a" (.ok 8) rfl rfl
    exact answered (hit recent)
  · obtain ⟨-, -, unheld⟩ := recalls (history (requests.take 5) (ofCapacity 2)) _ [] "b"
      (.error .invalidPattern) rfl rfl
    have missed : ¬Event.IsHit ((Request.lookup "b" (.error .invalidPattern)).meet
        (remains (requests.take 5) (ofCapacity 2))) := by
      rw [Event.IsHit]
      decide +kernel
    obtain ⟨answer, after⟩ := unheld missed
    exact ⟨answer, after _ rfl⟩

end Polystore.Filter.Cache
