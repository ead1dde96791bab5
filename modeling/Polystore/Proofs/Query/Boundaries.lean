import Mathlib.Data.List.Nodup
import Polystore.Proofs.Query.Pages

/-!
# Exact page boundaries

Over a source whose reads may fail or leave out the marker of their last item, the memo knows
the ends of exactly the pages walked so far, however walks, served pages and resets follow one
another.  Finding a page reads every missing page once, each behind the end of the page before,
and what was learnt before a failure is not read again.
-/

namespace Polystore.PageMemo

variable {μ : Type}

/-! ## Sources -/

/-- What may go wrong with a read. -/
inductive Fault where
  | fails (cause : Error)
  /-- The items are read, but the marker of the last one is not told. -/
  | withholds

/-- The reads of a source: behind which marker, and up to how many items. -/
abbrev Reading (μ : Type) := List (Option μ × Nat)

section

variable [DecidableEq μ]

/-- The position behind a marker. -/
def positionAfter (items : List μ) : Option μ → Nat
  | none => 0
  | some marker => items.idxOf marker + 1

/-- Read items, each of which is its own marker.  Reads go wrong by their numbers. -/
def reader (items : List μ) (faults : Nat → Option Fault) : Fetch (Reading μ) μ :=
  fun after limit reading =>
    let found := (items.drop (positionAfter items after)).take limit
    let read := reading ++ [(after, limit)]
    match faults reading.length with
    | none => (.ok (found.length, found.getLast?), read)
    | some (.fails cause) => (.error cause, read)
    | some .withholds => (.ok (found.length, none), read)

end

/-- The marker behind which a page is read. -/
def markerBefore (items : List μ) (size : Nat) : (page : Nat) → Option μ
  | 0 => none
  | page + 1 => items[(page + 1) * size - 1]?

/-- The reads of so many pages from a first one on. -/
def visits (items : List μ) (size first count : Nat) : Reading μ :=
  (List.range' first count).map fun page => (markerBefore items size page, size)

theorem length_visits (items : List μ) (size first count : Nat) :
    (visits items size first count).length = count := by
  rw [visits, List.length_map, List.length_range']

theorem visits_append (items : List μ) (size first count more : Nat) :
    visits items size first count ++ visits items size (first + count) more =
      visits items size first (count + more) := by
  rw [visits, visits, visits, ← List.map_append, List.range'_append_1]

/-! ## Known ends -/

section

variable {items : List μ} {size : Nat} {ends : List μ}

theorem positionAfter_of_tells [DecidableEq μ] (distinct : items.Nodup) {after : Option μ}
    {position : Nat} (tells : Tells id items after position) :
    positionAfter items after = position := by
  cases after with
  | none => exact tells.symm
  | some marker =>
      obtain ⟨before, item, here, rfl, rfl⟩ := tells
      obtain ⟨inside, rfl⟩ := List.getElem?_eq_some_iff.mp here
      exact congrArg (· + 1) (distinct.idxOf_getElem before inside)

/-- What is known of a page is the last item of it. -/
theorem EndPages.getElem?_eq (known : EndPages id items size ends) {page : Nat}
    (walked : page < ends.length) : ends[page]? = items[(page + 1) * size - 1]? := by
  obtain ⟨before, item, here, marker, position⟩ :=
    known page ends[page] (List.getElem?_eq_getElem walked)
  rw [position, Nat.add_sub_cancel, here, List.getElem?_eq_getElem walked, marker]
  rfl

theorem EndPages.getLast?_eq (known : EndPages id items size ends) :
    ends.getLast? = markerBefore items size ends.length := by
  rw [List.getLast?_eq_getElem?]
  cases count : ends.length with
  | zero => rw [List.length_eq_zero_iff.mp count]; rfl
  | succ page => exact known.getElem?_eq (by omega)

/-- Only full pages have known ends. -/
theorem EndPages.length_le (known : EndPages id items size ends) (positive : 0 < size) :
    ends.length ≤ items.length / size := by
  cases count : ends.length with
  | zero => exact Nat.zero_le _
  | succ page =>
      have walked : page < ends.length := by omega
      obtain ⟨before, item, here, -, position⟩ :=
        known page ends[page] (List.getElem?_eq_getElem walked)
      obtain ⟨inside, -⟩ := List.getElem?_eq_some_iff.mp here
      rw [Nat.le_div_iff_mul_le positive, position]
      exact inside

/-- A full page ends with an item. -/
theorem exists_end (positive : 0 < size) {page : Nat} (full : (page + 1) * size ≤ items.length) :
    ∃ marker, ((items.drop (page * size)).take size).getLast? = some marker ∧
      size ≤ ((items.drop (page * size)).take size).length := by
  have room : size ≤ ((items.drop (page * size)).take size).length := by
    rw [List.length_take, List.length_drop]
    rw [Nat.succ_mul] at full
    omega
  cases last : ((items.drop (page * size)).take size).getLast? with
  | none =>
      rw [List.getLast?_eq_none_iff.mp last, List.length_nil] at room
      omega
  | some marker => exact ⟨marker, rfl, room⟩

end

/-! ## Walks -/

section

variable [DecidableEq μ] {items : List μ} {size : Nat} {ends : List μ}
  {faults : Nat → Option Fault} {reading : Reading μ}

/-- A read behind the last known end is one of the next page. -/
theorem reader_next (distinct : items.Nodup) (known : EndPages id items size ends) :
    reader items faults ends.getLast? size reading =
      let found := (items.drop (ends.length * size)).take size
      let read := reading ++ visits items size ends.length 1
      match faults reading.length with
      | none => (.ok (found.length, found.getLast?), read)
      | some (.fails cause) => (.error cause, read)
      | some .withholds => (.ok (found.length, none), read) := by
  rw [reader, positionAfter_of_tells distinct known.tells_getLast?, known.getLast?_eq]
  rfl

/-- While reads go well, full pages are walked one after the other. -/
theorem walk_quiet (distinct : items.Nodup) (positive : 0 < size) {count missing : Nat}
    (known : EndPages id items size ends) (enough : count ≤ missing)
    (full : ends.length + count ≤ items.length / size)
    (quiet : ∀ read < count, faults (reading.length + read) = none) :
    ∃ found, EndPages id items size found ∧ found.length = ends.length + count ∧
      walk (reader items faults) size missing ends reading =
        walk (reader items faults) size (missing - count) found
          (reading ++ visits items size ends.length count) := by
  induction count generalizing ends reading missing with
  | zero =>
      refine ⟨ends, known, rfl, ?_⟩
      rw [visits, List.range'_zero, List.map_nil, List.append_nil]
      rfl
  | succ count ih =>
      obtain ⟨missing, rfl⟩ : ∃ fewer, missing = fewer + 1 := ⟨missing - 1, by omega⟩
      have here : (ends.length + 1) * size ≤ items.length :=
        (Nat.le_div_iff_mul_le positive).mp (by omega)
      obtain ⟨marker, last, room⟩ := exists_end positive here
      have next : EndPages id items size (ends ++ [marker]) :=
        known.append positive room (by rw [last]; rfl)
      have length : (ends ++ [marker]).length = ends.length + 1 := List.length_append
      have fewer : count ≤ missing := Nat.le_of_succ_le_succ enough
      have later : ∀ read < count,
          faults ((reading ++ visits items size ends.length 1).length + read) = none := by
        intro read less
        rw [List.length_append, length_visits, Nat.add_assoc, Nat.add_comm 1]
        exact quiet (read + 1) (Nat.succ_lt_succ less)
      obtain ⟨found, ended, reached, walked⟩ := ih next fewer (by omega) later
      refine ⟨found, ended, by omega, ?_⟩
      have first := quiet 0 (Nat.succ_pos _)
      rw [Nat.add_zero] at first
      rw [walk, reader_next distinct known]
      simp only [first, last, if_pos room]
      rw [walked, Nat.succ_sub_succ, length, List.append_assoc, visits_append, Nat.add_comm 1]

/-- Whatever goes wrong, a walk learns ends of pages only. -/
theorem endPages_walk (distinct : items.Nodup) (positive : 0 < size)
    (known : EndPages id items size ends) (missing : Nat) :
    EndPages id items size (walk (reader items faults) size missing ends reading).2.1 := by
  induction missing generalizing ends reading with
  | zero => exact known
  | succ missing ih =>
      rw [walk, reader_next distinct known]
      cases faults reading.length with
      | some fault =>
          cases fault with
          | fails cause => exact known
          | withholds => exact known
      | none =>
          dsimp only
          cases last : ((items.drop (ends.length * size)).take size).getLast? with
          | none => exact known
          | some marker =>
              dsimp only
              split
              · next room => exact ih (known.append positive room (by rw [last]; rfl))
              · exact known

/-- A page that is not full is the last one that is read. -/
theorem walk_last (distinct : items.Nodup) (positive : 0 < size)
    (known : EndPages id items size ends) (all : ends.length = items.length / size)
    (quiet : faults reading.length = none) (missing : Nat) :
    walk (reader items faults) size (missing + 1) ends reading =
      (.ok (), ends, reading ++ visits items size ends.length 1) := by
  have short : ¬size ≤ ((items.drop (ends.length * size)).take size).length := by
    have past : items.length < (ends.length + 1) * size := by
      rw [← Nat.div_lt_iff_lt_mul positive]
      omega
    rw [Nat.succ_mul] at past
    rw [List.length_take, List.length_drop]
    omega
  rw [walk, reader_next distinct known]
  cases last : ((items.drop (ends.length * size)).take size).getLast? with
  | none => simp only [quiet, last]
  | some marker => simp only [quiet, last, if_neg short]

/-- How a walk ends that a fault has stopped. -/
def Fault.result : Fault → Except Error Unit
  | fails cause => .error cause
  | withholds => .ok ()

/-- A fault stops a walk. -/
theorem walk_faulty (distinct : items.Nodup) (known : EndPages id items size ends) {fault : Fault}
    (faulty : faults reading.length = some fault) (missing : Nat) :
    walk (reader items faults) size (missing + 1) ends reading =
      (fault.result, ends, reading ++ visits items size ends.length 1) := by
  rw [walk, reader_next distinct known]
  cases fault with
  | fails cause => simp only [faulty, Fault.result]
  | withholds => simp only [faulty, Fault.result]

/-- A walk without faults reads the missing pages, up to the first that is not full. -/
theorem walk_undisturbed (distinct : items.Nodup) (positive : 0 < size)
    (known : EndPages id items size ends) (missing : Nat)
    (quiet : ∀ read < min (ends.length + missing) (items.length / size + 1) - ends.length,
      faults (reading.length + read) = none) :
    ∃ found, EndPages id items size found ∧
      found.length = min (ends.length + missing) (items.length / size) ∧
      walk (reader items faults) size missing ends reading =
        (.ok (), found, reading ++ visits items size ends.length
          (min (ends.length + missing) (items.length / size + 1) - ends.length)) := by
  have bound := known.length_le positive
  by_cases enough : ends.length + missing ≤ items.length / size
  · have calls : min (ends.length + missing) (items.length / size + 1) - ends.length =
        missing := by
      omega
    rw [calls] at quiet ⊢
    obtain ⟨found, ended, reached, walked⟩ :=
      walk_quiet distinct positive known (Nat.le_refl missing) enough quiet
    refine ⟨found, ended, by omega, ?_⟩
    rw [walked, Nat.sub_self, walk]
  · -- After the full pages one more page is read, which is not full.
    obtain ⟨count, reach⟩ : ∃ count, ends.length + count = items.length / size :=
      ⟨items.length / size - ends.length, by omega⟩
    have calls : min (ends.length + missing) (items.length / size + 1) - ends.length =
        count + 1 := by
      omega
    rw [calls] at quiet ⊢
    obtain ⟨found, ended, reached, walked⟩ :=
      walk_quiet distinct positive known (show count ≤ missing by omega) (Nat.le_of_eq reach)
        fun read less => quiet read (Nat.lt_succ_of_lt less)
    refine ⟨found, ended, by omega, ?_⟩
    obtain ⟨more, rest⟩ : ∃ more, missing - count = more + 1 := ⟨missing - count - 1, by omega⟩
    have last : faults (reading ++ visits items size ends.length count).length = none := by
      rw [List.length_append, length_visits]
      exact quiet count (Nat.lt_succ_self count)
    rw [walked, rest, walk_last distinct positive ended (by omega) last, List.append_assoc,
      reached, visits_append]

/-- A walk is stopped by the first fault among its reads, and keeps what it has learnt. -/
theorem walk_disturbed (distinct : items.Nodup) (positive : 0 < size)
    (known : EndPages id items size ends) {missing read : Nat} {fault : Fault}
    (less : read < min (ends.length + missing) (items.length / size + 1) - ends.length)
    (quiet : ∀ earlier < read, faults (reading.length + earlier) = none)
    (faulty : faults (reading.length + read) = some fault) :
    ∃ found, EndPages id items size found ∧ found.length = ends.length + read ∧
      walk (reader items faults) size missing ends reading =
        (fault.result, found, reading ++ visits items size ends.length (read + 1)) := by
  obtain ⟨found, ended, reached, walked⟩ :=
    walk_quiet distinct positive known (show read ≤ missing by omega) (by omega) quiet
  refine ⟨found, ended, reached, ?_⟩
  obtain ⟨more, rest⟩ : ∃ more, missing - read = more + 1 := ⟨missing - read - 1, by omega⟩
  have here : faults (reading ++ visits items size ends.length read).length = some fault := by
    rw [List.length_append, length_visits]
    exact faulty
  rw [walked, rest, walk_faulty distinct ended here, List.append_assoc, reached, visits_append]

/-! ## The start of a page -/

/-- How many pages a walk to a page reads, of which so many are known. -/
def missingReads (items : List μ) (paging : Paging) (walked : Nat) : Nat :=
  min paging.number (items.length / paging.size + 1) - walked

/-- What finding a page does while its reads go well. -/
structure Reaches (items : List μ) (signature : String) (memo : PageMemo μ) (paging : Paging)
    (outcome : Outcome (PageMemo μ × Reading μ) (PageStart μ)) : Prop where
  found : 0 < paging.number → paging.number * paging.size ≤ items.length →
    ∃ marker, items[paging.number * paging.size - 1]? = some marker ∧
      outcome.1 = .ok (.after marker)
  exhausted : items.length < paging.number * paging.size → outcome.1 = .ok .exhausted
  /-- The missing pages are read once each, in order. -/
  reads : outcome.2.2 = visits items paging.size (memo.walked signature paging.size)
    (missingReads items paging (memo.walked signature paging.size))
  learnt : outcome.2.1.walked signature paging.size =
    max (memo.walked signature paging.size) (min paging.number (items.length / paging.size))

/-- What finding a page does when one of its reads goes wrong: the walk stops there, and the
pages before stay known. -/
structure Stops (items : List μ) (signature : String) (memo : PageMemo μ) (paging : Paging)
    (fault : Fault) (read : Nat) (outcome : Outcome (PageMemo μ × Reading μ) (PageStart μ)) :
    Prop where
  result : outcome.1 = fault.result.map fun _ => .exhausted
  reads : outcome.2.2 = visits items paging.size (memo.walked signature paging.size) (read + 1)
  learnt : outcome.2.1.walked signature paging.size = memo.walked signature paging.size + read

/-- What finding a page does, whatever goes wrong with its reads. -/
structure Finds (items : List μ) (signature : String) (memo : PageMemo μ) (paging : Paging)
    (faults : Nat → Option Fault) (outcome : Outcome (PageMemo μ × Reading μ) (PageStart μ)) :
    Prop where
  /-- A page of no items is refused. -/
  refused : paging.size = 0 → outcome = (.error .emptyPage, memo, [])
  first : 0 < paging.size → paging.number = 0 → outcome = (.ok .first, memo, [])
  reaches : 0 < paging.size →
    (∀ read < missingReads items paging (memo.walked signature paging.size), faults read = none) →
    Reaches items signature memo paging outcome
  stops : 0 < paging.size →
    ∀ read < missingReads items paging (memo.walked signature paging.size), ∀ fault,
      (∀ earlier < read, faults earlier = none) → faults read = some fault →
      Stops items signature memo paging fault read outcome

/-- Finding a page is walking to it. -/
theorem locate_of_walk {memo : PageMemo μ} {signature : String} {paging : Paging}
    (positive : 0 < paging.size) (later : 0 < paging.number) {result : Except Error Unit}
    {found : List μ} {read : Reading μ}
    (walked : walk (reader items faults) paging.size
      (paging.number - (memo.ends signature paging.size).length)
      (memo.ends signature paging.size) [] = (result, found, read)) :
    memo.locate signature paging (reader items faults) [] =
      (result.map fun _ => startAfter found paging.number,
        memo.remember signature paging.size found, read) := by
  rw [locate, if_neg (Nat.ne_of_gt positive), if_neg (Nat.ne_of_gt later)]
  dsimp only
  rw [walked]
  cases result with
  | error cause => rfl
  | ok done => rfl

omit [DecidableEq μ] in
theorem walked_remember (memo : PageMemo μ) (signature : String) (size : Nat) (ends : List μ) :
    (memo.remember signature size ends).walked signature size = ends.length := by
  rw [PageMemo.walked, ends_remember, if_pos ⟨rfl, rfl⟩]

omit [DecidableEq μ] in
/-- A page starts behind the known end of the page before. -/
theorem startAfter_of_lt (known : EndPages id items size ends) {number : Nat}
    (later : 0 < number) (walked : number ≤ ends.length) :
    ∃ marker, items[number * size - 1]? = some marker ∧
      startAfter ends number = .after marker := by
  obtain ⟨page, rfl⟩ : ∃ page, number = page + 1 := ⟨number - 1, by omega⟩
  have inside : page < ends.length := walked
  refine ⟨ends[page], ?_, ?_⟩
  · rw [← known.getElem?_eq inside, List.getElem?_eq_getElem inside]
  · rw [startAfter, List.getElem?_eq_getElem inside]

omit [DecidableEq μ] in
theorem startAfter_of_length_lt {number : Nat} (past : ends.length < number) :
    startAfter ends number = .exhausted := by
  obtain ⟨page, rfl⟩ : ∃ page, number = page + 1 := ⟨number - 1, by omega⟩
  rw [startAfter, List.getElem?_eq_none (Nat.le_of_lt_succ past)]

/-- From known ends a walk leads to the page while its reads go well. -/
theorem reaches_locate (distinct : items.Nodup) {signature : String} {memo : PageMemo μ}
    {paging : Paging} (known : EndPages id items paging.size (memo.ends signature paging.size))
    (positive : 0 < paging.size) (later : 0 < paging.number)
    (quiet : ∀ read < missingReads items paging (memo.walked signature paging.size),
      faults read = none) :
    Reaches items signature memo paging
      (memo.locate signature paging (reader items faults) []) := by
  have count : memo.walked signature paging.size = (memo.ends signature paging.size).length := rfl
  have bound := known.length_le positive
  have calls : min ((memo.ends signature paging.size).length +
      (paging.number - (memo.ends signature paging.size).length)) (items.length / paging.size + 1) -
        (memo.ends signature paging.size).length =
      missingReads items paging (memo.walked signature paging.size) := by
    rw [missingReads, count]
    omega
  have still : ∀ read < missingReads items paging (memo.walked signature paging.size),
      faults (([] : Reading μ).length + read) = none := by
    intro read less
    rw [List.length_nil, Nat.zero_add]
    exact quiet read less
  rw [← calls] at still
  obtain ⟨found, ended, reached, walked⟩ := walk_undisturbed distinct positive known _ still
  rw [locate_of_walk positive later walked]
  constructor
  · intro _ inside
    have whole := (Nat.le_div_iff_mul_le positive).mpr inside
    obtain ⟨marker, here, start⟩ := startAfter_of_lt ended later (by omega)
    exact ⟨marker, here, congrArg Except.ok start⟩
  · intro past
    rw [← Nat.div_lt_iff_lt_mul positive] at past
    exact congrArg Except.ok (startAfter_of_length_lt (by omega))
  · exact congrArg (visits items paging.size _) calls
  · apply (walked_remember memo signature paging.size found).trans
    omega

/-- From known ends a walk is stopped by the first fault. -/
theorem stops_locate (distinct : items.Nodup) {signature : String} {memo : PageMemo μ}
    {paging : Paging} (known : EndPages id items paging.size (memo.ends signature paging.size))
    (positive : 0 < paging.size) {read : Nat} {fault : Fault}
    (less : read < missingReads items paging (memo.walked signature paging.size))
    (quiet : ∀ earlier < read, faults earlier = none) (faulty : faults read = some fault) :
    Stops items signature memo paging fault read
      (memo.locate signature paging (reader items faults) []) := by
  have count : memo.walked signature paging.size = (memo.ends signature paging.size).length := rfl
  have bound := known.length_le positive
  rw [missingReads, count] at less
  have short : read < min ((memo.ends signature paging.size).length +
      (paging.number - (memo.ends signature paging.size).length)) (items.length / paging.size + 1) -
        (memo.ends signature paging.size).length := by
    omega
  have still : ∀ earlier < read, faults (([] : Reading μ).length + earlier) = none := by
    intro earlier before
    rw [List.length_nil, Nat.zero_add]
    exact quiet earlier before
  have broken : faults (([] : Reading μ).length + read) = some fault := by
    rw [List.length_nil, Nat.zero_add]
    exact faulty
  obtain ⟨found, ended, reached, walked⟩ :=
    walk_disturbed distinct positive known short still broken
  rw [locate_of_walk positive (by omega) walked]
  constructor
  · cases fault with
    | fails cause => rfl
    | withholds => exact congrArg Except.ok (startAfter_of_length_lt (by omega))
  · rfl
  · exact (walked_remember memo signature paging.size found).trans reached

/-- From known ends every page is found, or the first fault stops the walk to it. -/
theorem finds_locate (distinct : items.Nodup) {signature : String} {memo : PageMemo μ}
    (remembers : Remembers id items signature memo) (paging : Paging)
    (faults : Nat → Option Fault) :
    Finds items signature memo paging faults
      (memo.locate signature paging (reader items faults) []) := by
  constructor
  · intro empty
    rw [locate, if_pos empty]
  · intro positive first
    rw [locate, if_neg (Nat.ne_of_gt positive), if_pos first]
  · intro positive quiet
    rcases Nat.eq_zero_or_pos paging.number with first | later
    · have none : missingReads items paging (memo.walked signature paging.size) = 0 := by
        rw [missingReads, first]
        omega
      rw [locate, if_neg (Nat.ne_of_gt positive), if_pos first]
      constructor
      · intro later
        omega
      · intro past
        rw [first, Nat.zero_mul] at past
        exact absurd past (Nat.not_lt_zero _)
      · rw [none]
        rfl
      · rw [first, Nat.zero_min, Nat.max_zero]
    · exact reaches_locate distinct (remembers paging.size positive) positive later quiet
  · intro positive read less fault quiet faulty
    exact stops_locate distinct (remembers paging.size positive) positive less quiet faulty

end

/-! ## Serving pages -/

section

variable {items : List μ} {signature : String} {memo : PageMemo μ}

theorem record_of_short {paging : Paging} {count : Nat} (short : count < paging.size)
    (last : Option μ) : memo.record signature paging count last = memo := by
  cases last with
  | none => rfl
  | some marker => rw [record, if_pos (Or.inr short)]

/-- A served page is learnt if it is full and the next one. -/
theorem walked_record {paging : Paging} (positive : 0 < paging.size) :
    (memo.record signature paging (paging.slice items).length
      (paging.slice items).getLast?).walked signature paging.size =
        if paging.number = memo.walked signature paging.size ∧
            (paging.number + 1) * paging.size ≤ items.length then
          memo.walked signature paging.size + 1
        else memo.walked signature paging.size := by
  by_cases full : (paging.number + 1) * paging.size ≤ items.length
  · obtain ⟨marker, last, room⟩ := exists_end positive full
    have served : (paging.slice items).getLast? = some marker := last
    have useful : ¬(paging.size = 0 ∨ (paging.slice items).length < paging.size) :=
      not_or.mpr ⟨Nat.ne_of_gt positive, Nat.not_lt_of_le room⟩
    rw [served, record, if_neg useful]
    dsimp only
    rw [walked_remember, PageMemo.walked]
    by_cases next : paging.number = (memo.ends signature paging.size).length
    · rw [if_pos next, if_pos ⟨next, full⟩, List.length_append, List.length_singleton]
    · rw [if_neg next, if_neg (not_and_of_not_left _ next)]
  · have short : (paging.slice items).length < paging.size := by
      rw [Paging.slice, Paging.skip, List.length_take, List.length_drop]
      rw [Nat.succ_mul] at full
      omega
    rw [record_of_short short, if_neg (not_and_of_not_right _ full)]

end

/-! ## Runs -/

/-- A call of a memo over sources by signature. -/
inductive Step where
  | locate (signature : String) (paging : Paging) (faults : Nat → Option Fault)
  /-- A page of the source was served. -/
  | record (signature : String) (paging : Paging)
  | clean (signature : String)

namespace Step

variable [DecidableEq μ]

/-- The memo after a call. -/
def run (sources : String → List μ) (step : Step) (memo : PageMemo μ) : PageMemo μ :=
  match step with
  | locate signature paging faults =>
      (memo.locate signature paging (reader (sources signature) faults) []).2.1
  | record signature paging =>
      let served := paging.slice (sources signature)
      memo.record signature paging served.length served.getLast?
  | clean signature => memo.clean signature

/-- The memo after some calls. -/
def runAll (sources : String → List μ) (steps : List Step) (memo : PageMemo μ) : PageMemo μ :=
  steps.foldl (fun memo step => step.run sources memo) memo

end Step

section

variable [DecidableEq μ] {sources : String → List μ} {memo : PageMemo μ}

/-- What is remembered under every signature are ends of pages of its source. -/
def Exact (sources : String → List μ) (memo : PageMemo μ) : Prop :=
  ∀ signature, Remembers id (sources signature) signature memo

theorem Exact.locate (exact : Exact sources memo)
    (distinct : ∀ signature, (sources signature).Nodup) (signature : String) (paging : Paging)
    (faults : Nat → Option Fault) :
    Exact sources (memo.locate signature paging (reader (sources signature) faults) []).2.1 := by
  intro other size positive
  by_cases apart : ¬(other = signature ∧ size = paging.size)
  · rw [ends_locate memo apart]
    exact exact other size positive
  · obtain ⟨rfl, rfl⟩ := not_not.mp apart
    rcases Nat.eq_zero_or_pos paging.number with first | later
    · rw [PageMemo.locate, if_neg (Nat.ne_of_gt positive), if_pos first]
      exact exact other paging.size positive
    · rw [locate_of_walk positive later rfl, ends_remember, if_pos ⟨rfl, rfl⟩]
      exact endPages_walk (distinct other) positive (exact other paging.size positive) _

/-- Every call keeps what is remembered exact. -/
theorem Exact.run (exact : Exact sources memo) (distinct : ∀ signature, (sources signature).Nodup)
    (step : Step) : Exact sources (step.run sources memo) := by
  cases step with
  | locate signature paging faults => exact exact.locate distinct signature paging faults
  | record signature paging =>
      intro other
      by_cases same : other = signature
      · subst same
        have served := (exact other).record paging
        rw [Option.map_id] at served
        exact served
      · intro size positive
        rw [Step.run, ends_record memo (not_and_of_not_left _ same)]
        exact exact other size positive
  | clean signature =>
      intro other size positive
      rw [Step.run, ends_clean]
      split
      · exact endPages_nil id (sources other) size
      · exact exact other size positive

theorem exact_runAll (distinct : ∀ signature, (sources signature).Nodup) (steps : List Step)
    (exact : Exact sources memo) : Exact sources (Step.runAll sources steps memo) := by
  induction steps generalizing memo with
  | nil => exact exact
  | cons step rest ih => exact ih (exact.run distinct step)

/-- After any calls the memo knows the ends of exactly the pages walked, a served page is learnt
if it is full and the next one, and every page is found by reading the missing pages once each,
up to the first fault. -/
theorem boundaries_exact (distinct : ∀ signature, (sources signature).Nodup) (steps : List Step)
    (signature : String) :
    let items := sources signature
    let memo := Step.runAll sources steps {}
    (∀ size, 0 < size → memo.walked signature size * size ≤ items.length ∧
        ∀ page < memo.walked signature size,
          (memo.ends signature size)[page]? = items[(page + 1) * size - 1]?) ∧
      (∀ paging, 0 < paging.size →
        ((Step.record signature paging).run sources memo).walked signature paging.size =
          if paging.number = memo.walked signature paging.size ∧
              (paging.number + 1) * paging.size ≤ items.length then
            memo.walked signature paging.size + 1
          else memo.walked signature paging.size) ∧
      ∀ paging faults, Finds items signature memo paging faults
        (memo.locate signature paging (reader items faults) []) := by
  intro items memo
  have exact : Exact sources memo :=
    exact_runAll distinct steps fun signature => remembers_empty id (sources signature) signature
  constructor
  · intro size positive
    have known := exact signature size positive
    constructor
    · exact (Nat.le_div_iff_mul_le positive).mp (known.length_le positive)
    · intro page walked
      exact known.getElem?_eq walked
  · constructor
    · intro paging positive
      exact walked_record positive
    · intro paging faults
      exact finds_locate (distinct signature) (exact signature) paging faults

/-- Twenty-five items in pages of ten: a marker that is withheld stops the first walk behind one
page, the second page is served, and the next walk reads only the page that is not full. -/
theorem boundaries_of_twenty_five_items :
    let sources : String → List Nat := fun _ => List.range 25
    let steps : List Step := [
      .locate "q" ⟨5, 10⟩ fun read => if read = 1 then some .withholds else none,
      .record "q" ⟨1, 10⟩]
    let memo := Step.runAll sources steps {}
    let outcome := memo.locate "q" ⟨5, 10⟩ (reader (sources "q") fun _ => none) []
    (∀ signature, (sources signature).Nodup) ∧ memo.ends "q" 10 = [9, 19] ∧
      Finds (sources "q") "q" memo ⟨5, 10⟩ (fun _ => none) outcome ∧
      outcome.1 = .ok .exhausted ∧ outcome.2.2 = [(some 19, 10)] := by
  intro sources steps memo outcome
  have distinct : ∀ signature, (sources signature).Nodup := fun _ => List.nodup_range
  have finds := (boundaries_exact distinct steps "q").2.2 ⟨5, 10⟩ fun _ => none
  have reaches := finds.reaches (by decide) fun _ _ => rfl
  refine ⟨distinct, ?_, finds, ?_, ?_⟩
  · rfl
  · exact reaches.exhausted (by decide)
  · exact reaches.reads.trans (by decide)

end

end Polystore.PageMemo
