import Polystore.Query.PageMemo

/-!
# The pages of a list

What a memo remembers are ends of pages of the list that is read: the page boundaries
from the start of the list on, without gaps, each told by a marker of the item before it.
Walking, serving and forgetting keep it so, in any order and at any mix of sizes.  The
start that is found for a page is therefore the place where the page lies in the list.
-/

namespace Polystore

variable {α μ σ : Type}

/-- The items of a page. -/
def Paging.slice (paging : Paging) (items : List α) : List α :=
  (items.drop paging.skip).take paging.size

theorem Paging.slice_map {β : Type} (paging : Paging) (view : α → β) (items : List α) :
    paging.slice (items.map view) = (paging.slice items).map view := by
  rw [slice, slice, List.map_take, List.map_drop]

namespace PageMemo

/-- A marker tells the item before a position; no marker tells the first position. -/
def Tells (mark : α → μ) (items : List α) : (after : Option μ) → (position : Nat) → Prop
  | none, position => position = 0
  | some marker, position =>
      ∃ before item, items[before]? = some item ∧ marker = mark item ∧ position = before + 1

/-- Markers that end the first pages of a list, at a size. -/
def EndPages (mark : α → μ) (items : List α) (size : Nat) (ends : List μ) : Prop :=
  ∀ page marker, ends[page]? = some marker → Tells mark items (some marker) ((page + 1) * size)

/-- A memo remembers ends of pages of a list under a signature. -/
def Remembers (mark : α → μ) (items : List α) (signature : String) (memo : PageMemo μ) : Prop :=
  ∀ size, 0 < size → EndPages mark items size (memo.ends signature size)

/-- What is read is a list, without gaps after the marker. -/
def Reads (mark : α → μ) (items : List α) (fetch : Fetch σ μ) (source : σ) : Prop :=
  ∀ {after : Option μ} {position : Nat} (limit : Nat), Tells mark items after position →
    fetch after limit source =
      (.ok (((items.drop position).take limit).length,
        ((items.drop position).take limit).getLast?.map mark), source)

/-- Nothing can be read. -/
def Refuses (fetch : Fetch σ μ) (cause : Error) (source : σ) : Prop :=
  ∀ after limit, fetch after limit source = (.error cause, source)

section

variable {mark : α → μ} {items : List α} {size : Nat} {ends : List μ}

theorem endPages_nil (mark : α → μ) (items : List α) (size : Nat) :
    EndPages mark items size [] := by
  intro page marker found
  contradiction

/-- The last known end is where the next page starts. -/
theorem EndPages.tells_getLast? (known : EndPages mark items size ends) :
    Tells mark items ends.getLast? (ends.length * size) := by
  cases ended : ends.getLast? with
  | none =>
      rw [List.getLast?_eq_none_iff.mp ended, List.length_nil, Nat.zero_mul]
      rfl
  | some marker =>
      have nonempty : 0 < ends.length := by
        cases ends with
        | nil => contradiction
        | cons first rest => exact Nat.succ_pos _
      rw [List.getLast?_eq_getElem?] at ended
      have told := known _ _ ended
      rw [Nat.sub_add_cancel nonempty] at told
      exact told

/-- The marker of the last item of a full page ends it. -/
theorem EndPages.append (known : EndPages mark items size ends) (positive : 0 < size)
    {marker : μ} (full : size ≤ ((items.drop (ends.length * size)).take size).length)
    (last : ((items.drop (ends.length * size)).take size).getLast?.map mark = some marker) :
    EndPages mark items size (ends ++ [marker]) := by
  have room : ends.length * size + size ≤ items.length := by
    rw [List.length_take, List.length_drop] at full
    omega
  have next : (ends.length + 1) * size = ends.length * size + size := Nat.succ_mul _ _
  intro page other found
  rcases Nat.lt_trichotomy page ends.length with earlier | here | later
  · rw [List.getElem?_append_left earlier] at found
    exact known page other found
  · subst here
    rw [List.getElem?_concat_length] at found
    obtain ⟨item, ended, rfl⟩ := Option.map_eq_some_iff.mp last
    rw [List.getLast?_take, if_neg (Nat.ne_of_gt positive)] at ended
    refine ⟨ends.length * size + (size - 1), item, ?_, (Option.some.inj found).symm, by omega⟩
    rw [List.getElem?_drop] at ended
    rw [List.getElem?_eq_getElem (by omega)] at ended ⊢
    exact ended
  · rw [List.getElem?_eq_none (by
      rw [List.length_append, List.length_singleton]
      exact later)] at found
    contradiction

end

section

variable {mark : α → μ} {items : List α} {signature : String} {memo : PageMemo μ}

theorem remembers_empty (mark : α → μ) (items : List α) (signature : String) :
    Remembers mark items signature {} :=
  fun size _ => endPages_nil mark items size

theorem Remembers.remember (remembers : Remembers mark items signature memo) {size : Nat}
    {ends : List μ} (known : EndPages mark items size ends) :
    Remembers mark items signature (memo.remember signature size ends) := by
  intro other positive
  rw [ends_remember]
  split
  · next same =>
    rw [same.2]
    exact known
  · exact remembers other positive

theorem remembers_clean (mark : α → μ) (items : List α) (signature : String)
    (memo : PageMemo μ) : Remembers mark items signature (memo.clean signature) := by
  intro size positive
  rw [ends_clean, if_pos rfl]
  exact endPages_nil mark items size

/-- Serving a page of the list remembers its end, or nothing new. -/
theorem Remembers.record (remembers : Remembers mark items signature memo) (paging : Paging) :
    Remembers mark items signature
      (memo.record signature paging (paging.slice items).length
        ((paging.slice items).getLast?.map mark)) := by
  cases last : (paging.slice items).getLast?.map mark with
  | none => exact remembers
  | some marker =>
      rw [PageMemo.record]
      split
      · exact remembers
      · next useful =>
        obtain ⟨positive, full⟩ := not_or.mp useful
        have known := remembers paging.size (Nat.pos_of_ne_zero positive)
        apply remembers.remember
        split
        · next here =>
          rw [Paging.slice, Paging.skip, here] at full last
          exact known.append (Nat.pos_of_ne_zero positive) (Nat.le_of_not_lt full) last
        · exact known

/-! ## Walking -/

variable {fetch : Fetch σ μ} {source : σ} {size : Nat} {ends : List μ}

/-- A walk over the list finds the ends it was sent for, or all there are. -/
theorem walk_of_reads (reads : Reads mark items fetch source) (positive : 0 < size)
    (known : EndPages mark items size ends) (missing : Nat) :
    ∃ found, walk fetch size missing ends source = (.ok (), found, source) ∧
      EndPages mark items size found ∧
      (found.length = ends.length + missing ∨ items.length < (found.length + 1) * size) := by
  induction missing generalizing ends with
  | zero => exact ⟨ends, rfl, known, Or.inl rfl⟩
  | succ missing ih =>
      rw [walk, reads size known.tells_getLast?]
      cases last : ((items.drop (ends.length * size)).take size).getLast?.map mark with
      | none =>
          have empty := List.getLast?_eq_none_iff.mp (Option.map_eq_none_iff.mp last)
          refine ⟨ends, rfl, known, Or.inr ?_⟩
          have short := congrArg List.length empty
          rw [List.length_take, List.length_drop, List.length_nil] at short
          rw [Nat.succ_mul]
          omega
      | some marker =>
          dsimp only
          by_cases full : size ≤ ((items.drop (ends.length * size)).take size).length
          · rw [if_pos full]
            obtain ⟨found, walked, ended, reached⟩ := ih (known.append positive full last)
            refine ⟨found, walked, ended, reached.imp_left ?_⟩
            intro count
            rw [count, List.length_append, List.length_singleton]
            omega
          · rw [if_neg full]
            refine ⟨ends, rfl, known, Or.inr ?_⟩
            rw [List.length_take, List.length_drop] at full
            rw [Nat.succ_mul]
            omega

/-- Where nothing can be read, a walk that is needed fails and keeps the known ends. -/
theorem walk_of_refuses {cause : Error} (refuses : Refuses fetch cause source) (missing : Nat) :
    walk fetch size missing ends source =
      (if missing = 0 then .ok () else .error cause, ends, source) := by
  cases missing with
  | zero => rfl
  | succ missing => rw [walk, refuses, if_neg (Nat.succ_ne_zero missing)]

/-! ## The start of a page -/

/-- A start from which a page is read leads to where the page lies in the list; pages past
the end have none. -/
def Leads (mark : α → μ) (items : List α) (paging : Paging) : PageStart μ → Prop
  | .first => Tells mark items none paging.skip
  | .after marker => Tells mark items (some marker) paging.skip
  | .exhausted => items.length < paging.skip

theorem EndPages.leads (known : EndPages mark items size ends) {number : Nat}
    (reached : number ≤ ends.length ∨ items.length < (ends.length + 1) * size) :
    Leads mark items ⟨number, size⟩ (startAfter ends number) := by
  cases number with
  | zero => exact Nat.zero_mul size
  | succ before =>
      rw [startAfter]
      cases found : ends[before]? with
      | some marker => exact known before marker found
      | none =>
          have past := List.getElem?_eq_none_iff.mp found
          refine Nat.lt_of_lt_of_le ?_ (Nat.mul_le_mul_right size (Nat.succ_le_succ past))
          exact reached.resolve_left (by omega)

/-- While the list can be read, the start of every page is found. -/
theorem locate_of_reads (reads : Reads mark items fetch source)
    (remembers : Remembers mark items signature memo) {paging : Paging}
    (positive : 0 < paging.size) :
    ∃ start after, memo.locate signature paging fetch source = (.ok start, after, source) ∧
      Leads mark items paging start ∧ Remembers mark items signature after := by
  rw [locate, if_neg (Nat.ne_of_gt positive)]
  split
  · next first =>
    refine ⟨.first, memo, rfl, ?_, remembers⟩
    rw [Leads, Paging.skip, first]
    exact Nat.zero_mul paging.size
  · have known := remembers paging.size positive
    obtain ⟨found, walked, ended, reached⟩ := walk_of_reads reads positive known
      (paging.number - (memo.ends signature paging.size).length)
    dsimp only
    rw [walked]
    refine ⟨_, _, rfl, ended.leads ?_, remembers.remember ended⟩
    exact reached.imp_left (by omega)

/-- While nothing can be read, the start of a page is one that the memo knows, or there is
an error. -/
theorem locate_of_refuses {cause : Error} (refuses : Refuses fetch cause source)
    (remembers : Remembers mark items signature memo) {paging : Paging}
    (positive : 0 < paging.size) :
    ∃ result after, memo.locate signature paging fetch source = (result, after, source) ∧
      (result = .error cause ∨ result = .ok .first ∨ ∃ marker, result = .ok (.after marker)) ∧
      Remembers mark items signature after := by
  rw [locate, if_neg (Nat.ne_of_gt positive)]
  split
  · exact ⟨_, memo, rfl, Or.inr (Or.inl rfl), remembers⟩
  · next later =>
    dsimp only
    rw [walk_of_refuses refuses]
    have kept := remembers.remember (remembers paging.size positive)
    by_cases walked : paging.number - (memo.ends signature paging.size).length = 0
    · rw [if_pos walked]
      obtain ⟨before, number⟩ := Nat.exists_eq_succ_of_ne_zero later
      have inside : before < (memo.ends signature paging.size).length := by omega
      refine ⟨_, _, rfl, Or.inr (Or.inr ⟨(memo.ends signature paging.size)[before], ?_⟩), kept⟩
      rw [number, startAfter, List.getElem?_eq_getElem inside]
    · rw [if_neg walked]
      exact ⟨_, _, rfl, Or.inl rfl, kept⟩

end

/-! ## Page ends that stay -/

section

variable {signature : String} {paging : Paging}

/-- Finding a page changes what is known of its signature and size only. -/
theorem ends_locate (memo : PageMemo μ) {other : String} {otherSize : Nat}
    (apart : ¬(other = signature ∧ otherSize = paging.size)) (fetch : Fetch σ μ) (source : σ) :
    (memo.locate signature paging fetch source).2.1.ends other otherSize =
      memo.ends other otherSize := by
  rw [locate]
  split
  · rfl
  · split
    · rfl
    · dsimp only
      split
      · exact (ends_remember _ _ _ _ _ _).trans (if_neg apart)
      · exact (ends_remember _ _ _ _ _ _).trans (if_neg apart)

/-- Serving a page changes what is known of its signature and size only. -/
theorem ends_record (memo : PageMemo μ) {other : String} {otherSize : Nat}
    (apart : ¬(other = signature ∧ otherSize = paging.size)) (count : Nat) (last : Option μ) :
    (memo.record signature paging count last).ends other otherSize =
      memo.ends other otherSize := by
  cases last with
  | none => rfl
  | some marker =>
      rw [record]
      split
      · rfl
      · exact (ends_remember _ _ _ _ _ _).trans (if_neg apart)

end

end PageMemo

end Polystore
