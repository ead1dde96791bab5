import Polystore.Error
import Polystore.Query.Basic

/-!
# Page boundaries

A store that can only continue after a document cannot skip to a page.  The memo
remembers the markers that end the pages walked so far, for every signature and
page size: page `n` starts after the end of page `n - 1`.  Ends that are not
known yet are found by walking the pages before, which the memo remembers too.
-/

namespace Polystore

/-- Where a page starts. -/
inductive PageStart (μ : Type) where
  /-- At the first document. -/
  | first
  /-- After the document of a marker. -/
  | after (marker : μ)
  /-- Nowhere: there are no documents left for it. -/
  | exhausted
deriving DecidableEq, Repr

/-- The pages of one size that were walked for one signature. -/
structure PageTrack (μ : Type) where
  signature : String
  size : Nat
  /-- The markers that end the pages `0`, `1`, … -/
  ends : List μ

/-- The pages walked so far. -/
structure PageMemo (μ : Type) where
  tracks : List (PageTrack μ) := []

namespace PageMemo

variable {μ σ : Type}

/-- The ends of the pages walked for a signature at a size. -/
def ends (memo : PageMemo μ) (signature : String) (size : Nat) : List μ :=
  match memo.tracks.find? fun track => track.signature = signature ∧ track.size = size with
  | some track => track.ends
  | none => []

/-- The number of pages walked for a signature at a size. -/
def walked (memo : PageMemo μ) (signature : String) (size : Nat) : Nat :=
  (memo.ends signature size).length

/-- Remember the ends of the pages of a size. -/
def remember (memo : PageMemo μ) (signature : String) (size : Nat) (ends : List μ) :
    PageMemo μ where
  tracks := ⟨signature, size, ends⟩ ::
    memo.tracks.filter fun track => ¬(track.signature = signature ∧ track.size = size)

/-- Read the documents after a marker, up to a number of them: how many were
read and the marker of the last one. -/
abbrev Fetch (σ μ : Type) :=
  (after : Option μ) → (limit : Nat) → σ → Outcome σ (Nat × Option μ)

/-- Walk so many pages on from known ends.  A page that is not full, or whose
end is not told, is the last. -/
def walk (fetch : Fetch σ μ) (size : Nat) :
    (missing : Nat) → (ends : List μ) → σ → Outcome (List μ × σ) Unit
  | 0, ends, source => (.ok (), ends, source)
  | missing + 1, ends, source =>
      match fetch ends.getLast? size source with
      | (.error cause, source) => (.error cause, ends, source)
      | (.ok (_, none), source) => (.ok (), ends, source)
      | (.ok (count, some marker), source) =>
          if size ≤ count then walk fetch size missing (ends ++ [marker]) source
          else (.ok (), ends, source)

/-- Where a page starts that comes after some walked pages. -/
def startAfter (ends : List μ) : (number : Nat) → PageStart μ
  | 0 => .first
  | number + 1 =>
      match ends[number]? with
      | some marker => .after marker
      | none => .exhausted

/-- Find the start of a page, walking the pages before it that were not walked
yet.  The ends found on the way are remembered even if a later page fails. -/
def locate (memo : PageMemo μ) (signature : String) (paging : Paging)
    (fetch : Fetch σ μ) (source : σ) : Outcome (PageMemo μ × σ) (PageStart μ) :=
  if paging.size = 0 then (.error .emptyPage, memo, source)
  else if paging.number = 0 then (.ok .first, memo, source)
  else
    let known := memo.ends signature paging.size
    let (result, ends, source) :=
      walk fetch paging.size (paging.number - known.length) known source
    let memo := memo.remember signature paging.size ends
    match result with
    | .error cause => (.error cause, memo, source)
    | .ok () => (.ok (startAfter ends paging.number), memo, source)

/-- Remember the end of a page that was served.  Only a full page that directly
follows the walked ones is of use. -/
def record (memo : PageMemo μ) (signature : String) (paging : Paging) (count : Nat)
    (last : Option μ) : PageMemo μ :=
  match last with
  | none => memo
  | some marker =>
      if paging.size = 0 ∨ count < paging.size then memo
      else
        let known := memo.ends signature paging.size
        memo.remember signature paging.size
          (if paging.number = known.length then known ++ [marker] else known)

/-- Forget the ends of the pages of a signature, at every size. -/
def clean (memo : PageMemo μ) (signature : String) : PageMemo μ where
  tracks := memo.tracks.map fun track =>
    if track.signature = signature then { track with ends := [] } else track

/-- The signatures for which pages were asked. -/
def signatures (memo : PageMemo μ) : List String :=
  (memo.tracks.map PageTrack.signature).eraseDups

/-- The ends of the pages of a size, after those of some size were remembered. -/
theorem ends_remember (memo : PageMemo μ) (signature other : String) (size otherSize : Nat)
    (ends : List μ) :
    (memo.remember signature size ends).ends other otherSize =
      if other = signature ∧ otherSize = size then ends else memo.ends other otherSize := by
  by_cases h : other = signature ∧ otherSize = size
  · obtain ⟨rfl, rfl⟩ := h
    simp [remember, PageMemo.ends]
  · have hne : ¬(signature = other ∧ size = otherSize) := fun heq => h ⟨heq.1.symm, heq.2.symm⟩
    rw [if_neg h]
    simp only [remember, PageMemo.ends, List.find?_cons, hne, decide_false]
    rw [List.find?_filter]
    congr 2
    funext track
    by_cases htrack : track.signature = other ∧ track.size = otherSize
    · obtain ⟨rfl, rfl⟩ := htrack
      simp [h]
    · simp [htrack]

/-- Nothing is known of a signature after it was cleaned. -/
theorem ends_clean (memo : PageMemo μ) (signature other : String) (size : Nat) :
    (memo.clean signature).ends other size =
      if other = signature then [] else memo.ends other size := by
  obtain ⟨tracks⟩ := memo
  induction tracks with
  | nil => simp [clean, ends]
  | cons track rest ih =>
      simp only [clean, ends, List.map_cons, List.find?_cons] at ih ⊢
      by_cases hsignature : track.signature = signature <;>
        by_cases hother : track.signature = other <;>
        by_cases hsize : track.size = size <;>
        simp_all

end PageMemo

end Polystore
