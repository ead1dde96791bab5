import Polystore.Error
import Polystore.Double.Basic

/-!
# Compiled filters by signature

A cache keeps the filters that were compiled last, most recently used first, and
drops the filter used longest ago when it is full.  A signature that it holds is
not compiled again; a failed compilation is reported and kept nowhere.
-/

namespace Polystore.Filter

/-- Filters of some language under the signatures of the queries that use
them. -/
structure Cache (φ : Type) where
  capacity : Nat
  /-- The filters, most recently used first. -/
  entries : List (String × φ) := []
  /-- How many lookups found a filter. -/
  hits : Nat := 0
  /-- How many lookups found none. -/
  misses : Nat := 0

namespace Cache

variable {φ : Type}

/-- The number of filters that a cache holds unless told otherwise. -/
def defaultCapacity : Nat := 256

/-- An empty cache, which has room for at least one filter. -/
def ofCapacity (capacity : Nat) : Cache φ where
  capacity := max capacity 1

/-- The number of filters held. -/
def size (cache : Cache φ) : Nat :=
  cache.entries.length

/-- The filter held under a signature. -/
def get? (cache : Cache φ) (signature : String) : Option φ :=
  List.lookup signature cache.entries

/-- The filters held under other signatures. -/
def others (cache : Cache φ) (signature : String) : List (String × φ) :=
  cache.entries.filter fun entry => entry.1 ≠ signature

/-- Make a filter the most recently used one, within the capacity. -/
def promote (cache : Cache φ) (signature : String) (filter : φ) : Cache φ :=
  { cache with
    entries := ((signature, filter) :: cache.others signature).take cache.capacity }

/-- The filter of a signature, compiled only if it is not held. -/
def getOrCompile (cache : Cache φ) (signature : String)
    (compile : Unit → Except Error φ) : Outcome (Cache φ) φ :=
  match cache.get? signature with
  | some filter =>
      (.ok filter, { cache.promote signature filter with hits := cache.hits + 1 })
  | none =>
      let missed := { cache with misses := cache.misses + 1 }
      match compile () with
      | .error cause => (.error cause, missed)
      | .ok filter => (.ok filter, missed.promote signature filter)

/-- Forget the filter of a signature. -/
def invalidate (cache : Cache φ) (signature : String) : Cache φ :=
  { cache with entries := cache.others signature }

/-- Forget every filter; the counts of lookups stay. -/
def clear (cache : Cache φ) : Cache φ :=
  { cache with entries := [] }

/-- The share of lookups that found a filter, zero before any lookup. -/
def hitRate (cache : Cache φ) : Double :=
  if cache.hits + cache.misses = 0 then .zero
  else .ofQuotient cache.hits (cache.hits + cache.misses)

/-- A filter that was compiled is held from then on. -/
theorem get?_promote (cache : Cache φ) (signature : String) (filter : φ)
    (room : 0 < cache.capacity) :
    (cache.promote signature filter).get? signature = some filter := by
  obtain ⟨slots, hslots⟩ := Nat.exists_eq_succ_of_ne_zero (Nat.ne_of_gt room)
  simp [promote, get?, hslots]

/-- No more filters are held than there is room for. -/
theorem size_promote_le (cache : Cache φ) (signature : String) (filter : φ) :
    (cache.promote signature filter).size ≤ cache.capacity := by
  simp only [promote, size, List.length_take]
  omega

end Cache

end Polystore.Filter
