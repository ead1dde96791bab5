import Polystore.Filter.Cache
import Polystore.Keyed

/-!
# Filters that are held

A cache is faithful to a signature if what it holds there is what compiling gives.  A
lookup in a faithful cache gives what compiling gives, held or not, and no lookup of
another signature can change that.
-/

namespace Polystore.Filter.Cache

variable {φ : Type} {cache : Cache φ} {signature other : String}

theorem lookup_of_lookup_take {entries : List (String × φ)} {count : Nat} {found : φ}
    (held : (entries.take count).lookup signature = some found) :
    entries.lookup signature = some found := by
  induction entries generalizing count with
  | nil =>
      rw [List.take_nil] at held
      exact held
  | cons entry rest ih =>
      cases count with
      | zero => contradiction
      | succ count =>
          rw [List.take_succ_cons, List.lookup_cons] at held
          rw [List.lookup_cons]
          split
          · next here =>
            rw [here] at held
            exact held
          · next elsewhere =>
            rw [elsewhere] at held
            exact ih held

/-- A filter that is held after a promotion was promoted, or held before. -/
theorem get?_promote_cases {filter found : φ}
    (held : (cache.promote signature filter).get? other = some found) :
    (other = signature ∧ found = filter) ∨ cache.get? other = some found := by
  have listed : Keyed.get? ((signature, filter) :: cache.others signature) other = some found :=
    lookup_of_lookup_take held
  rw [Keyed.get?_cons] at listed
  split at listed
  · next same => exact Or.inl ⟨same, (Option.some.inj listed).symm⟩
  · next differ =>
    apply Or.inr
    have kept := Keyed.get?_erase signature other cache.entries
    rw [if_neg differ] at kept
    exact kept.symm.trans listed

/-- What is held under a signature, if anything, is what compiling gave. -/
def Faithful (cache : Cache φ) (signature : String) (compiled : Except Error φ) : Prop :=
  ∀ found, cache.get? signature = some found → compiled = .ok found

theorem faithful_ofCapacity (capacity : Nat) (signature : String) (compiled : Except Error φ) :
    (ofCapacity capacity).Faithful signature compiled := by
  intro found held
  contradiction

/-- A faithful cache gives what compiling gives. -/
theorem getOrCompile_of_faithful {compile : Unit → Except Error φ}
    (faithful : cache.Faithful signature (compile ())) :
    (cache.getOrCompile signature compile).1 = compile () := by
  rw [getOrCompile]
  cases held : cache.get? signature with
  | some found => exact (faithful found held).symm
  | none =>
      dsimp only
      cases compile () with
      | error cause => rfl
      | ok filter => rfl

/-- A cache stays faithful to a signature if lookups of it compile the same. -/
theorem Faithful.getOrCompile {compiled : Except Error φ}
    (faithful : cache.Faithful signature compiled) {compile : Unit → Except Error φ}
    (agrees : other = signature → compile () = compiled) :
    (cache.getOrCompile other compile).2.Faithful signature compiled := by
  intro found held
  rw [Cache.getOrCompile] at held
  cases before : cache.get? other with
  | some filter =>
      rw [before] at held
      rcases get?_promote_cases held with ⟨rfl, rfl⟩ | old
      · exact faithful found before
      · exact faithful found old
  | none =>
      rw [before] at held
      dsimp only at held
      cases result : compile () with
      | error cause =>
          rw [result] at held
          exact faithful found held
      | ok filter =>
          rw [result] at held
          rcases get?_promote_cases held with ⟨rfl, rfl⟩ | old
          · rw [← agrees rfl, result]
          · exact faithful found old

/-- The filter that a lookup gave is given to the next lookup of its signature, whatever that
would compile to. -/
theorem getOrCompile_again (room : 0 < cache.capacity) {compile : Unit → Except Error φ}
    {filter : φ} (given : (cache.getOrCompile signature compile).1 = .ok filter)
    (other : Unit → Except Error φ) :
    ((cache.getOrCompile signature compile).2.getOrCompile signature other).1 = .ok filter := by
  have held : (cache.getOrCompile signature compile).2.get? signature = some filter := by
    rw [getOrCompile] at given ⊢
    cases before : cache.get? signature with
    | some found =>
        rw [before] at given
        rw [← Except.ok.inj given]
        exact get?_promote cache signature found room
    | none =>
        rw [before] at given
        dsimp only at given ⊢
        cases result : compile () with
        | error cause =>
            rw [result] at given
            cases given
        | ok found =>
            rw [result] at given
            rw [← Except.ok.inj given]
            exact get?_promote { cache with misses := cache.misses + 1 } signature found room
  rw [getOrCompile, held]

end Polystore.Filter.Cache
