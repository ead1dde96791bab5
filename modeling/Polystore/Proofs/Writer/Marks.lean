import Polystore.Proofs.Keyed
import Polystore.Writer.Watch

/-!
# Marks of watched documents

Updates, writes and sweeps change the marks of a watched document, never what the
document is.  A sweep cleans the documents that are due, and marks one dirty again if it
still has the version under which it was found.
-/

namespace Polystore

/-- Which document is watched, and through which handle. -/
def Watched.identity (watched : Watched) : String × String × Nat :=
  (watched.collection, watched.id, watched.handle)

namespace Watch

/-- The same documents are watched, with marks of their own. -/
structure Remarks (before after : Watch) : Prop where
  settings : after.settings = before.settings
  ordered : before.documents.Sorted → after.documents.Sorted
  identity : ∀ key, (after.documents.get? key).map Watched.identity =
    (before.documents.get? key).map Watched.identity

theorem Remarks.refl (watch : Watch) : Remarks watch watch where
  settings := rfl
  ordered sorted := sorted
  identity _ := rfl

theorem Remarks.trans {first second third : Watch} (left : Remarks first second)
    (right : Remarks second third) : Remarks first third where
  settings := right.settings.trans left.settings
  ordered sorted := right.ordered (left.ordered sorted)
  identity key := (right.identity key).trans (left.identity key)

theorem remarks_adjust (change : Watched → Watched)
    (same : ∀ watched, (change watched).identity = watched.identity) (key : String)
    (watch : Watch) : Remarks watch (watch.adjust key change) where
  settings := rfl
  ordered sorted := Keyed.sorted_adjust sorted key change
  identity other := by
    rw [adjust, Keyed.get?_adjust, Option.map_map]
    refine congrArg (Option.map · _) (funext fun watched => ?_)
    rw [Function.comp_apply]
    split
    · exact same watched
    · rfl

theorem remarks_foldl {step : Watch → String → Watch}
    (each : ∀ watch key, Remarks watch (step watch key)) (keys : List String) (watch : Watch) :
    Remarks watch (keys.foldl step watch) := by
  induction keys generalizing watch with
  | nil => exact .refl watch
  | cons key rest ih => exact (each watch key).trans (ih (step watch key))

theorem remarks_markClean (keys : List String) (watch : Watch) :
    Remarks watch (watch.markClean keys) :=
  remarks_foldl (fun watch key => remarks_adjust
    (fun watched => { watched with dirty := false }) (fun _ => rfl) key watch) keys watch

theorem remarks_markDirtyAt (staged : List (String × Nat)) (keys : List String) (watch : Watch) :
    Remarks watch (keys.foldl (markDirtyAt staged) watch) :=
  remarks_foldl (fun watch key => remarks_adjust
    (fun watched => { watched with
      dirty := watched.dirty || List.lookup key staged == some watched.version })
    (fun _ => rfl) key watch) keys watch

theorem remarks_noteWritten (key : String) (seen : Nat) (watch : Watch) :
    Remarks watch (watch.noteWritten key seen) :=
  remarks_adjust (fun watched => { watched with
    dirty := watched.dirty && watched.version != seen
    version := watched.version + 1 }) (fun _ => rfl) key watch

theorem remarks_update (collection id : String) (now : Nat) (watch : Watch) :
    Remarks watch (watch.update collection id now).2 := by
  rw [update]
  split
  · exact remarks_adjust (fun watched => { watched with
      touched := now, dirty := true, version := watched.version + 1 }) (fun _ => rfl) _ watch
  · exact .refl watch

/-- What is watched was watched before. -/
theorem Remarks.exists_before {before after : Watch} (remarks : Remarks before after)
    {key : String} {marked : Watched} (found : after.documents.get? key = some marked) :
    ∃ watched, before.documents.get? key = some watched ∧ watched.identity = marked.identity := by
  have same := remarks.identity key
  rw [found, Option.map_some, eq_comm, Option.map_eq_some_iff] at same
  exact same

/-- Steps that change only what is known about documents change nothing else together. -/
theorem exists_documents_foldl (step : Watch → String → Watch)
    (each : ∀ watch key, ∃ documents, step watch key = { watch with documents := documents })
    (keys : List String) (watch : Watch) :
    ∃ documents, keys.foldl step watch = { watch with documents := documents } := by
  induction keys generalizing watch with
  | nil => exact ⟨watch.documents, rfl⟩
  | cons key rest ih =>
      rcases each watch key with ⟨first, stepped⟩
      rcases ih (step watch key) with ⟨last, folded⟩
      refine ⟨last, ?_⟩
      rw [List.foldl_cons, folded, stepped]

/-! ## The marks of updates and sweeps -/

/-- To adjust what is watched under a key leaves what is watched under another one. -/
theorem get?_adjust_of_ne (change : Watched → Watched) (watch : Watch) {key other : String}
    (differ : other ≠ key) :
    (watch.adjust key change).documents.get? other = watch.documents.get? other := by
  rw [adjust, Keyed.get?_adjust]
  simp only [if_neg differ, Option.map_id']

/-- A document that is updated is dirty, and an update of another one leaves it alone. -/
theorem get?_update {watch : Watch} {key : String} {watched : Watched}
    (found : watch.documents.get? key = some watched) (collection id : String) (now : Nat) :
    (watch.update collection id now).2.documents.get? key = some
      (if key = watchKey collection id then
        { watched with touched := now, dirty := true, version := watched.version + 1 }
      else watched) := by
  rw [update]
  split
  · rw [adjust, Keyed.get?_adjust, found, Option.map_some]
  · next absent =>
    rw [if_neg]
    · exact found
    · rintro rfl
      rw [Keyed.contains, found] at absent
      exact absent rfl

/-- Cleaning the documents of some keys leaves the others alone. -/
theorem get?_markClean (keys : List String) (watch : Watch) (key : String) :
    (watch.markClean keys).documents.get? key =
      (watch.documents.get? key).map fun watched =>
        if key ∈ keys then { watched with dirty := false } else watched := by
  induction keys generalizing watch with
  | nil => simp [markClean]
  | cons first rest ih =>
      apply (ih (watch.adjust first fun watched => { watched with dirty := false })).trans
      rw [adjust, Keyed.get?_adjust, Option.map_map]
      refine congrArg (Option.map · _) (funext fun watched => ?_)
      by_cases here : key = first
      · simp [here]
      · simp [here]

/-- Documents that are to be dirty again are so if their versions are the staged ones. -/
theorem get?_markDirtyAt (staged : List (String × Nat)) (keys : List String) (watch : Watch)
    (key : String) :
    (keys.foldl (markDirtyAt staged) watch).documents.get? key =
      (watch.documents.get? key).map fun watched => { watched with
        dirty := watched.dirty ||
          (decide (key ∈ keys) && List.lookup key staged == some watched.version) } := by
  induction keys generalizing watch with
  | nil => simp
  | cons first rest ih =>
      rw [List.foldl_cons, ih, markDirtyAt, adjust, Keyed.get?_adjust, Option.map_map]
      refine congrArg (Option.map · _) (funext fun watched => ?_)
      by_cases here : key = first
      · subst here
        by_cases same : List.lookup key staged = some watched.version
        · simp [same]
        · simp [same]
      · simp [here]

/-- The documents that are due, by key. -/
theorem mem_due_iff {watch : Watch} (sorted : watch.documents.Sorted) (deadline : Nat)
    (key : String) (version : Nat) :
    (key, version) ∈ watch.due deadline ↔
      ∃ watched, watch.documents.get? key = some watched ∧ watched.dirty = true ∧
        watched.touched < deadline ∧ watched.version = version := by
  rw [due, List.mem_filterMap]
  constructor
  · rintro ⟨⟨name, watched⟩, member, chosen⟩
    dsimp only at chosen
    split at chosen
    · next wanted =>
      cases chosen
      exact ⟨watched, (Keyed.mem_iff_get?_eq_some sorted key watched).mp member, wanted.1,
        wanted.2, rfl⟩
    · contradiction
  · rintro ⟨watched, found, dirty, early, rfl⟩
    refine ⟨(key, watched), (Keyed.mem_iff_get?_eq_some sorted key watched).mpr found, ?_⟩
    exact if_pos ⟨dirty, early⟩

theorem sorted_due {watch : Watch} (sorted : watch.documents.Sorted) (deadline : Nat) :
    Keyed.Sorted (watch.due deadline) := by
  refine List.Pairwise.filterMap _ ?_ sorted
  rintro ⟨left, leftWatched⟩ ⟨right, rightWatched⟩ before chosen member other otherMember
  dsimp only at member otherMember
  split at member
  · split at otherMember
    · cases member
      cases otherMember
      exact before
    · contradiction
  · contradiction

/-- A document that is due was found under its version. -/
theorem lookup_due {watch : Watch} (sorted : watch.documents.Sorted) {deadline : Nat}
    {key : String} {watched : Watched} (found : watch.documents.get? key = some watched)
    (dirty : watched.dirty = true) (early : watched.touched < deadline) :
    List.lookup key (watch.due deadline) = some watched.version :=
  (Keyed.mem_iff_get?_eq_some (sorted_due sorted deadline) key watched.version).mp
    ((mem_due_iff sorted deadline key watched.version).mpr ⟨watched, found, dirty, early, rfl⟩)

end Watch

end Polystore
