import Polystore.Proofs.Disk.Calls

/-!
# Writes that stay in a pool

Every call that writes a file changes entries below the root of the pool only, the draft of the
file included.  A path that names the root is an exception: the draft is put beside the root,
and removed again when it cannot be moved to where the root is.
-/

namespace Polystore

namespace Disk

/-- A path goes on below a folder. -/
def Below (home path : List String) : Prop :=
  ∃ name more, path = home ++ name :: more

/-- A disk on which nothing was changed but entries at some paths, and no folder was lost. -/
structure Confined (allowed : List String → Prop) (disk after : Disk) : Prop where
  files : ∀ path, ¬allowed path → after.files path = disk.files path
  folders : ∀ path, ¬allowed path → (HasFolder after path ↔ HasFolder disk path)
  grown : ∀ path, HasFolder disk path → HasFolder after path

section

variable {allowed : List String → Prop} {disk after last : Disk} {path home : List String}

namespace Confined

theorem refl (allowed : List String → Prop) (disk : Disk) : Confined allowed disk disk where
  files _ _ := rfl
  folders _ _ := Iff.rfl
  grown _ there := there

theorem trans (first : Confined allowed disk after) (second : Confined allowed after last) :
    Confined allowed disk last where
  files path other := (second.files path other).trans (first.files path other)
  folders path other := (second.folders path other).trans (first.folders path other)
  grown path there := second.grown path (first.grown path there)

theorem of_replaces {old new : Option Entry} (replaces : Replaces path old new disk after)
    (plain : IsFile old) (inside : allowed path) : Confined allowed disk after where
  files other outside := replaces.files other fun same => outside (same ▸ inside)
  folders other outside := replaces.folders other fun same => outside (same ▸ inside)
  grown _ there := replaces.grown plain there

theorem attempt {result : Except FileFault Disk}
    (confined : ∀ {after}, result = .ok after → Confined allowed disk after) :
    Confined allowed disk (Disk.attempt disk result).2 := by
  cases result with
  | error fault => exact .refl _ _
  | ok after => exact confined rfl

end Confined

theorem below_of_within (within : home <+: path) (name : String) : Below home (path ++ [name]) := by
  obtain ⟨more, rfl⟩ := within
  cases more with
  | nil => exact ⟨name, [], by rw [List.append_nil]⟩
  | cons first rest => exact ⟨first, rest ++ [name], by rw [List.append_assoc, List.cons_append]⟩

end

/-! ## Calls for places below a folder -/

section

variable {disk after : Disk} {place source target : Place} {home base names front : List String}
  {last draft : String} {content : List UInt8}

/-- What is changed at a place lies in or below a folder. -/
def LeadsInto (home : List String) (place : Place) (disk : Disk) : Prop :=
  ∀ before last here, place.parts = before ++ [last] → walk disk [] before = .ok here →
    home <+: here

/-- The place of a name in a folder on the way along names below a folder. -/
theorem leadsInto_of_walk (written : place.parts = front ++ [last])
    (alike : walk disk [] front = walk disk [] (base ++ names))
    (named : ∀ name ∈ names, Place.isDots name = false)
    (rooted : walk disk [] base = .ok home) : LeadsInto home place disk := by
  intro before other here again walked
  obtain ⟨rfl, -⟩ := List.append_inj' (written.symm.trans again) rfl
  rw [alike, walk_append, rooted] at walked
  rw [eq_append_of_walk named walked]
  exact List.prefix_append home names

theorem LeadsInto.confined_putFile (leads : LeadsInto home place disk)
    (put : putFile content place disk = .ok after) : Confined (Below home) disk after := by
  obtain ⟨before, last, here, old, written, -, walked, plain, replaces⟩ := replaces_of_putFile put
  exact .of_replaces replaces plain (below_of_within (leads _ _ _ written walked) last)

theorem LeadsInto.confined_removeFile (leads : LeadsInto home place disk)
    (removed : removeFile place disk = .ok after) : Confined (Below home) disk after := by
  obtain ⟨before, last, here, old, written, -, walked, plain, replaces⟩ :=
    replaces_of_removeFile removed
  exact .of_replaces replaces plain (below_of_within (leads _ _ _ written walked) last)

/-- A file is moved by way of a disk that has it nowhere. -/
theorem LeadsInto.confined_moveFile (leads : LeadsInto home source disk)
    (leadsTarget : ∀ {between}, Confined (Below home) disk between → LeadsInto home target between)
    (moved : moveFile source target disk = .ok after) : Confined (Below home) disk after := by
  rw [moveFile] at moved
  split at moved
  · contradiction
  · next content read =>
    cases removed : removeFile source disk with
    | error fault =>
        rw [removed] at moved
        contradiction
    | ok between =>
        rw [removed] at moved
        have first := leads.confined_removeFile removed
        exact first.trans ((leadsTarget first).confined_putFile moved)

/-- What the calls that make folders do at every step: nothing, or they make one folder of the
names of a way below a folder. -/
def MakesWay (home names : List String) (disk after : Disk) : Prop :=
  after = disk ∨ ∃ path name, home <+: path ∧ name ∈ names ∧
    Replaces (path ++ [name]) none (some (.folder [])) disk after

theorem MakesWay.confined (makes : MakesWay home names disk after) :
    Confined (Below home) disk after := by
  rcases makes with rfl | ⟨path, name, within, -, replaces⟩
  · exact .refl _ _
  · exact .of_replaces replaces trivial (below_of_within within name)

/-- A name that is not on the way stays unused. -/
theorem MakesWay.unused (makes : MakesWay home names disk after) (apart : draft ∉ names)
    (unused : Unused draft disk) : Unused draft after := by
  rcases makes with rfl | ⟨path, name, -, member, replaces⟩
  · exact unused
  · intro other
    have differ : other ++ [draft] ≠ path ++ [name] := by
      intro same
      have last := (List.append_inj' same rfl).2
      cases last
      exact apart member
    have nothing : disk.files (other ++ [draft]) = none := by
      rw [files, unused other]
      rfl
    rw [← replaces.files _ differ] at nothing
    rcases look_eq_none_or_hasFolder nothing with absent | there
    · exact absent
    · obtain ⟨entries, found⟩ := (replaces.folders _ differ).mp there
      rw [unused other] at found
      contradiction

theorem MakesWay.mono {more : List String} (makes : MakesWay home names disk after)
    (fewer : ∀ name ∈ names, name ∈ more) : MakesWay home more disk after := by
  rcases makes with rfl | ⟨path, name, within, member, replaces⟩
  · exact Or.inl rfl
  · exact Or.inr ⟨path, name, within, fewer name member, replaces⟩

theorem makesWay_ensureFolder (written : place.parts = front ++ [last]) (member : last ∈ names)
    (leads : LeadsInto home place disk) : MakesWay home names disk (ensureFolder place disk).2 := by
  rw [ensureFolder]
  split
  · next after made =>
    obtain ⟨before, other, here, again, -, walked, replaces⟩ := replaces_of_makeFolder made
    obtain ⟨-, same⟩ := List.append_inj' (written.symm.trans again) rfl
    cases same
    exact Or.inr ⟨here, last, leads _ _ _ again walked, member, replaces⟩
  · split
    · exact Or.inl rfl
    · exact Or.inl rfl
  · exact Or.inl rfl

/-- Making the folder of a way makes folders on the way. -/
theorem makesWay_folderCalls (fuel : Nat) (written : place.parts = base ++ names)
    (nonempty : names ≠ []) (named : ∀ name ∈ names, Place.isDots name = false)
    (rooted : walk disk [] base = .ok home) :
    ∀ step ∈ (folderCalls fuel place).steps disk, MakesWay home names step.1 step.2 := by
  induction fuel generalizing place names disk with
  | zero => exact List.forall_mem_nil _
  | succ fuel ih =>
      obtain ⟨front, last, rfl⟩ := List.eq_nil_or_concat names |>.resolve_left nonempty
      rw [List.concat_eq_append] at written named ⊢
      rw [← List.append_assoc] at written
      have frontNamed : ∀ name ∈ front, Place.isDots name = false := fun name member =>
        named name (List.mem_append_left _ member)
      have lastNamed := named last List.mem_concat_self
      have made {disk : Disk} (rooted : walk disk [] base = .ok home) :
          MakesWay home (front ++ [last]) disk (ensureFolder place disk).2 :=
        makesWay_ensureFolder written List.mem_concat_self
          (leadsInto_of_walk written rfl frontNamed rooted)
      rw [folderCalls, Calls.steps, List.forall_mem_cons]
      refine ⟨made rooted, ?_⟩
      have rootedAfter := walk_of_grown (made rooted).confined.grown rooted
      rw [Call.run]
      rcases outcome : ensureFolder place disk with ⟨⟨fault⟩ | ⟨⟨⟩⟩, left⟩
      · cases fault with
        | missing =>
            rw [outcome] at rootedAfter
            have deeper : front ≠ [] := by
              rintro rfl
              rw [List.append_nil] at written
              exact ensureFolder_ne_missing written lastNamed rooted (congrArg Prod.fst outcome)
            obtain ⟨parent, above, parentWritten⟩ : ∃ parent, place.parent? = some parent ∧
                parent.parts = base ++ front := by
              obtain ⟨before, name, rfl⟩ := List.eq_nil_or_concat front |>.resolve_left deeper
              rw [List.concat_eq_append] at written frontNamed ⊢
              rw [← List.append_assoc] at written ⊢
              exact exists_parent?_of_named written (frontNamed name List.mem_concat_self) lastNamed
            dsimp only
            rw [above]
            dsimp only
            have way : ∀ step ∈ (folderCalls fuel parent).steps left,
                MakesWay home front step.1 step.2 :=
              ih parentWritten deeper frontNamed rootedAfter
            have rootedLast := Calls.run_of_steps
              (fun disk => walk disk [] base = .ok home) rootedAfter
              fun step member rooted => walk_of_grown (way step member).confined.grown rooted
            rw [Calls.steps_andThen, List.forall_mem_append]
            refine ⟨fun step member => (way step member).mono fun name => List.mem_append_left _, ?_⟩
            split
            · exact List.forall_mem_nil _
            · exact List.forall_mem_singleton.mpr (made rootedLast)
        | _ => exact List.forall_mem_nil _
      · exact List.forall_mem_nil _

end

/-! ## Writing a file -/

section

variable {disk : Disk} {target : Place} {draft : String} {content : List UInt8}
  {allowed : List String → Prop}

/-- The calls that write a file change what they may if the folders that are made may be made,
and the places of the draft and of the file may be changed, wherever something holds that more
folders do not change. -/
theorem confined_fileCalls (holds : Disk → Prop) (start : holds disk)
    (stable : ∀ {disk after}, Confined allowed disk after → holds disk → holds after)
    (way : ∀ step ∈ (folderCalls (target.parent?.getD target).parts.length
      (target.parent?.getD target)).steps disk, Confined allowed step.1 step.2)
    (put : ∀ {disk after}, holds disk →
      putFile content ((target.parent?.getD target).below [draft]) disk = .ok after →
        Confined allowed disk after)
    (move : ∀ {disk after}, holds disk →
      moveFile ((target.parent?.getD target).below [draft]) target disk = .ok after →
        Confined allowed disk after)
    (remove : ∀ {disk after}, holds disk →
      removeFile ((target.parent?.getD target).below [draft]) disk = .ok after →
        Confined allowed disk after) :
    ∀ step ∈ (fileCalls draft content target).steps disk, Confined allowed step.1 step.2 := by
  have made := Calls.run_of_steps holds start fun step member => stable (way step member)
  rw [fileCalls, Calls.steps_andThen, List.forall_mem_append]
  refine ⟨way, ?_⟩
  split
  · exact List.forall_mem_nil _
  · have first := Confined.attempt (put made)
    have drafted := stable first made
    rw [Calls.steps, List.forall_mem_cons]
    refine ⟨first, ?_⟩
    split
    · exact List.forall_mem_nil _
    · have second := Confined.attempt (move drafted)
      rw [Calls.steps, List.forall_mem_cons]
      refine ⟨second, ?_⟩
      split
      · exact List.forall_mem_singleton.mpr (Confined.attempt (remove (stable second drafted)))
      · exact List.forall_mem_nil _

end

/-! ## Files below a folder -/

/-- A place below the place of a folder, written with names. -/
structure Inside (root target : Place) (front : List String) (last : String) : Prop where
  placed : target = (root.below front).append last
  frontNamed : ∀ name ∈ front, Place.isDots name = false
  lastNamed : Place.isDots last = false

section

variable {disk after : Disk} {root target : Place} {home front : List String}
  {last draft : String} {content : List UInt8}

namespace Inside

theorem written (inside : Inside root target front last) :
    target.parts = (root.parts ++ front) ++ [last] := by
  rw [inside.placed, Place.parts_append, Place.parts_below]

theorem parent? (inside : Inside root target front last) :
    target.parent? =
      some (Place.ofTrimmed root.absolute (root.below front).written.reverse) := by
  rw [inside.placed, parent?_append _ inside.lastNamed, Place.absolute_below]

/-- The place that it is written in leads to the folder of the names before the last. -/
theorem walk_parent (inside : Inside root target front last) (disk : Disk) :
    walk disk [] (target.parent?.getD target).parts = walk disk [] (root.parts ++ front) := by
  rw [inside.parent?, Option.getD_some, walk_ofTrimmed, List.reverse_reverse, ← root.parts_below]
  rfl

theorem leadsInto (inside : Inside root target front last)
    (rooted : walk disk [] root.parts = .ok home) : LeadsInto home target disk :=
  leadsInto_of_walk inside.written rfl inside.frontNamed rooted

theorem leadsInto_beside (inside : Inside root target front last)
    (rooted : walk disk [] root.parts = .ok home) (draft : String) :
    LeadsInto home ((target.parent?.getD target).below [draft]) disk :=
  leadsInto_of_walk (parts_below_singleton _ draft) (inside.walk_parent disk) inside.frontNamed
    rooted

/-- The folders that are made for a file are those of the names before the last. -/
theorem makesWay (inside : Inside root target front last) (clear : placeFault? root = none)
    (rooted : walk disk [] root.parts = .ok home) (fuel : Nat) :
    ∀ step ∈ (folderCalls fuel (target.parent?.getD target)).steps disk,
      MakesWay home front step.1 step.2 := by
  by_cases level : front = []
  · subst level
    have walked := inside.walk_parent disk
    rw [List.append_nil, rooted] at walked
    have parentClear : placeFault? (target.parent?.getD target) = none := by
      rw [inside.parent?, Option.getD_some]
      exact (continues_ofTrimmed (List.append_nil root.written).symm).placeFault? clear
    intro step member
    rw [(run_folderCalls_of_walk fuel parentClear walked).2 step member]
    exact Or.inl rfl
  · obtain ⟨before, name, rfl⟩ := List.eq_nil_or_concat front |>.resolve_left level
    have frontNamed := inside.frontNamed
    rw [List.concat_eq_append] at frontNamed level
    have written : (target.parent?.getD target).parts = root.parts ++ (before ++ [name]) := by
      have texts : (root.below (before.concat name)).written.reverse.reverse.map PathPart.text =
          (root.parts ++ before) ++ [name] := by
        rw [List.reverse_reverse, List.append_assoc, ← @List.concat_eq_append _ before]
        exact root.parts_below _
      rw [inside.parent?, Option.getD_some,
        ofTrimmed_of_named _ texts (frontNamed name List.mem_concat_self), List.reverse_reverse]
      exact (root.parts_below _).trans (congrArg _ List.concat_eq_append)
    rw [List.concat_eq_append]
    exact makesWay_folderCalls fuel written level frontNamed rooted

theorem unused_makeFolders (inside : Inside root target front last)
    (clear : placeFault? root = none) (rooted : walk disk [] root.parts = .ok home)
    (apart : draft ∉ front) (unused : Unused draft disk) :
    Unused draft (makeFolders (target.parent?.getD target) disk).2 := by
  rw [makeFolders, ← run_folderCalls]
  exact Calls.run_of_steps (Unused draft) unused fun step member =>
    (inside.makesWay clear rooted _ step member).unused apart

/-- Every call that writes a file below a folder changes what lies below the folder only. -/
theorem confined (inside : Inside root target front last) (clear : placeFault? root = none)
    (rooted : walk disk [] root.parts = .ok home) :
    ∀ step ∈ (fileCalls draft content target).steps disk,
      Confined (Below home) step.1 step.2 := by
  refine confined_fileCalls (fun disk => walk disk [] root.parts = .ok home) rooted
    (fun confined => walk_of_grown confined.grown) ?_ ?_ ?_ ?_
  · exact fun step member => (inside.makesWay clear rooted _ step member).confined
  · exact fun rooted => (inside.leadsInto_beside rooted draft).confined_putFile
  · exact fun rooted => (inside.leadsInto_beside rooted draft).confined_moveFile
      fun confined => inside.leadsInto (walk_of_grown confined.grown rooted)
  · exact fun rooted => (inside.leadsInto_beside rooted draft).confined_removeFile

end Inside

end

/-! ## The root itself -/

section

variable {disk after : Disk} {place root parent : Place} {home there : List String}
  {draft : String} {content : List UInt8}

/-- No file is put where a folder is. -/
theorem exists_putFile_error (content : List UInt8) (walked : walk disk [] place.parts = .ok there) :
    ∃ fault, putFile content place disk = .error fault := by
  cases put : putFile content place disk with
  | error fault => exact ⟨fault, rfl⟩
  | ok after =>
      obtain ⟨before, last, here, old, written, named, first, plain, replaces⟩ :=
        replaces_of_putFile put
      rw [written, walk_append, first] at walked
      obtain ⟨⟨entries, found⟩, -⟩ := (walk_name_eq_ok_iff named).mp walked
      rw [← replaces.found, found] at plain
      exact plain.elim

theorem confined_putFile_draft (walked : walk disk [] parent.parts = .ok there)
    (put : putFile content (parent.below [draft]) disk = .ok after) :
    Confined (· = there ++ [draft]) disk after := by
  obtain ⟨before, last, here, old, written, -, followed, plain, replaces⟩ :=
    replaces_of_putFile put
  obtain ⟨rfl, same⟩ :=
    List.append_inj' ((parts_below_singleton parent draft).symm.trans written) rfl
  cases same
  cases walked.symm.trans followed
  exact .of_replaces replaces plain rfl

theorem confined_removeFile_draft (walked : walk disk [] parent.parts = .ok there)
    (removed : removeFile (parent.below [draft]) disk = .ok after) :
    Confined (· = there ++ [draft]) disk after := by
  obtain ⟨before, last, here, old, written, -, followed, plain, replaces⟩ :=
    replaces_of_removeFile removed
  obtain ⟨rfl, same⟩ :=
    List.append_inj' ((parts_below_singleton parent draft).symm.trans written) rfl
  cases same
  cases walked.symm.trans followed
  exact .of_replaces replaces plain rfl

/-- Where a place leads somewhere, the place that it is written in does so. -/
theorem exists_walk_of_parent? (rooted : walk disk [] root.parts = .ok home)
    (above : root.parent? = some parent) : ∃ there, walk disk [] parent.parts = .ok there := by
  obtain ⟨more, written⟩ := exists_parts_append above
  rw [written] at rooted
  obtain ⟨there, walked, -⟩ := exists_walk_of_append rooted
  exact ⟨there, walked⟩

/-- No draft is moved to where a folder is. -/
theorem moveFile_ne_ok (rooted : walk disk [] root.parts = .ok home)
    (walked : walk disk [] parent.parts = .ok there) :
    moveFile (parent.below [draft]) root disk ≠ .ok after := by
  intro moved
  rw [moveFile] at moved
  split at moved
  · contradiction
  · next content read =>
    cases removed : removeFile (parent.below [draft]) disk with
    | error fault =>
        rw [removed] at moved
        contradiction
    | ok between =>
        have still := walk_of_grown (confined_removeFile_draft walked removed).grown rooted
        obtain ⟨fault, refused⟩ := exists_putFile_error content still
        rw [removed, Except.bind, refused] at moved
        contradiction

section

variable (clear : placeFault? root = none) (rooted : walk disk [] root.parts = .ok home)
  (above : root.parent? = some parent) (walked : walk disk [] parent.parts = .ok there)

include clear above walked

theorem run_folderCalls_at_root (fuel : Nat) :
    (folderCalls fuel parent).run disk = (.ok (), disk) ∧
      ∀ step ∈ (folderCalls fuel parent).steps disk, step = (disk, disk) := by
  exact run_folderCalls_of_walk fuel ((continues_parent? above).placeFault? clear) walked

include rooted

/-- A file that is to take the place of a folder is refused. -/
theorem run_fileCalls_at_root (isDraft : IsDraft draft)
    (ordered : ∀ other, OrderedAt other disk) (unused : Unused draft disk)
    (content : List UInt8) :
    ∃ fault, (fileCalls draft content root).run disk = (.error fault, disk) := by
  have isParent : root.parent?.getD root = parent := by rw [above, Option.getD_some]
  have made : makeFolders parent disk = (.ok (), disk) :=
    (run_folderCalls _ _ _).symm.trans (run_folderCalls_at_root clear above walked _).1
  rw [run_fileCalls isDraft ordered (by rw [isParent, made]; exact unused), isParent, made]
  obtain ⟨fault, refused⟩ := exists_putFile_error content rooted
  dsimp only
  rw [refused, checked]
  cases placeFault? (parent.below [Folder.draftName]) with
  | none => exact ⟨fault, rfl⟩
  | some wrong => exact ⟨wrong, rfl⟩

/-- Only the draft comes and goes of a file that is to take the place of a folder. -/
theorem confined_fileCalls_at_root (draft : String) (content : List UInt8) :
    ∀ step ∈ (fileCalls draft content root).steps disk,
      Confined (· = there ++ [draft]) step.1 step.2 := by
  have isParent : root.parent?.getD root = parent := by rw [above, Option.getD_some]
  refine confined_fileCalls (fun disk => walk disk [] root.parts = .ok home ∧
    walk disk [] parent.parts = .ok there) ⟨rooted, walked⟩ ?_ ?_ ?_ ?_ ?_
  · exact fun confined led =>
      ⟨walk_of_grown confined.grown led.1, walk_of_grown confined.grown led.2⟩
  · intro step member
    rw [isParent] at member
    rw [(run_folderCalls_at_root clear above walked _).2 step member]
    exact .refl _ _
  · intro disk after led put
    rw [isParent] at put
    exact confined_putFile_draft led.2 put
  · intro disk after led moved
    rw [isParent] at moved
    exact absurd moved (moveFile_ne_ok led.1 led.2)
  · intro disk after led removed
    rw [isParent] at removed
    exact confined_removeFile_draft led.2 removed

end

end

end Disk

namespace Folder

open Disk

variable {folder : Folder} {disk : Disk} {names : List String} {draft path text : String}

/-- An open pool has its root in place. -/
theorem exists_walk_of_openAt (opened : openAt text disk = .ok folder) :
    ∃ home, disk.walk [] folder.parts = .ok home ∧ placeFault? (folder.place []) = none := by
  rw [openAt] at opened
  split at opened
  · contradiction
  · contradiction
  · next entries found =>
    cases opened
    rw [entryAt] at found
    split at found
    · contradiction
    · obtain ⟨home, walked, -⟩ := exists_walk_of_entry found
      rw [Disk.entry, checked_eq_ok_iff] at found
      exact ⟨home, walked, found.1⟩

theorem kind_of_resolve {cause : Error} (refused : resolve path = .error cause) :
    cause.kind = .invalidArgument := by
  rw [resolve] at refused
  split at refused
  · split at refused
    · contradiction
    · cases refused
      rfl
  · cases refused
    rfl

/-- A path that does not stand for the root stands for a place below it. -/
theorem exists_inside (folder : Folder) (resolved : resolve path = .ok names) (below : names ≠ []) :
    ∃ front last, names = front ++ [last] ∧
      Inside (folder.place []) (folder.place names) front last := by
  obtain ⟨front, last, written⟩ := List.eq_nil_or_concat names |>.resolve_left below
  rw [List.concat_eq_append] at written
  have named := named_of_resolve resolved
  refine ⟨front, last, written, ?_, ?_, ?_⟩
  · rw [written, place, Place.below_append]
    rfl
  · intro name member
    exact named name (written ▸ List.mem_append_left _ member)
  · exact named last (written ▸ List.mem_concat_self)

theorem calls_of_resolve (resolved : resolve path = .ok names)
    (present : (folder.place names).parent? ≠ none) (draft : String) (content : List UInt8) :
    folder.calls draft path content = .ok (fileCalls draft content (folder.place names)) := by
  rw [calls, resolved]
  exact if_neg present

/-- No write makes a folder of a name that its path does not have. -/
theorem unused_makeFolders (opened : openAt text disk = .ok folder)
    (resolved : resolve path = .ok names) (unused : Unused draft disk) (apart : draft ∉ names) :
    Unused draft
      (makeFolders ((folder.place names).parent?.getD (folder.place names)) disk).2 := by
  obtain ⟨home, rooted, clear⟩ := exists_walk_of_openAt opened
  by_cases below : names = []
  · subst below
    rw [makeFolders, ← run_folderCalls]
    cases above : (folder.place []).parent? with
    | none =>
        rw [Option.getD_none, (run_folderCalls_of_walk _ clear rooted).1]
        exact unused
    | some parent =>
        obtain ⟨there, walked⟩ := exists_walk_of_parent? rooted above
        rw [Option.getD_some, (run_folderCalls_at_root clear above walked _).1]
        exact unused
  · obtain ⟨front, last, rfl, inside⟩ := exists_inside folder resolved below
    have frontApart : draft ∉ front := fun member => apart (List.mem_append_left _ member)
    exact inside.unused_makeFolders clear rooted frontApart unused

/-- A write is a run of calls.  A path that does not resolve is refused before the first of
them, and the calls for a path below the root change what lies below the root only, all folders
staying.  A path that stands for the root is refused, too, and leaves the disk as it was, but
only the root of the disk is refused before the first call: in other cases a draft is put in
the folder that the parent of the root leads to, and taken back. -/
theorem write_confined_below_root (opened : openAt text disk = .ok folder)
    (ordered : ∀ other, OrderedAt other disk) (isDraft : IsDraft draft)
    (unused : Unused draft disk)
    (apart : ∀ names, resolve path = .ok names → draft ∉ names) (content : List UInt8) :
    folder.write path content disk = perform disk (folder.calls draft path content) ∧
    ∃ home, disk.walk [] folder.parts = .ok home ∧
      match resolve path with
      | .error cause => folder.calls draft path content = .error cause ∧
          cause.kind = .invalidArgument
      | .ok (_ :: _) => ∃ calls, folder.calls draft path content = .ok calls ∧
          ∀ step ∈ calls.steps disk, Confined (Below home) step.1 step.2
      | .ok [] =>
          match (folder.place []).parent? with
          | none => folder.calls draft path content = .error (.pathNamesRoot path)
          | some parent => ∃ calls there fault, folder.calls draft path content = .ok calls ∧
              disk.walk [] parent.parts = .ok there ∧
              folder.write path content disk = (.error (.file fault), disk) ∧
              ∀ step ∈ calls.steps disk, Confined (· = there ++ [draft]) step.1 step.2 := by
  have performed : folder.write path content disk =
      perform disk (folder.calls draft path content) :=
    write_eq_perform isDraft ordered (fun names resolved =>
      unused_makeFolders opened resolved unused (apart names resolved)) content
  refine ⟨performed, ?_⟩
  obtain ⟨home, rooted, clear⟩ := exists_walk_of_openAt opened
  refine ⟨home, rooted, ?_⟩
  rw [performed, calls]
  cases resolved : resolve path with
  | error cause => exact ⟨rfl, kind_of_resolve resolved⟩
  | ok names =>
      cases names with
      | nil =>
          cases above : (folder.place []).parent? with
          | none => exact if_pos above
          | some parent =>
              obtain ⟨there, walked⟩ := exists_walk_of_parent? rooted above
              obtain ⟨fault, run⟩ :=
                run_fileCalls_at_root clear rooted above walked isDraft ordered unused content
              have present : ¬(folder.place []).parent? = none := by
                rw [above]
                exact Option.some_ne_none parent
              dsimp only
              rw [if_neg present]
              refine ⟨_, there, fault, rfl, walked, ?_,
                confined_fileCalls_at_root clear rooted above walked draft content⟩
              rw [perform, run]
              rfl
      | cons name more =>
          obtain ⟨front, last, -, inside⟩ :=
            exists_inside folder resolved (List.cons_ne_nil name more)
          have present : (folder.place (name :: more)).parent? ≠ none := by
            rw [inside.parent?]
            exact Option.some_ne_none _
          exact ⟨_, if_neg present, inside.confined clear rooted⟩

/-- The three calls for a new file in a new folder, below a root that is empty. -/
theorem write_into_empty_root :
    let disk : Disk := [("r", .folder [])]
    let folder : Folder := ⟨"/r"⟩
    ∃ calls, folder.calls draftName "/a/b" [1] = .ok calls ∧ (calls.steps disk).length = 3 ∧
      ∀ step ∈ calls.steps disk, Confined (Below ["r"]) step.1 step.2 := by
  intro disk folder
  have made : (makeFolders (.ofText "/r") []).2 = disk := rfl
  have ordered (other : List String) : OrderedAt other disk := by
    have empty : OrderedAt other [] := by
      cases other with
      | nil =>
          rintro entries ⟨⟩
          exact .nil
      | cons first rest =>
          intro entries found
          rw [look_cons] at found
          split at found
          · contradiction
          · contradiction
    exact made ▸ empty.makeFoldersWithin _ _
  have unused : Unused draftName disk := by
    intro other
    match other with
    | [] => rfl
    | first :: rest =>
        have nothing : look (rest ++ [draftName]) [] = none := by
          cases rest with
          | nil => rfl
          | cons second more =>
              rw [List.cons_append, look_cons]
              split <;> rfl
        rw [List.cons_append, look_cons]
        by_cases here : first = "r"
        · subst here
          exact nothing
        · rw [Keyed.get?_cons, if_neg here]
          split <;> rfl
  have opened : openAt "/r" disk = .ok folder := rfl
  have apart : ∀ names, resolve "/a/b" = .ok names → draftName ∉ names := by
    rintro names ⟨⟩
    decide
  obtain ⟨-, home, rooted, told⟩ :=
    write_confined_below_root opened ordered ⟨rfl, by decide⟩ unused apart [1]
  have led : (disk.walk [] folder.parts).toOption = some ["r"] := by decide +kernel
  rw [rooted] at led
  cases led
  obtain ⟨calls, same, confined⟩ := told
  have present : (folder.place ["a", "b"]).parent? ≠ none := by decide +kernel
  refine ⟨calls, same, ?_, confined⟩
  rw [calls_of_resolve rfl present] at same
  cases same
  decide +kernel

/-- The root of a pool is not refused as such: a draft comes to lie beside it first. -/
theorem draft_beside_root :
    ((Folder.mk "/r").write "/" [] [("r", .folder [])]).1 = .error (.file .isDirectory) ∧
      (Error.file .isDirectory).kind ≠ .invalidArgument ∧
      ∃ calls, (Folder.mk "/r").calls draftName "/" [] = .ok calls ∧
        ∃ step ∈ calls.steps [("r", .folder [])],
          step.1.files [draftName] = none ∧ step.2.files [draftName] = some [] := by
  have present : ((Folder.mk "/r").place []).parent? ≠ none := by decide +kernel
  refine ⟨rfl, by decide, _, calls_of_resolve rfl present draftName [], ?_⟩
  exact ⟨_, List.mem_cons_self, rfl, rfl⟩

end Folder

end Polystore
