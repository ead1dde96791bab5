import Polystore.Proofs.Disk.Order
import Polystore.Proofs.Disk.Removal

/-!
# The calls that write a file

A file is written by several calls of the file system: the folders that are missing are made,
a draft is put beside the place of the file, and the draft is moved there, or removed again.
Each call depends on how those before it went.  Together they do what writing the file does.
-/

namespace Polystore

namespace Disk

/-! ## Calls -/

/-- Move a file to where there is a file or nothing. -/
def moveFile (source target : Place) (disk : Disk) : Except FileFault Disk :=
  match readFile source disk with
  | .error fault => .error fault
  | .ok content => (removeFile source disk).bind fun without => putFile content target without

/-- A call of the file system. -/
inductive Call where
  | makeFolder (place : Place)
  | putFile (content : List UInt8) (place : Place)
  | moveFile (source target : Place)
  | removeFile (place : Place)

/-- The disk after a change, or as it was if the change is refused. -/
def attempt (disk : Disk) : Except FileFault Disk → Except FileFault Unit × Disk
  | .ok after => (.ok (), after)
  | .error fault => (.error fault, disk)

/-- What a call does. -/
def Call.run (disk : Disk) : Call → Except FileFault Unit × Disk
  | makeFolder place => ensureFolder place disk
  | putFile content place => attempt disk (Disk.putFile content place disk)
  | moveFile source target => attempt disk (Disk.moveFile source target disk)
  | removeFile place => attempt disk (Disk.removeFile place disk)

/-- Calls one after the other, each of which depends on how those before it went. -/
inductive Calls where
  | done (result : Except FileFault Unit)
  | call (first : Call) (next : Except FileFault Unit → Calls)

namespace Calls

/-- How calls end, and the disk that they leave. -/
def run (disk : Disk) : Calls → Except FileFault Unit × Disk
  | done result => (result, disk)
  | call first next => (next (first.run disk).1).run (first.run disk).2

/-- The disks before and after every call. -/
def steps (disk : Disk) : Calls → List (Disk × Disk)
  | done _ => []
  | call first next => (disk, (first.run disk).2) :: (next (first.run disk).1).steps (first.run disk).2

/-- Further calls that depend on how some calls end. -/
def andThen (calls : Calls) (further : Except FileFault Unit → Calls) : Calls :=
  match calls with
  | done result => further result
  | call first next => call first fun result => (next result).andThen further

theorem run_andThen (calls : Calls) (further : Except FileFault Unit → Calls) (disk : Disk) :
    (calls.andThen further).run disk = (further (calls.run disk).1).run (calls.run disk).2 := by
  induction calls generalizing disk with
  | done result => rfl
  | call first next ih => exact ih _ _

theorem steps_andThen (calls : Calls) (further : Except FileFault Unit → Calls) (disk : Disk) :
    (calls.andThen further).steps disk =
      calls.steps disk ++ (further (calls.run disk).1).steps (calls.run disk).2 := by
  induction calls generalizing disk with
  | done result => rfl
  | call first next ih => exact congrArg ((disk, (first.run disk).2) :: ·) (ih _ _)

/-- What every call keeps is kept by all of them. -/
theorem run_of_steps (holds : Disk → Prop) {calls : Calls} {disk : Disk} (start : holds disk)
    (step : ∀ step ∈ calls.steps disk, holds step.1 → holds step.2) :
    holds (calls.run disk).2 := by
  induction calls generalizing disk with
  | done result => exact start
  | call first next ih =>
      rw [steps] at step
      have here := step _ List.mem_cons_self start
      exact ih _ here fun other member => step other (List.mem_cons_of_mem _ member)

end Calls

/-! ## Making folders -/

/-- The calls that make a folder and those it is written in that are missing. -/
def folderCalls : (fuel : Nat) → Place → Calls
  | 0, _ => .done (.ok ())
  | fuel + 1, place => .call (.makeFolder place) fun
      | .error .missing =>
          match place.parent? with
          | some parent => (folderCalls fuel parent).andThen fun
              | .error fault => .done (.error fault)
              | .ok () => .call (.makeFolder place) .done
          | none => .done (.ok ())
      | other => .done other

theorem run_folderCalls (fuel : Nat) (place : Place) (disk : Disk) :
    (folderCalls fuel place).run disk = makeFoldersWithin fuel place disk := by
  induction fuel generalizing place disk with
  | zero => rfl
  | succ fuel ih =>
      rw [folderCalls, makeFoldersWithin, Calls.run, Call.run]
      rcases ensureFolder place disk with ⟨⟨fault⟩ | ⟨⟨⟩⟩, left⟩
      · cases fault with
        | missing =>
            cases place.parent? with
            | none => rfl
            | some parent =>
                dsimp only [Option.map]
                rw [Calls.run_andThen, ih]
                rcases makeFoldersWithin fuel parent left with ⟨_ | ⟨⟩, made⟩
                · rfl
                · rfl
        | _ => rfl
      · rfl

/-! ## Folders that are there -/

section

variable {disk after : Disk} {place parent : Place} {here there parts more before : List String}
  {last : String}

theorem run_folderCalls_of_walk (fuel : Nat) (clear : placeFault? place = none)
    (walked : walk disk [] place.parts = .ok there) :
    (folderCalls fuel place).run disk = (.ok (), disk) ∧
      ∀ step ∈ (folderCalls fuel place).steps disk, step = (disk, disk) := by
  cases fuel with
  | zero => exact ⟨rfl, List.forall_mem_nil _⟩
  | succ fuel =>
      rw [folderCalls, Calls.run, Calls.steps, Call.run, ensureFolder_of_walk clear walked]
      exact ⟨rfl, List.forall_mem_singleton.mpr rfl⟩

/-- A folder that could be made is there. -/
theorem exists_walk_of_ensureFolder (made : ensureFolder place disk = (.ok (), after)) :
    ∃ there, walk after [] place.parts = .ok there := by
  rw [ensureFolder] at made
  split at made
  · next left outcome =>
    cases made
    obtain ⟨before, last, here, written, named, walked, replaces⟩ := replaces_of_makeFolder outcome
    have again := walk_of_grown (fun _ => replaces.grown trivial) walked
    rw [written, walk_append, again]
    exact ⟨_, (walk_name_eq_ok_iff named).mpr ⟨⟨[], replaces.left⟩, rfl⟩⟩
  · split at made
    · next present =>
      cases made
      rw [isFolder] at present
      split at present
      · next entries found =>
        obtain ⟨there, walked, -⟩ := exists_walk_of_entry found
        exact ⟨there, walked⟩
      · contradiction
    · cases made
  · cases made

/-- A folder that could be made with those it is written in is there. -/
theorem exists_walk_of_makeFoldersWithin {fuel : Nat} (enough : place.parts.length ≤ fuel)
    (made : makeFoldersWithin fuel place disk = (.ok (), after)) :
    ∃ there, walk after [] place.parts = .ok there := by
  cases fuel with
  | zero =>
      rw [List.eq_nil_of_length_eq_zero (Nat.le_zero.mp enough)]
      exact ⟨[], rfl⟩
  | succ fuel =>
      rw [makeFoldersWithin] at made
      split at made
      · cases above : place.parent? with
        | none =>
            have dots : Place.trimmed place.written.reverse = [] := by
              rw [Place.parent?] at above
              split at above
              · next nothing => exact nothing
              · contradiction
            have walked := walk_of_trimmed_eq_nil dots after []
            rw [List.reverse_reverse] at walked
            exact ⟨[], walked⟩
        | some parent =>
            rw [above, Option.map_some] at made
            split at made
            · cases made
            · exact exists_walk_of_ensureFolder made
            · contradiction
      · exact exists_walk_of_ensureFolder made

end

/-! ## Writing a file -/

/-- The calls that write a file at a place, by way of a draft of a name. -/
def fileCalls (draft : String) (content : List UInt8) (target : Place) : Calls :=
  let parent := target.parent?.getD target
  let beside := parent.below [draft]
  (folderCalls parent.parts.length parent).andThen fun
    | .error fault => .done (.error fault)
    | .ok () => .call (.putFile content beside) fun
        | .error fault => .done (.error fault)
        | .ok () => .call (.moveFile beside target) fun
            | .error fault => .call (.removeFile beside) fun _ => .done (.error fault)
            | .ok () => .done (.ok ())

/-- A name like those of drafts. -/
structure IsDraft (draft : String) : Prop where
  size : draft.utf8ByteSize = Folder.draftName.utf8ByteSize
  text : '\x00' ∉ draft.toList

/-- Nothing on a disk has a name. -/
def Unused (name : String) (disk : Disk) : Prop :=
  ∀ path, look (path ++ [name]) disk = none

section

variable {disk after made : Disk} {place parent target : Place} {path here there : List String}
  {change undo : Option Entry → Except FileFault (Option Entry)} {draft : String}
  {content : List UInt8}

/-- What was put where there was nothing can be taken back. -/
theorem changeAt_undo (ordered : ∀ other, OrderedAt other disk) (nothing : look path disk = none)
    (entry : Entry) (put : change none = .ok (some entry)) (taken : undo (some entry) = .ok none)
    (changed : changeAt change path disk = .ok after) : changeAt undo path after = .ok disk := by
  induction path generalizing disk after with
  | nil => contradiction
  | cons name rest ih =>
      have short : ¬tooLong name = true := by
        intro long
        rw [changeAt, if_pos long] at changed
        contradiction
      have sorted := (ordered [] disk rfl).sorted
      rw [look_cons, if_neg short] at nothing
      by_cases deeper : rest = []
      · subst deeper
        have absent : Keyed.get? disk name = none := by
          cases found : Keyed.get? disk name with
          | none => rfl
          | some held =>
              rw [found, Option.bind_some, Entry.look_nil] at nothing
              contradiction
        rw [changeAt, if_neg short, if_pos rfl, absent, put] at changed
        cases changed
        rw [changeAt, if_neg short, if_pos rfl, Keyed.get?_insert_self, taken]
        dsimp only
        rw [Keyed.erase_insert, Keyed.erase_of_get?_eq_none absent]
      · obtain ⟨inner, next, found, below, rfl⟩ := exists_inner_of_changeAt_cons deeper changed
        rw [found] at nothing
        have innerOrdered (other : List String) : OrderedAt other inner := by
          intro entries led
          apply ordered (name :: other) entries
          rw [look_cons, if_neg short, found]
          exact led
        rw [changeAt, if_neg short, if_neg deeper, Keyed.get?_insert_self]
        dsimp only
        rw [ih innerOrdered nothing below]
        dsimp only
        rw [Keyed.insert_insert, Keyed.insert_of_get?_eq_some sorted found]

theorem parts_below_singleton (parent : Place) (name : String) :
    (parent.below [name]).parts = parent.parts ++ [name] :=
  parent.parts_append name

theorem slash_below_singleton (parent : Place) (name : String) :
    (parent.below [name]).slash = false :=
  rfl

/-- The names of drafts are short names. -/
theorem IsDraft.named (isDraft : IsDraft draft) : Place.isDots draft = false := by
  have size := isDraft.size
  rw [Place.isDots, Bool.or_eq_false_iff, beq_eq_false_iff_ne, beq_eq_false_iff_ne]
  constructor
  · rintro rfl
    contradiction
  · rintro rfl
    contradiction

theorem IsDraft.short (isDraft : IsDraft draft) : tooLong draft = false := by
  rw [tooLong, isDraft.size]
  decide

/-- All drafts have the faults of one. -/
theorem IsDraft.placeFault? (isDraft : IsDraft draft) (parent : Place) :
    placeFault? (parent.below [draft]) = placeFault? (parent.below [Folder.draftName]) := by
  have text : decide ('\x00' ∈ draft.toList) = decide ('\x00' ∈ Folder.draftName.toList) := by
    rw [decide_eq_false isDraft.text]
    decide
  have size : (parent.below [draft]).size = (parent.below [Folder.draftName]).size := by
    simp only [Place.below, List.foldl_cons, List.foldl_nil, Place.append, Place.size,
      Place.partsSize_append, Place.partsSize_cons, isDraft.size]
  rw [Disk.placeFault?, Disk.placeFault?, size, parts_below_singleton, parts_below_singleton,
    List.any_append, List.any_append, List.any_cons, List.any_cons, text]

/-- A draft that was put is found, and is taken back. -/
theorem exists_putFile_draft (content : List UInt8) (isDraft : IsDraft draft)
    (ordered : ∀ other, OrderedAt other disk)
    (unused : look (there ++ [draft]) disk = none)
    (walked : walk disk [] parent.parts = .ok there)
    (clear : Disk.placeFault? (parent.below [draft]) = none) :
    ∃ after, Disk.putFile content (parent.below [draft]) disk = .ok after ∧
      readFile (parent.below [draft]) after = .ok content ∧
      Disk.removeFile (parent.below [draft]) after = .ok disk := by
  have written := parts_below_singleton parent draft
  have level := Bool.eq_false_iff.mp (slash_below_singleton parent draft)
  have inside := hasFolder_of_walk (hasFolder_nil disk) walked
  obtain ⟨after, put⟩ : ∃ after,
      Disk.putFile content (parent.below [draft]) disk = .ok after := by
    rw [Disk.putFile, changeEntry_eq written isDraft.named clear walked]
    apply exists_of_outcome
    rw [outcome_changeAt inside, if_neg (Bool.eq_false_iff.mp isDraft.short), unused, if_neg level]
    rfl
  obtain ⟨before, last, here, old, again, -, followed, plain, replaces⟩ := replaces_of_putFile put
  obtain ⟨rfl, same⟩ := List.append_inj' (written.symm.trans again) rfl
  cases same
  cases walked.symm.trans followed
  have still := walk_of_grown (fun _ => replaces.grown plain) walked
  refine ⟨after, put, ?_, ?_⟩
  · rw [readFile, entry_eq written isDraft.named (slash_below_singleton parent draft), checked,
      clear, still]
    dsimp only [Except.bind]
    rw [find_eq_ok_iff.mpr replaces.left]
  · rw [Disk.putFile, changeEntry_eq written isDraft.named clear walked] at put
    rw [Disk.removeFile, changeEntry_eq written isDraft.named clear still]
    refine changeAt_undo ordered unused (.file content) ?_ ?_ put
    · exact if_neg level
    · exact if_neg level

/-- The calls that write a file do what writing it does. -/
theorem run_fileCalls (isDraft : IsDraft draft) (ordered : ∀ other, OrderedAt other disk)
    (unused : Unused draft (makeFolders (target.parent?.getD target) disk).2) :
    (fileCalls draft content target).run disk =
      match makeFolders (target.parent?.getD target) disk with
      | (.error fault, made) => (.error fault, made)
      | (.ok (), made) => attempt made (checked
          ((target.parent?.getD target).below [Folder.draftName])
          (Disk.putFile content target made)) := by
  have folders (other : List String) := (ordered other).makeFoldersWithin
    (target.parent?.getD target).parts.length (target.parent?.getD target)
  rw [fileCalls, Calls.run_andThen, run_folderCalls]
  rw [makeFolders] at unused ⊢
  generalize target.parent?.getD target = parent at *
  rcases outcome : makeFoldersWithin parent.parts.length parent disk with ⟨fault | ⟨⟨⟩⟩, made⟩
  · rfl
  · rw [outcome] at unused folders
    obtain ⟨there, walked⟩ := exists_walk_of_makeFoldersWithin (Nat.le_refl _) outcome
    dsimp only at unused folders ⊢
    rw [Calls.run, Call.run, checked, ← isDraft.placeFault? parent]
    cases clear : Disk.placeFault? (parent.below [draft]) with
    | some fault =>
        rw [Disk.putFile, changeEntry, checked, clear]
        rfl
    | none =>
        obtain ⟨after, put, read, taken⟩ :=
          exists_putFile_draft content isDraft folders (unused there) walked clear
        have moved : Disk.moveFile (parent.below [draft]) target after =
            Disk.putFile content target made := by
          rw [Disk.moveFile, read]
          dsimp only
          rw [taken, Except.bind]
        rw [put, attempt]
        dsimp only
        rw [Calls.run, Call.run, moved]
        cases Disk.putFile content target made with
        | ok final => rfl
        | error fault =>
            rw [attempt]
            dsimp only
            rw [Calls.run, Call.run, taken]
            rfl

end

end Disk

namespace Folder

open Disk

/-- The calls that write the file of a path, unless it is refused before the first of them. -/
def calls (folder : Folder) (draft path : String) (content : List UInt8) : Except Error Calls :=
  match resolve path with
  | .error cause => .error cause
  | .ok names =>
      if (folder.place names).parent? = none then .error (.pathNamesRoot path)
      else .ok (fileCalls draft content (folder.place names))

/-- How calls end for a pool, and the disk that they leave. -/
def perform (disk : Disk) : Except Error Calls → Outcome Disk Unit
  | .error cause => (.error cause, disk)
  | .ok calls => (faulted (calls.run disk).1, (calls.run disk).2)

theorem changed_eq_attempt (disk : Disk) (result : Except FileFault Disk) :
    changed disk result = (faulted (attempt disk result).1, (attempt disk result).2) := by
  cases result with
  | error fault => rfl
  | ok after => rfl

/-- A file is written by its calls. -/
theorem write_eq_perform {folder : Folder} {disk : Disk} {draft path : String}
    (isDraft : IsDraft draft) (ordered : ∀ other, OrderedAt other disk)
    (unused : ∀ names, resolve path = .ok names → Unused draft (makeFolders
      ((folder.place names).parent?.getD (folder.place names)) disk).2)
    (content : List UInt8) :
    folder.write path content disk = perform disk (folder.calls draft path content) := by
  rw [write, calls]
  cases resolved : resolve path with
  | error cause => rfl
  | ok names =>
      dsimp only
      split
      · rfl
      · rw [perform, run_fileCalls isDraft ordered (unused names resolved), writeAt]
        rcases makeFolders ((folder.place names).parent?.getD (folder.place names)) disk with
          ⟨_ | ⟨⟩, made⟩
        · rfl
        · exact changed_eq_attempt made _

end Folder

end Polystore
