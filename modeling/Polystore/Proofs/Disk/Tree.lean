import Mathlib.Logic.Function.Basic
import Polystore.Disk.Tree

/-!
# What paths lead to

A disk is described by the contents of its files and by where its folders are.  A change at
a path that puts a file or nothing in place of a file or nothing, or a new folder in place of
nothing, changes the description at that path only.
-/

namespace Polystore

namespace Disk

/-- The entry that some names lead to, if there is one. -/
def look (path : List String) (disk : Disk) : Option Entry :=
  (find path disk).toOption

end Disk

namespace Entry

/-- The entry that some names lead to from an entry. -/
def look : (path : List String) → Entry → Option Entry
  | path, folder entries => Disk.look path entries
  | [], file content => some (file content)
  | _ :: _, file _ => none

/-- The content of a file. -/
def content? : Entry → Option (List UInt8)
  | file content => some content
  | folder _ => none

theorem look_nil (entry : Entry) : look [] entry = some entry := by
  cases entry with
  | file content => rfl
  | folder entries => rfl

end Entry

namespace Disk

variable {disk after : Disk} {path other : List String}

theorem look_cons (name : String) (rest : List String) (disk : Disk) :
    look (name :: rest) disk =
      if tooLong name then none else (Keyed.get? disk name).bind (Entry.look rest) := by
  rw [look, find]
  split
  · rfl
  · cases found : Keyed.get? disk name with
    | none => rfl
    | some entry =>
        cases entry with
        | folder inner => rfl
        | file content =>
            cases rest with
            | nil => rfl
            | cons next more => rfl

theorem find_eq_ok_iff {entry : Entry} :
    find path disk = .ok entry ↔ look path disk = some entry := by
  rw [look]
  cases find path disk with
  | ok found =>
      constructor
      · exact congrArg Except.toOption
      · intro same
        exact congrArg Except.ok (Option.some.inj same)
  | error fault =>
      constructor
      · intro same
        contradiction
      · intro same
        contradiction

/-- What a path leads to, the rest of the path leads on from. -/
theorem look_append (path more : List String) (disk : Disk) :
    look (path ++ more) disk = (look path disk).bind (Entry.look more) := by
  induction path generalizing disk with
  | nil => rfl
  | cons name rest ih =>
      rw [List.cons_append, look_cons, look_cons]
      split
      · rfl
      · rw [Option.bind_assoc]
        congr 1
        funext entry
        cases entry with
        | folder inner => exact ih inner
        | file content =>
            cases rest with
            | nil => rfl
            | cons next later => rfl

/-- The contents of the files of a disk. -/
def files (disk : Disk) (path : List String) : Option (List UInt8) :=
  (look path disk).bind Entry.content?

/-- A path leads to a folder. -/
def HasFolder (disk : Disk) (path : List String) : Prop :=
  ∃ entries, look path disk = some (.folder entries)

theorem hasFolder_nil (disk : Disk) : HasFolder disk [] :=
  ⟨disk, rfl⟩

theorem files_eq_some_iff {content : List UInt8} :
    files disk path = some content ↔ look path disk = some (.file content) := by
  rw [files, Option.bind_eq_some_iff]
  constructor
  · rintro ⟨entry, found, same⟩
    cases entry with
    | file held =>
        cases same
        exact found
    | folder entries => contradiction
  · intro found
    exact ⟨_, found, rfl⟩

theorem files_of_hasFolder (there : HasFolder disk path) : files disk path = none := by
  obtain ⟨entries, found⟩ := there
  rw [files, found]
  rfl

/-- What lies on the way to something is a folder. -/
theorem hasFolder_of_look_append {entry : Entry} {more : List String} (further : more ≠ [])
    (found : look (path ++ more) disk = some entry) : HasFolder disk path := by
  rw [look_append, Option.bind_eq_some_iff] at found
  obtain ⟨between, here, led⟩ := found
  cases between with
  | folder entries => exact ⟨entries, here⟩
  | file content =>
      cases more with
      | nil => exact absurd rfl further
      | cons next rest => contradiction

theorem not_tooLong_of_look {folder : List String} {name : String} {entry : Entry}
    (found : look (folder ++ [name]) disk = some entry) : tooLong name = false := by
  obtain ⟨entries, there⟩ := hasFolder_of_look_append (List.cons_ne_nil name []) found
  rw [look_append, there, Option.bind_some, Entry.look, look_cons] at found
  split at found
  · contradiction
  · next short => exact Bool.eq_false_iff.mpr short

/-! ## Changes -/

/-- An entry with nothing below it, or none. -/
def IsBare : Option Entry → Prop
  | none | some (.file _) | some (.folder []) => True
  | some (.folder (_ :: _)) => False

theorem bind_look_of_isBare {entry : Option Entry} (bare : IsBare entry) (name : String)
    (rest : List String) : entry.bind (Entry.look (name :: rest)) = none := by
  match entry, bare with
  | none, _ => rfl
  | some (.file _), _ => rfl
  | some (.folder []), _ =>
      change look (name :: rest) [] = none
      rw [look_cons]
      split
      · rfl
      · rfl

/-- A disk is as another was before, but for what one path leads to. -/
structure Replaces (path : List String) (before result : Option Entry) (disk after : Disk) :
    Prop where
  found : look path disk = before
  left : look path after = result
  files : ∀ other, other ≠ path → files after other = files disk other
  folders : ∀ other, other ≠ path → (HasFolder after other ↔ HasFolder disk other)

/-- Two disks that differ in a name of their root folder, and not deeper, differ in the path
of that name. -/
theorem replaces_of_get? {name : String} (short : tooLong name = false)
    (others : ∀ another, another ≠ name → Keyed.get? after another = Keyed.get? disk another)
    (bareBefore : IsBare (Keyed.get? disk name)) (bareAfter : IsBare (Keyed.get? after name)) :
    Replaces [name] (Keyed.get? disk name) (Keyed.get? after name) disk after := by
  have single (disk : Disk) : look [name] disk = Keyed.get? disk name := by
    rw [look_cons, if_neg (Bool.eq_false_iff.mp short)]
    cases Keyed.get? disk name with
    | none => rfl
    | some entry => exact Entry.look_nil entry
  have same : ∀ other, other ≠ [name] → other ≠ [] → look other after = look other disk := by
    intro other differ nonempty
    cases other with
    | nil => exact absurd rfl nonempty
    | cons first rest =>
        rw [look_cons, look_cons]
        by_cases here : first = name
        · subst here
          cases rest with
          | nil => exact absurd rfl differ
          | cons next more =>
              rw [bind_look_of_isBare bareBefore, bind_look_of_isBare bareAfter]
        · rw [others first here]
  constructor
  · exact single disk
  · exact single after
  · intro other differ
    by_cases nonempty : other = []
    · rw [nonempty]
      rfl
    · rw [Disk.files, Disk.files, same other differ nonempty]
  · intro other differ
    by_cases nonempty : other = []
    · rw [nonempty]
      exact iff_of_true (hasFolder_nil after) (hasFolder_nil disk)
    · rw [HasFolder, HasFolder, same other differ nonempty]

/-- A change deeper down is a change of the disk. -/
theorem Replaces.below {name : String} {inner changed : Disk} {before result : Option Entry}
    (replaces : Replaces path before result inner changed) (short : tooLong name = false)
    (others : ∀ another, another ≠ name → Keyed.get? after another = Keyed.get? disk another)
    (found : Keyed.get? disk name = some (.folder inner))
    (left : Keyed.get? after name = some (.folder changed)) :
    Replaces (name :: path) before result disk after := by
  have down (other : List String) : look (name :: other) disk = look other inner := by
    rw [look_cons, if_neg (Bool.eq_false_iff.mp short), found]
    rfl
  have downAfter (other : List String) : look (name :: other) after = look other changed := by
    rw [look_cons, if_neg (Bool.eq_false_iff.mp short), left]
    rfl
  constructor
  · exact (down path).trans replaces.found
  · exact (downAfter path).trans replaces.left
  · intro other differ
    cases other with
    | nil => rfl
    | cons first rest =>
        by_cases here : first = name
        · subst here
          rw [Disk.files, Disk.files, down, downAfter]
          apply replaces.files
          rintro rfl
          exact differ rfl
        · rw [Disk.files, Disk.files, look_cons, look_cons, others first here]
  · intro other differ
    cases other with
    | nil => exact iff_of_true (hasFolder_nil after) (hasFolder_nil disk)
    | cons first rest =>
        by_cases here : first = name
        · subst here
          rw [HasFolder, HasFolder, down, downAfter]
          apply replaces.folders
          rintro rfl
          exact differ rfl
        · rw [HasFolder, HasFolder, look_cons, look_cons, others first here]

variable {change : Option Entry → Except FileFault (Option Entry)}

/-- A change of an entry of a folder leaves the entries beside it. -/
theorem get?_of_changeAt_name (changed : changeAt change [name] disk = .ok after) :
    ∃ result, change (Keyed.get? disk name) = .ok result ∧ Keyed.get? after name = result ∧
      ∀ another, another ≠ name → Keyed.get? after another = Keyed.get? disk another := by
  rw [changeAt, if_pos rfl] at changed
  split at changed
  · contradiction
  · cases outcome : change (Keyed.get? disk name) with
    | error fault =>
        rw [outcome] at changed
        contradiction
    | ok result =>
        rw [outcome] at changed
        cases result with
        | none =>
            cases changed
            refine ⟨_, rfl, (Keyed.get?_erase _ _ _).trans (if_pos rfl), ?_⟩
            intro another differ
            exact (Keyed.get?_erase _ _ _).trans (if_neg differ)
        | some entry =>
            cases changed
            refine ⟨_, rfl, Keyed.get?_insert_self _ _ _, ?_⟩
            intro another differ
            exact Keyed.get?_insert_of_ne _ _ differ

/-- A change below a folder is a change in it. -/
theorem exists_inner_of_changeAt_cons (deeper : path ≠ [])
    (changed : changeAt change (name :: path) disk = .ok after) :
    ∃ inner next, Keyed.get? disk name = some (.folder inner) ∧
      changeAt change path inner = .ok next ∧
      after = Keyed.insert name (.folder next) disk := by
  rw [changeAt, if_neg deeper] at changed
  split at changed
  · contradiction
  · cases found : Keyed.get? disk name with
    | none =>
        rw [found] at changed
        contradiction
    | some entry =>
        rw [found] at changed
        cases entry with
        | file content => contradiction
        | folder inner =>
            dsimp only at changed
            cases below : changeAt change path inner with
            | error fault =>
                rw [below] at changed
                contradiction
            | ok next =>
                rw [below] at changed
                exact ⟨inner, next, rfl, below, (Except.ok.inj changed).symm⟩

/-- A change of bare entries changes what its path leads to, and nothing else. -/
theorem replaces_of_changeAt
    (bare : ∀ {before result}, change before = .ok result → IsBare before ∧ IsBare result)
    (changed : changeAt change path disk = .ok after) :
    ∃ before result, change before = .ok result ∧ Replaces path before result disk after := by
  induction path generalizing disk after with
  | nil => contradiction
  | cons name rest ih =>
      have short : tooLong name = false := by
        apply Bool.eq_false_iff.mpr
        intro long
        rw [changeAt, if_pos long] at changed
        contradiction
      by_cases last : rest = []
      · subst last
        obtain ⟨result, outcome, here, others⟩ := get?_of_changeAt_name changed
        obtain ⟨bareBefore, bareAfter⟩ := bare outcome
        rw [← here] at bareAfter outcome
        exact ⟨_, _, outcome, replaces_of_get? short others bareBefore bareAfter⟩
      · obtain ⟨inner, next, found, below, rfl⟩ := exists_inner_of_changeAt_cons last changed
        obtain ⟨before, result, outcome, replaces⟩ := ih below
        refine ⟨before, result, outcome, replaces.below short ?_ found
          (Keyed.get?_insert_self _ _ _)⟩
        intro another differ
        exact Keyed.get?_insert_of_ne _ _ differ

/-- A file, or nothing. -/
def IsFile : Option Entry → Prop
  | none | some (.file _) => True
  | some (.folder _) => False

theorem isBare_of_isFile {entry : Option Entry} (plain : IsFile entry) : IsBare entry := by
  match entry, plain with
  | none, _ => trivial
  | some (.file _), _ => trivial

/-- Where no folder is replaced, all folders stay. -/
theorem Replaces.grown {before result : Option Entry}
    (replaces : Replaces path before result disk after) (plain : IsFile before)
    (there : HasFolder disk other) : HasFolder after other := by
  by_cases same : other = path
  · obtain ⟨entries, found⟩ := there
    rw [← replaces.found, ← same, found] at plain
    exact plain.elim
  · exact (replaces.folders other same).mpr there

/-- A change of a file, or of nothing, to a file, or to nothing, leaves all folders and all
other files. -/
theorem Replaces.of_isFile {before result : Option Entry}
    (replaces : Replaces path before result disk after) (plainBefore : IsFile before)
    (plainResult : IsFile result) :
    (∀ other, HasFolder after other ↔ HasFolder disk other) ∧
      after.files = Function.update disk.files path (result.bind Entry.content?) := by
  have none_folder {disk : Disk} {entry : Option Entry} (plain : IsFile entry)
      (found : look path disk = entry) : ¬HasFolder disk path := by
    rintro ⟨entries, led⟩
    rw [← found, led] at plain
    exact plain
  constructor
  · intro other
    by_cases same : other = path
    · rw [same]
      exact iff_of_false (none_folder plainResult replaces.left)
        (none_folder plainBefore replaces.found)
    · exact replaces.folders other same
  · funext other
    by_cases same : other = path
    · rw [same, Function.update_self, Disk.files, replaces.left]
    · rw [Function.update_of_ne same, replaces.files other same]

/-- Whether something is done, or the fault that prevents it. -/
def outcome {α : Type} (result : Except FileFault α) : Except FileFault Unit :=
  result.map fun _ => ()

/-- Below a folder, a change is made or refused as in the folder itself. -/
theorem outcome_changeAt_append {folder more : List String} {entries : Disk}
    (found : look folder disk = some (.folder entries)) (further : more ≠ []) :
    outcome (changeAt change (folder ++ more) disk) = outcome (changeAt change more entries) := by
  induction folder generalizing disk with
  | nil =>
      cases found
      rfl
  | cons first rest ih =>
      rw [look_cons] at found
      split at found
      · contradiction
      · next long =>
        obtain ⟨entry, here, led⟩ := Option.bind_eq_some_iff.mp found
        have deeper : rest ++ more ≠ [] := by
          intro empty
          exact further (List.append_eq_nil_iff.mp empty).2
        cases entry with
        | file content =>
            cases rest with
            | nil => cases led
            | cons next later => contradiction
        | folder inner =>
            rw [List.cons_append, changeAt, if_neg long, if_neg deeper, here, ← ih led]
            dsimp only
            cases changeAt change (rest ++ more) inner with
            | error fault => rfl
            | ok after => rfl

/-- In a folder, a change is made or refused as it can be made of the entry there. -/
theorem outcome_changeAt {folder : List String} (there : HasFolder disk folder) (name : String) :
    outcome (changeAt change (folder ++ [name]) disk) =
      if tooLong name then .error .nameTooLong
      else outcome (change (look (folder ++ [name]) disk)) := by
  obtain ⟨entries, found⟩ := there
  rw [outcome_changeAt_append found (List.cons_ne_nil _ _), changeAt]
  split
  · rfl
  · next short =>
    have here : look (folder ++ [name]) disk = Keyed.get? entries name := by
      rw [look_append, found, Option.bind_some, Entry.look, look_cons, if_neg short]
      cases Keyed.get? entries name with
      | none => rfl
      | some entry => exact Entry.look_nil entry
    rw [if_pos rfl, here]
    cases change (Keyed.get? entries name) with
    | error fault => rfl
    | ok result =>
        cases result with
        | none => rfl
        | some entry => rfl

theorem eq_error_of_outcome {α : Type} {result : Except FileFault α} {fault : FileFault}
    (refused : outcome result = .error fault) : result = .error fault := by
  cases result with
  | error other => exact congrArg Except.error (Except.error.inj refused)
  | ok value => contradiction

theorem exists_of_outcome {α : Type} {result : Except FileFault α}
    (done : outcome result = .ok ()) : ∃ value, result = .ok value := by
  cases result with
  | error fault => contradiction
  | ok value => exact ⟨value, rfl⟩

end Disk

end Polystore
