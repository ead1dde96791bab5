import Polystore.Disk.Operations
import Polystore.Proofs.Disk.Tree

/-!
# Where places lead

A place without `..` leads to the names that it is written with, and any place leads where it
led before on a disk with more folders.  Making folders changes no file.
-/

namespace Polystore.Disk

variable {disk after : Disk} {place : Place} {here there : List String} {parts more : List String}

/-! ## Walking -/

theorem hasFolder_of_append (there : HasFolder disk (here ++ more)) : HasFolder disk here := by
  by_cases further : more = []
  · rw [further, List.append_nil] at there
    exact there
  · obtain ⟨entries, found⟩ := there
    exact hasFolder_of_look_append further found

theorem walk_dot (disk : Disk) (here rest : List String) :
    walk disk here ("." :: rest) = walk disk here rest := by
  rw [walk, if_pos rfl]

theorem walk_dots (disk : Disk) (here rest : List String) :
    walk disk here (".." :: rest) = walk disk here.dropLast rest := by
  rw [walk, if_neg (by decide), if_pos rfl]

/-- A name leads on to a folder of that name. -/
theorem walk_name_eq_ok_iff {part : String} (named : Place.isDots part = false) :
    walk disk here (part :: more) = .ok there ↔
      HasFolder disk (here ++ [part]) ∧ walk disk (here ++ [part]) more = .ok there := by
  rw [Place.isDots, Bool.or_eq_false_iff, beq_eq_false_iff_ne, beq_eq_false_iff_ne] at named
  rw [walk, if_neg named.1, if_neg named.2, HasFolder]
  cases found : find (here ++ [part]) disk with
  | error fault =>
      constructor
      · intro walked
        contradiction
      · rintro ⟨⟨entries, led⟩, -⟩
        rw [← find_eq_ok_iff, found] at led
        contradiction
  | ok entry =>
      have led := find_eq_ok_iff.mp found
      cases entry with
      | folder entries => exact (and_iff_right ⟨entries, led⟩).symm
      | file content =>
          constructor
          · intro walked
            contradiction
          · rintro ⟨⟨entries, other⟩, -⟩
            cases led.symm.trans other

/-- The three kinds of parts. -/
theorem part_cases (part : String) : part = "." ∨ part = ".." ∨ Place.isDots part = false := by
  rw [Place.isDots, Bool.or_eq_false_iff, beq_eq_false_iff_ne, beq_eq_false_iff_ne]
  by_cases dot : part = "."
  · exact Or.inl dot
  · by_cases dots : part = ".."
    · exact Or.inr (Or.inl dots)
    · exact Or.inr (Or.inr ⟨dot, dots⟩)

theorem walk_append (disk : Disk) (here parts more : List String) :
    walk disk here (parts ++ more) =
      (walk disk here parts).bind fun there => walk disk there more := by
  induction parts generalizing here with
  | nil => rfl
  | cons part rest ih =>
      rw [List.cons_append, walk, walk]
      split
      · exact ih here
      · split
        · exact ih here.dropLast
        · split
          · exact ih _
          · rfl
          · rfl

theorem exists_walk_of_append (walked : walk disk here (parts ++ more) = .ok there) :
    ∃ between, walk disk here parts = .ok between ∧ walk disk between more = .ok there := by
  rw [walk_append] at walked
  cases first : walk disk here parts with
  | error fault =>
      rw [first] at walked
      contradiction
  | ok between =>
      rw [first] at walked
      exact ⟨between, rfl, walked⟩

/-- A walk from a folder ends in a folder. -/
theorem hasFolder_of_walk (start : HasFolder disk here)
    (walked : walk disk here parts = .ok there) : HasFolder disk there := by
  induction parts generalizing here with
  | nil =>
      cases walked
      exact start
  | cons part rest ih =>
      rcases part_cases part with rfl | rfl | named
      · rw [walk_dot] at walked
        exact ih start walked
      · rw [walk_dots] at walked
        refine ih ?_ walked
        rcases List.eq_nil_or_concat here with rfl | ⟨before, last, rfl⟩
        · exact start
        · rw [List.concat_eq_append] at start ⊢
          rw [List.dropLast_concat]
          exact hasFolder_of_append start
      · obtain ⟨found, further⟩ := (walk_name_eq_ok_iff named).mp walked
        exact ih found further

/-- More folders lead no walk astray. -/
theorem walk_of_grown (grown : ∀ path, HasFolder disk path → HasFolder after path)
    (walked : walk disk here parts = .ok there) : walk after here parts = .ok there := by
  induction parts generalizing here with
  | nil => exact walked
  | cons part rest ih =>
      rcases part_cases part with rfl | rfl | named
      · rw [walk_dot] at walked ⊢
        exact ih walked
      · rw [walk_dots] at walked ⊢
        exact ih walked
      · obtain ⟨found, further⟩ := (walk_name_eq_ok_iff named).mp walked
        exact (walk_name_eq_ok_iff named).mpr ⟨grown _ found, ih further⟩

/-- The names among some parts. -/
def names (parts : List String) : List String :=
  parts.filter (· ≠ ".")

theorem names_append (parts more : List String) :
    names (parts ++ more) = names parts ++ names more :=
  List.filter_append _ _

theorem names_dot (rest : List String) : names ("." :: rest) = names rest :=
  rfl

theorem names_cons {part : String} (named : Place.isDots part = false) (rest : List String) :
    names (part :: rest) = part :: names rest := by
  rw [Place.isDots, Bool.or_eq_false_iff, beq_eq_false_iff_ne] at named
  exact List.filter_cons_of_pos (decide_eq_true named.1)

theorem names_concat {part : String} (named : Place.isDots part = false) (parts : List String) :
    names (parts ++ [part]) = names parts ++ [part] := by
  rw [names_append, names_cons named]
  rfl

theorem down_concat {part : String} (down : ".." ∉ parts) (named : Place.isDots part = false) :
    ".." ∉ parts ++ [part] := by
  rw [List.mem_append, List.mem_singleton, not_or]
  refine ⟨down, ?_⟩
  rintro rfl
  contradiction

/-- Without `..`, a walk follows the names. -/
theorem eq_of_walk (down : ".." ∉ parts) (walked : walk disk here parts = .ok there) :
    there = here ++ names parts := by
  induction parts generalizing here with
  | nil =>
      cases walked
      exact (List.append_nil _).symm
  | cons part rest ih =>
      rw [List.mem_cons, not_or] at down
      rcases part_cases part with rfl | rfl | named
      · rw [walk_dot] at walked
        rw [names_dot]
        exact ih down.2 walked
      · exact absurd rfl down.1
      · obtain ⟨-, further⟩ := (walk_name_eq_ok_iff named).mp walked
        rw [names_cons named, List.append_cons]
        exact ih down.2 further

/-- Without `..`, a walk reaches the folder of its names. -/
theorem walk_of_hasFolder (down : ".." ∉ parts) (found : HasFolder disk (here ++ names parts)) :
    walk disk here parts = .ok (here ++ names parts) := by
  induction parts generalizing here with
  | nil => exact congrArg Except.ok (List.append_nil here).symm
  | cons part rest ih =>
      rw [List.mem_cons, not_or] at down
      rcases part_cases part with rfl | rfl | named
      · rw [walk_dot]
        rw [names_dot] at found ⊢
        exact ih down.2 found
      · exact absurd rfl down.1
      · rw [names_cons named, List.append_cons] at found ⊢
        exact (walk_name_eq_ok_iff named).mpr ⟨hasFolder_of_append found, ih down.2 found⟩

/-! ## Places without fault -/

theorem checked_eq_ok_iff {α : Type} {result : Except FileFault α} {value : α} :
    checked place result = .ok value ↔ placeFault? place = none ∧ result = .ok value := by
  rw [checked]
  cases placeFault? place with
  | none => exact (and_iff_right rfl).symm
  | some fault =>
      constructor
      · intro same
        contradiction
      · rintro ⟨same, -⟩
        contradiction

theorem ne_missing_of_placeFault? {fault : FileFault} (wrong : placeFault? place = some fault) :
    fault ≠ .missing := by
  rw [placeFault?] at wrong
  split at wrong
  · cases wrong
    exact FileFault.noConfusion
  · split at wrong
    · cases wrong
      exact FileFault.noConfusion
    · contradiction

/-- The entry at a place that ends in a name. -/
theorem entry_eq {before : List String} {last : String} (written : place.parts = before ++ [last])
    (named : Place.isDots last = false) (level : place.slash = false) (disk : Disk) :
    entry place disk =
      checked place ((walk disk [] before).bind fun here => find (here ++ [last]) disk) := by
  rw [entry, written, List.getLast?_concat, List.dropLast_concat]
  dsimp only
  rw [if_neg (Bool.eq_false_iff.mp named)]
  congr 1
  split
  · next content found =>
    rw [if_neg (Bool.eq_false_iff.mp level), found]
  · rfl

section

variable {dots : FileFault} {change : Option Entry → Except FileFault (Option Entry)}

/-- A change at a place that ends in a name. -/
theorem changeEntry_eq {before : List String} {last : String}
    (written : place.parts = before ++ [last]) (named : Place.isDots last = false)
    (clear : placeFault? place = none) (walked : walk disk [] before = .ok here) :
    changeEntry dots change place disk = changeAt change (here ++ [last]) disk := by
  rw [changeEntry, checked, clear, written, List.getLast?_concat, List.dropLast_concat]
  dsimp only
  rw [walked]
  exact if_neg (Bool.eq_false_iff.mp named)

/-- Nothing is changed where the way to a place is obstructed. -/
theorem changeEntry_of_error {before : List String} {last : String} {fault : FileFault}
    (written : place.parts = before ++ [last]) (clear : placeFault? place = none)
    (failed : walk disk [] before = .error fault) :
    changeEntry dots change place disk = .error fault := by
  rw [changeEntry, checked, clear, written, List.getLast?_concat, List.dropLast_concat]
  dsimp only
  rw [failed]
  rfl

/-- What is changed lies in the folder that the parts before the last lead to. -/
theorem exists_changeAt (changed : changeEntry dots change place disk = .ok after) :
    ∃ before last here, place.parts = before ++ [last] ∧ Place.isDots last = false ∧
      placeFault? place = none ∧ walk disk [] before = .ok here ∧
      changeAt change (here ++ [last]) disk = .ok after := by
  rw [changeEntry, checked_eq_ok_iff] at changed
  obtain ⟨clear, changed⟩ := changed
  rcases List.eq_nil_or_concat place.parts with empty | ⟨before, last, written⟩
  · rw [empty] at changed
    contradiction
  · rw [List.concat_eq_append] at written
    rw [written, List.getLast?_concat, List.dropLast_concat] at changed
    dsimp only at changed
    cases walked : walk disk [] before with
    | error fault =>
        rw [walked] at changed
        contradiction
    | ok here =>
        rw [walked] at changed
        change (if Place.isDots last = true then Except.error dots
          else changeAt change (here ++ [last]) disk) = .ok after at changed
        split at changed
        · contradiction
        · next named =>
          exact ⟨before, last, here, written, Bool.eq_false_iff.mpr named, clear, walked, changed⟩

end

/-! ## Making folders -/

/-- A disk on which folders were made, none deeper than some depth. -/
structure Later (depth : Nat) (disk after : Disk) : Prop where
  grown : ∀ path, HasFolder disk path → HasFolder after path
  shallow : ∀ path, HasFolder after path → HasFolder disk path ∨ path.length ≤ depth

namespace Later

variable {depth : Nat}

theorem refl (depth : Nat) (disk : Disk) : Later depth disk disk where
  grown _ found := found
  shallow _ found := Or.inl found

theorem trans {last : Disk} (first : Later depth disk after) (second : Later depth after last) :
    Later depth disk last where
  grown path found := second.grown path (first.grown path found)
  shallow path found := by
    rcases second.shallow path found with between | short
    · exact first.shallow path between
    · exact Or.inr short

theorem of_iff (same : ∀ path, HasFolder after path ↔ HasFolder disk path) :
    Later depth disk after where
  grown path found := (same path).mpr found
  shallow path found := Or.inl ((same path).mp found)

end Later

/-- Where a folder is made there was nothing. -/
theorem replaces_of_makeFolder (made : makeFolder place disk = .ok after) :
    ∃ before last here, place.parts = before ++ [last] ∧ Place.isDots last = false ∧
      walk disk [] before = .ok here ∧
      Replaces (here ++ [last]) none (some (.folder [])) disk after := by
  obtain ⟨before, last, here, written, named, -, walked, changed⟩ := exists_changeAt made
  obtain ⟨old, new, outcome, replaces⟩ := replaces_of_changeAt (by
    intro old new outcome
    cases old with
    | none =>
        cases outcome
        exact ⟨trivial, trivial⟩
    | some entry => contradiction) changed
  cases old with
  | some entry => contradiction
  | none =>
      cases outcome
      exact ⟨before, last, here, written, named, walked, replaces⟩

/-- A change of a file or of nothing replaces one entry. -/
theorem exists_replaces_of_changeEntry {dots : FileFault} {new : Option Entry}
    {change : Option Entry → Except FileFault (Option Entry)} (plain : IsFile new)
    (become : ∀ {old result}, change old = .ok result → IsFile old ∧ result = new)
    (changed : changeEntry dots change place disk = .ok after) :
    ∃ before last here old, place.parts = before ++ [last] ∧ Place.isDots last = false ∧
      walk disk [] before = .ok here ∧ IsFile old ∧
      Replaces (here ++ [last]) old new disk after := by
  obtain ⟨before, last, here, written, named, -, walked, changed⟩ := exists_changeAt changed
  obtain ⟨old, result, outcome, replaces⟩ := replaces_of_changeAt
    (by
      intro old result outcome
      obtain ⟨plainOld, rfl⟩ := become outcome
      exact ⟨isBare_of_isFile plainOld, isBare_of_isFile plain⟩)
    changed
  obtain ⟨plainOld, rfl⟩ := become outcome
  exact ⟨before, last, here, old, written, named, walked, plainOld, replaces⟩

theorem replaces_of_putFile {content : List UInt8}
    (put : Disk.putFile content place disk = .ok after) :
    ∃ before last here old, place.parts = before ++ [last] ∧ Place.isDots last = false ∧
      walk disk [] before = .ok here ∧ IsFile old ∧
      Replaces (here ++ [last]) old (some (.file content)) disk after := by
  rw [Disk.putFile] at put
  refine exists_replaces_of_changeEntry trivial ?_ put
  intro old result outcome
  split at outcome
  · contradiction
  · rcases old with - | content | entries
    · exact ⟨trivial, (Except.ok.inj outcome).symm⟩
    · exact ⟨trivial, (Except.ok.inj outcome).symm⟩
    · contradiction

theorem replaces_of_removeFile (removed : Disk.removeFile place disk = .ok after) :
    ∃ before last here old, place.parts = before ++ [last] ∧ Place.isDots last = false ∧
      walk disk [] before = .ok here ∧ IsFile old ∧
      Replaces (here ++ [last]) old none disk after := by
  rw [Disk.removeFile] at removed
  refine exists_replaces_of_changeEntry trivial ?_ removed
  intro old result outcome
  rcases old with - | content | entries
  · contradiction
  · dsimp only at outcome
    split at outcome
    · contradiction
    · exact ⟨trivial, (Except.ok.inj outcome).symm⟩
  · contradiction

/-- Making a folder makes one folder and changes no file. -/
theorem later_makeFolder {depth : Nat} (made : makeFolder place disk = .ok after)
    (bound : ∀ {before last here}, place.parts = before ++ [last] → Place.isDots last = false →
      walk disk [] before = .ok here → here.length < depth) :
    Later depth disk after ∧ files after = files disk := by
  obtain ⟨before, last, here, written, named, walked, replaces⟩ := replaces_of_makeFolder made
  have vacant : files disk (here ++ [last]) = none := by
    rw [files, replaces.found]
    rfl
  constructor
  · constructor
    · intro path found
      by_cases same : path = here ++ [last]
      · rw [same]
        exact ⟨[], replaces.left⟩
      · exact (replaces.folders path same).mpr found
    · intro path found
      by_cases same : path = here ++ [last]
      · apply Or.inr
        rw [same, List.length_append]
        exact bound written named walked
      · exact Or.inl ((replaces.folders path same).mp found)
  · funext path
    by_cases same : path = here ++ [last]
    · rw [same, vacant]
      exact files_of_hasFolder ⟨[], replaces.left⟩
    · exact replaces.files path same

theorem later_ensureFolder {depth : Nat}
    (bound : ∀ {before last here}, place.parts = before ++ [last] → Place.isDots last = false →
      walk disk [] before = .ok here → here.length < depth) :
    Later depth disk (ensureFolder place disk).2 ∧
      files (ensureFolder place disk).2 = files disk := by
  rw [ensureFolder]
  split
  · next made => exact later_makeFolder made bound
  · split
    · exact ⟨.refl _ _, rfl⟩
    · exact ⟨.refl _ _, rfl⟩
  · exact ⟨.refl _ _, rfl⟩

/-- The path of a place goes on from that of another. -/
structure Continues (place shorter : Place) : Prop where
  parts : ∃ more, place.parts = shorter.parts ++ more
  size : shorter.size ≤ place.size

/-- A place goes on from the one that it is below. -/
theorem continues_below (place : Place) (names : List String) :
    Continues (place.below names) place where
  parts := ⟨names, place.parts_below names⟩
  size := by
    induction names generalizing place with
    | nil => exact Nat.le_refl _
    | cons name more ih =>
        exact Nat.le_trans (Nat.le_trans (Nat.le_add_right _ _) (place.size_append name).1) (ih _)

/-- A place goes on from another that has fewer of its parts, with no slash behind them. -/
theorem continues_of_written {shorter : Place} (more : List PathPart)
    (divided : place.written = shorter.written ++ more) (level : shorter.closing = 0) :
    Continues place shorter where
  parts := ⟨more.map PathPart.text, by rw [Place.parts, divided, List.map_append, Place.parts]⟩
  size := by
    rw [Place.size, Place.size, divided, Place.partsSize_append, level]
    omega

theorem exists_trimmed_append (parts : List PathPart) :
    ∃ more, parts = (Place.trimmed parts.reverse).reverse ++ more := by
  refine ⟨(parts.reverse.takeWhile (·.text == ".")).reverse, ?_⟩
  rw [Place.trimmed, ← List.reverse_append, List.takeWhile_append_dropWhile, List.reverse_reverse]

/-- A place goes on from what is left of its first parts. -/
theorem continues_ofTrimmed {front more : List PathPart} (divided : place.written = front ++ more) :
    Continues place (Place.ofTrimmed place.absolute front.reverse) := by
  rw [Place.ofTrimmed]
  split
  · obtain ⟨dots, cut⟩ := exists_trimmed_append front
    apply continues_of_written (dots ++ more) _ rfl
    rw [← List.append_assoc, ← cut]
    exact divided
  · split
    · next absolute => exact ⟨⟨place.parts, rfl⟩, Place.size_pos_of_absolute absolute⟩
    · apply continues_of_written (front.drop 1 ++ more) _ rfl
      rw [List.reverse_reverse, ← List.append_assoc, List.take_append_drop]
      exact divided

/-- A place goes on from the one that it is written in. -/
theorem continues_parent? {parent : Place} (above : place.parent? = some parent) :
    Continues place parent := by
  obtain ⟨dots, cut⟩ := exists_trimmed_append place.written
  rw [Place.parent?] at above
  split at above
  · split at above
    · contradiction
    · cases above
      exact ⟨⟨place.parts, rfl⟩, Nat.zero_le _⟩
  · next last before rest =>
    cases above
    rw [rest, List.reverse_cons, List.append_assoc] at cut
    have continues := continues_ofTrimmed cut
    rwa [List.reverse_reverse] at continues

/-- The parts of the place that a place is written in. -/
theorem exists_parts_append {parent : Place} (above : place.parent? = some parent) :
    ∃ more, place.parts = parent.parts ++ more :=
  (continues_parent? above).parts

/-- Without `..`, the folders that are made lie on the way along the names. -/
theorem later_makeFoldersWithin {depth : Nat} (fuel : Nat) (down : ".." ∉ place.parts)
    (bound : (names place.parts).length ≤ depth) (disk : Disk) :
    Later depth disk (makeFoldersWithin fuel place disk).2 ∧
      files (makeFoldersWithin fuel place disk).2 = files disk := by
  have ensured {place : Place} (down : ".." ∉ place.parts)
      (bound : (names place.parts).length ≤ depth) (disk : Disk) :
      Later depth disk (ensureFolder place disk).2 ∧
        files (ensureFolder place disk).2 = files disk := by
    apply later_ensureFolder
    intro before last here written named walked
    rw [written, List.mem_append, not_or] at down
    rw [written, names_append, names_cons named, List.length_append] at bound
    rw [eq_of_walk down.1 walked, List.nil_append]
    exact Nat.lt_of_lt_of_le (Nat.lt_add_of_pos_right (Nat.succ_pos _)) bound
  induction fuel generalizing place disk with
  | zero => exact ⟨.refl _ _, rfl⟩
  | succ fuel ih =>
      obtain ⟨later, same⟩ := ensured down bound disk
      rw [makeFoldersWithin]
      split
      · next left missing =>
        rw [missing] at later same
        cases above : place.parent? with
        | none => exact ⟨later, same⟩
        | some parent =>
            obtain ⟨more, written⟩ := exists_parts_append above
            have parentDown : ".." ∉ parent.parts := by
              intro member
              apply down
              rw [written]
              exact List.mem_append_left _ member
            have parentBound : (names parent.parts).length ≤ depth := by
              rw [written, names_append, List.length_append] at bound
              omega
            obtain ⟨parentLater, parentSame⟩ := ih parentDown parentBound left
            rw [Option.map_some]
            split
            · next outcome =>
              rw [Option.some.inj outcome] at parentLater parentSame
              exact ⟨later.trans parentLater, parentSame.trans same⟩
            · next middle outcome =>
              rw [Option.some.inj outcome] at parentLater parentSame
              obtain ⟨last, alike⟩ := ensured down bound middle
              exact ⟨later.trans (parentLater.trans last), alike.trans (parentSame.trans same)⟩
            · next outcome => contradiction
      · exact ⟨later, same⟩

/-- In a folder, a folder is not refused because something is missing. -/
theorem ensureFolder_ne_missing {before : List String} {last : String}
    (written : place.parts = before ++ [last]) (named : Place.isDots last = false)
    (walked : walk disk [] before = .ok here) :
    (ensureFolder place disk).1 ≠ .error .missing := by
  have made : outcome (makeFolder place disk) ≠ .error .missing := by
    cases fault : placeFault? place with
    | some wrong =>
        rw [makeFolder, changeEntry, checked, fault]
        intro missing
        exact ne_missing_of_placeFault? fault (Except.error.inj missing)
    | none =>
        rw [makeFolder, changeEntry_eq written named fault walked,
          outcome_changeAt (hasFolder_of_walk (hasFolder_nil disk) walked)]
        split
        · exact nofun
        · split
          · exact nofun
          · exact nofun
  rw [ensureFolder]
  split
  · exact nofun
  · split
    · exact nofun
    · exact nofun
  · next fault _ failed =>
    rw [failed] at made
    intro missing
    exact made (congrArg Except.error (Except.error.inj missing))

/-- In a folder, at most one folder is made. -/
theorem makeFolders_of_walk {before : List String} {last : String}
    (written : place.parts = before ++ [last]) (named : Place.isDots last = false)
    (walked : walk disk [] before = .ok here) :
    makeFolders place disk = ensureFolder place disk := by
  rw [makeFolders, written, List.length_append, List.length_singleton, makeFoldersWithin]
  split
  · next left missing =>
    exact absurd (congrArg Prod.fst missing) (ensureFolder_ne_missing written named walked)
  · rfl

end Polystore.Disk
