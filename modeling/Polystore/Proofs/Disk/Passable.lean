import Mathlib.Data.List.TakeWhile
import Polystore.Proofs.Disk.Places

/-!
# Ways along which folders can be made

A way is passable if its names are short and no file lies on it.  A walk along it ends in its
folder or finds that something is missing, and then all folders on the way can be made.
-/

namespace Polystore.Disk

variable {disk after : Disk} {place : Place} {path more here parts before : List String}
  {name last : String}

/-! ## Names in folders -/

/-- Names lead on from what lies on the way. -/
theorem find_append (path : List String) {more : List String} (further : more ≠ []) (disk : Disk) :
    find (path ++ more) disk =
      (find path disk).bind fun
        | .folder inner => find more inner
        | .file _ => .error .notDirectory := by
  induction path generalizing disk with
  | nil => rfl
  | cons first rest ih =>
      have deeper : rest ++ more ≠ [] := by
        intro empty
        exact further (List.append_eq_nil_iff.mp empty).2
      rw [List.cons_append, find, find]
      split
      · rfl
      · cases Keyed.get? disk first with
        | none => rfl
        | some entry =>
            cases entry with
            | folder inner => exact ih inner
            | file content =>
                dsimp only
                split
                · rfl
                · rfl

/-- Where there is no file, there is nothing or a folder. -/
theorem look_eq_none_or_hasFolder (free : disk.files path = none) :
    look path disk = none ∨ HasFolder disk path := by
  cases found : look path disk with
  | none => exact Or.inl rfl
  | some entry =>
      cases entry with
      | file content =>
          rw [files, found] at free
          contradiction
      | folder inner => exact Or.inr ⟨inner, found⟩

/-- A short name leads nowhere if no entry has it. -/
theorem find_name (short : tooLong name = false) (entries : Disk) :
    find [name] entries =
      match Keyed.get? entries name with
      | some entry => .ok entry
      | none => .error .missing := by
  rw [find, if_neg (Bool.eq_false_iff.mp short)]
  cases Keyed.get? entries name with
  | none => rfl
  | some entry =>
      cases entry with
      | file content => rfl
      | folder inner => rfl

/-- In a folder, a short name leads to something or is missing. -/
theorem find_of_short (there : HasFolder disk path) (short : tooLong name = false) :
    find (path ++ [name]) disk =
      match look (path ++ [name]) disk with
      | some entry => .ok entry
      | none => .error .missing := by
  rcases there with ⟨entries, found⟩
  rw [look, find_append path (List.cons_ne_nil _ _), find_eq_ok_iff.mpr found]
  dsimp only [Except.bind]
  rw [find_name short]
  cases Keyed.get? entries name with
  | none => rfl
  | some entry => rfl

/-! ## Passable ways -/

/-- A way whose names are short and on which no file lies. -/
structure Passable (disk : Disk) (path : List String) : Prop where
  short : ∀ name ∈ path, tooLong name = false
  free : ∀ {before}, before <+: path → disk.files before = none

namespace Passable

theorem of_append (passable : Passable disk (path ++ more)) : Passable disk path where
  short name member := passable.short name (List.mem_append_left more member)
  free within := passable.free (within.trans (List.prefix_append path more))

theorem short_last (passable : Passable disk (path ++ [name])) : tooLong name = false :=
  passable.short name List.mem_concat_self

theorem concat (passable : Passable disk path) (short : tooLong name = false)
    (free : disk.files (path ++ [name]) = none) : Passable disk (path ++ [name]) where
  short other member := by
    rcases List.mem_append.mp member with old | new
    · exact passable.short other old
    · rw [List.mem_singleton.mp new]
      exact short
  free within := by
    rcases List.prefix_concat_iff.mp within with rfl | inside
    · exact free
    · exact passable.free inside

theorem of_hasFolder (there : HasFolder disk path) : Passable disk path where
  short name member := by
    rcases List.append_of_mem member with ⟨before, rest, rfl⟩
    rw [List.append_cons] at there
    rcases hasFolder_of_append there with ⟨entries, found⟩
    exact not_tooLong_of_look found
  free := by
    rintro before ⟨rest, rfl⟩
    exact files_of_hasFolder (hasFolder_of_append there)

/-- A way stays passable while no file comes to lie on it. -/
theorem congr (passable : Passable disk path)
    (same : ∀ {before : List String}, before <+: path → after.files before = disk.files before) :
    Passable after path where
  short := passable.short
  free within := (same within).trans (passable.free within)

/-- A walk along a passable way reaches its end, or something on the way is missing. -/
theorem walk_cases (passable : Passable disk (here ++ names parts)) (down : ".." ∉ parts)
    (start : HasFolder disk here) :
    walk disk here parts = .ok (here ++ names parts) ∨ walk disk here parts = .error .missing := by
  induction parts generalizing here with
  | nil => exact Or.inl (congrArg Except.ok (List.append_nil here).symm)
  | cons part rest ih =>
      rw [List.mem_cons, not_or] at down
      rcases part_cases part with rfl | rfl | named
      · rw [walk_dot, names_dot]
        rw [names_dot] at passable
        exact ih passable down.2 start
      · exact absurd rfl down.1
      · rw [names_cons named, List.append_cons] at passable ⊢
        have first := find_of_short start passable.of_append.short_last
        rw [Place.isDots, Bool.or_eq_false_iff, beq_eq_false_iff_ne, beq_eq_false_iff_ne] at named
        rw [walk, if_neg named.1, if_neg named.2, first]
        rcases look_eq_none_or_hasFolder (passable.free (List.prefix_append _ _)) with
          nothing | there
        · rw [nothing]
          exact Or.inr rfl
        · have deeper := ih passable down.2 there
          rcases there with ⟨entries, found⟩
          rw [found]
          exact deeper

end Passable

/-! ## Making folders along passable ways -/

/-- A place from which another goes on has no fault that the other does not have. -/
theorem Continues.placeFault? {shorter : Place} (continues : Continues place shorter)
    (clear : placeFault? place = none) : placeFault? shorter = none := by
  obtain ⟨more, divided⟩ := continues.parts
  rw [Disk.placeFault?] at clear ⊢
  split at clear
  · contradiction
  · next letters =>
    split at clear
    · contradiction
    · next short =>
      rw [divided, List.any_append, Bool.or_eq_true, not_or] at letters
      rw [if_neg letters.1, if_neg]
      intro long
      exact short (Nat.le_trans long continues.size)

/-- Parts that lead nowhere else can be left out at the end. -/
theorem walk_trimmed (disk : Disk) (here : List String) (reversed : List PathPart) :
    walk disk here ((Place.trimmed reversed).reverse.map PathPart.text) =
      walk disk here (reversed.reverse.map PathPart.text) := by
  induction reversed with
  | nil => rfl
  | cons part rest ih =>
      rw [Place.trimmed, List.dropWhile_cons]
      split
      · next dot =>
        rw [Place.trimmed] at ih
        rw [List.reverse_cons, List.map_append, walk_append, ih, List.map_singleton,
          beq_iff_eq.mp dot]
        cases walk disk here (rest.reverse.map PathPart.text) with
        | error fault => rfl
        | ok between => exact (walk_dot disk between []).symm
      · rfl

/-- Single dots lead nowhere else. -/
theorem walk_of_trimmed_eq_nil {reversed : List PathPart} (dots : Place.trimmed reversed = [])
    (disk : Disk) (here : List String) :
    walk disk here (reversed.reverse.map PathPart.text) = .ok here := by
  rw [← walk_trimmed, dots]
  rfl

theorem walk_ofTrimmed (disk : Disk) (here : List String) (absolute : Bool)
    (reversed : List PathPart) :
    walk disk here (Place.ofTrimmed absolute reversed).parts =
      walk disk here (reversed.reverse.map PathPart.text) := by
  rw [Place.ofTrimmed]
  by_cases dots : Place.trimmed reversed = []
  · rw [if_neg (not_not_intro dots), walk_of_trimmed_eq_nil dots]
    split
    · rfl
    · have first : Place.trimmed (reversed.reverse.take 1).reverse = [] := by
        rw [Place.trimmed, List.dropWhile_eq_nil_iff] at dots ⊢
        intro part member
        apply dots
        exact List.mem_reverse.mp (List.mem_of_mem_take (List.mem_reverse.mp member))
      have led := walk_of_trimmed_eq_nil first disk here
      rw [List.reverse_reverse] at led
      exact led
  · rw [if_pos dots]
    exact walk_trimmed disk here reversed

/-- Nothing is left out at the end of parts that end in a name. -/
theorem trimmed_of_named {last : PathPart} (named : Place.isDots last.text = false)
    (before : List PathPart) : Place.trimmed (last :: before) = last :: before := by
  rw [Place.isDots, Bool.or_eq_false_iff] at named
  rw [Place.trimmed, List.dropWhile_cons, named.1]
  rfl

/-- A place that ends in a name is written in the place of what comes before. -/
theorem exists_ofTrimmed (written : place.parts = before ++ [last])
    (named : Place.isDots last = false) :
    ∃ reversed, place.parent? = some (Place.ofTrimmed place.absolute reversed) ∧
      reversed.reverse.map PathPart.text = before := by
  obtain ⟨front, rear, divided, rfl, ends⟩ := List.map_eq_append_iff.mp written
  obtain ⟨part, rest, rfl, rfl, none⟩ := List.map_eq_cons_iff.mp ends
  cases List.map_eq_nil_iff.mp none
  refine ⟨front.reverse, ?_, by rw [List.reverse_reverse]⟩
  rw [Place.parent?, divided, List.reverse_append, List.reverse_singleton, List.singleton_append,
    trimmed_of_named named]

/-- Parts that end in a name are all left. -/
theorem ofTrimmed_of_named {reversed : List PathPart} (absolute : Bool)
    (texts : reversed.reverse.map PathPart.text = before ++ [last])
    (named : Place.isDots last = false) :
    Place.ofTrimmed absolute reversed = { written := reversed.reverse } := by
  rw [List.map_reverse, List.reverse_eq_iff, List.reverse_append, List.reverse_singleton,
    List.singleton_append] at texts
  obtain ⟨part, rest, rfl, rfl, same⟩ := List.map_eq_cons_iff.mp texts
  rw [Place.ofTrimmed, trimmed_of_named named, if_pos (List.cons_ne_nil _ _)]

/-- A place that ends in two names is written in the place of the first. -/
theorem exists_parent?_of_named {name : String}
    (written : place.parts = (before ++ [name]) ++ [last]) (named : Place.isDots name = false)
    (lastNamed : Place.isDots last = false) :
    ∃ parent, place.parent? = some parent ∧ parent.parts = before ++ [name] := by
  obtain ⟨reversed, above, texts⟩ := exists_ofTrimmed written lastNamed
  rw [ofTrimmed_of_named _ texts named] at above
  exact ⟨_, above, texts⟩

/-- A name below a place is written in what is left of the place. -/
theorem parent?_append (place : Place) (named : Place.isDots last = false) :
    (place.append last).parent? = some (Place.ofTrimmed place.absolute place.written.reverse) := by
  rw [Place.parent?, Place.absolute_append, Place.append, List.reverse_append,
    List.reverse_singleton, List.singleton_append, trimmed_of_named named]

/-- A name in the place of a name is written there. -/
theorem parent?_append_append (place : Place) {name : String} (named : Place.isDots name = false)
    (lastNamed : Place.isDots last = false) :
    ((place.append name).append last).parent? = some (place.append name) := by
  have texts : (place.append name).written.reverse.reverse.map PathPart.text =
      place.parts ++ [name] := by
    rw [List.reverse_reverse]
    exact place.parts_append name
  rw [parent?_append _ lastNamed, ofTrimmed_of_named _ texts named, List.reverse_reverse]
  rfl

theorem isFolder_of_walk {there : List String} (clear : placeFault? place = none)
    (walked : walk disk [] place.parts = .ok there) : isFolder place disk = true := by
  obtain ⟨entries, found⟩ := hasFolder_of_walk (hasFolder_nil disk) walked
  rw [isFolder, entry, checked, clear]
  rcases List.eq_nil_or_concat place.parts with empty | ⟨before, last, written⟩
  · rw [empty]
    rfl
  · rw [List.concat_eq_append] at written
    rw [written] at walked ⊢
    rw [List.getLast?_concat, List.dropLast_concat]
    dsimp only
    by_cases dots : Place.isDots last = true
    · rw [if_pos dots, walked, Except.bind, find_eq_ok_iff.mpr found]
    · obtain ⟨here, first, second⟩ := exists_walk_of_append walked
      obtain ⟨-, same⟩ := (walk_name_eq_ok_iff (Bool.eq_false_iff.mpr dots)).mp second
      cases same
      rw [if_neg dots, first, Except.bind, find_eq_ok_iff.mpr found]

/-- The parts of the place of a folder lead to it. -/
theorem exists_walk_of_entry {entries : Disk} (found : entry place disk = .ok (.folder entries)) :
    ∃ there, walk disk [] place.parts = .ok there ∧ look there disk = some (.folder entries) := by
  rw [entry, checked_eq_ok_iff] at found
  rcases found with ⟨-, found⟩
  rcases List.eq_nil_or_concat place.parts with empty | ⟨before, last, written⟩
  · rw [empty] at found ⊢
    cases found
    exact ⟨[], rfl, rfl⟩
  · rw [List.concat_eq_append] at written
    rw [written, List.getLast?_concat, List.dropLast_concat] at found
    rw [written]
    dsimp only at found
    split at found
    · cases walked : walk disk [] (before ++ [last]) with
      | error fault =>
          rw [walked] at found
          contradiction
      | ok there =>
          rw [walked] at found
          exact ⟨there, rfl, find_eq_ok_iff.mp found⟩
    · next named =>
      cases walked : walk disk [] before with
      | error fault =>
          rw [walked] at found
          contradiction
      | ok here =>
          rw [walked] at found
          have led : look (here ++ [last]) disk = some (.folder entries) := by
            apply find_eq_ok_iff.mp
            dsimp only [Except.bind] at found
            split at found
            · split at found
              · contradiction
              · cases found
            · exact found
          refine ⟨here ++ [last], ?_, led⟩
          rw [walk_append, walked]
          exact (walk_name_eq_ok_iff (Bool.eq_false_iff.mpr named)).mpr ⟨⟨entries, led⟩, rfl⟩

/-- A place that leads somewhere is no folder to be made. -/
theorem ensureFolder_of_walk {there : List String} (clear : placeFault? place = none)
    (walked : walk disk [] place.parts = .ok there) : ensureFolder place disk = (.ok (), disk) := by
  have present : makeFolder place disk = .error .alreadyThere := by
    rcases List.eq_nil_or_concat place.parts with empty | ⟨before, last, written⟩
    · rw [makeFolder, changeEntry, checked, clear, empty]
      rfl
    · rw [List.concat_eq_append] at written
      rw [written] at walked
      obtain ⟨here, first, second⟩ := exists_walk_of_append walked
      by_cases dots : Place.isDots last = true
      · rw [makeFolder, changeEntry, checked, clear, written, List.getLast?_concat,
          List.dropLast_concat]
        dsimp only
        rw [first, Except.bind, if_pos dots]
      · have named := Bool.eq_false_iff.mpr dots
        obtain ⟨⟨entries, found⟩, -⟩ := (walk_name_eq_ok_iff named).mp second
        rw [makeFolder, changeEntry_eq written named clear first]
        apply eq_error_of_outcome
        rw [outcome_changeAt (hasFolder_of_append ⟨entries, found⟩),
          if_neg (Bool.eq_false_iff.mp (not_tooLong_of_look found)), found]
        rfl
  rw [ensureFolder, present]
  exact if_pos (isFolder_of_walk clear walked)

/-- A folder that is there is not made again. -/
theorem ensureFolder_of_hasFolder (written : place.parts = before ++ [last])
    (named : Place.isDots last = false) (clear : placeFault? place = none)
    (walked : walk disk [] before = .ok here)
    (there : HasFolder disk (here ++ [last])) : ensureFolder place disk = (.ok (), disk) := by
  apply ensureFolder_of_walk clear
  rw [written, walk_append, walked]
  exact (walk_name_eq_ok_iff named).mpr ⟨there, rfl⟩

/-- In a folder, a folder can be made where there is no file. -/
theorem exists_ensureFolder (written : place.parts = before ++ [last])
    (named : Place.isDots last = false) (clear : placeFault? place = none)
    (walked : walk disk [] before = .ok here) (short : tooLong last = false)
    (free : disk.files (here ++ [last]) = none) :
    ∃ made, ensureFolder place disk = (.ok (), made) ∧ HasFolder made (here ++ [last]) := by
  rcases look_eq_none_or_hasFolder free with nothing | present
  · obtain ⟨made, outcome⟩ : ∃ made, makeFolder place disk = .ok made := by
      rw [makeFolder, changeEntry_eq written named clear walked]
      apply exists_of_outcome
      rw [outcome_changeAt (hasFolder_of_walk (hasFolder_nil disk) walked),
        if_neg (Bool.eq_false_iff.mp short), nothing]
      rfl
    refine ⟨made, ?_, ?_⟩
    · rw [ensureFolder, outcome]
    · rcases replaces_of_makeFolder outcome with ⟨front, name, home, again, -, followed, replaces⟩
      rcases List.append_inj' (written.symm.trans again) rfl with ⟨rfl, same⟩
      cases same
      cases walked.symm.trans followed
      exact ⟨[], replaces.left⟩
  · exact ⟨disk, ensureFolder_of_hasFolder written named clear walked present, present⟩

/-- No folder is made where the way to it is obstructed. -/
theorem ensureFolder_of_error {fault : FileFault} (written : place.parts = before ++ [last])
    (clear : placeFault? place = none) (failed : walk disk [] before = .error fault) :
    ensureFolder place disk = (.error fault, disk) := by
  have absent : ¬isFolder place disk = true := by
    intro present
    rw [isFolder] at present
    split at present
    · next entries found =>
      obtain ⟨there, walked, -⟩ := exists_walk_of_entry found
      rw [written] at walked
      obtain ⟨between, first, -⟩ := exists_walk_of_append walked
      cases failed.symm.trans first
    · contradiction
  rw [ensureFolder, makeFolder, changeEntry_of_error written clear failed]
  split
  · next made => contradiction
  · next same => rw [if_neg absent, Except.error.inj same]
  · next same => rw [Except.error.inj same]

/-- Without the single dots at the end, parts have the same names and end in one. -/
theorem trimmed_cases {reversed : List PathPart} (down : ".." ∉ reversed.map PathPart.text) :
    names ((Place.trimmed reversed).reverse.map PathPart.text) =
        names (reversed.reverse.map PathPart.text) ∧
      (Place.trimmed reversed = [] ∨ ∃ front last,
        (Place.trimmed reversed).reverse.map PathPart.text = front ++ [last] ∧
          Place.isDots last = false) := by
  induction reversed with
  | nil => exact ⟨rfl, Or.inl rfl⟩
  | cons part rest ih =>
      rw [List.map_cons, List.mem_cons, not_or] at down
      rw [Place.trimmed, List.dropWhile_cons]
      split
      · next dot =>
        rcases ih down.2 with ⟨same, ends⟩
        rw [List.reverse_cons, List.map_append, names_append, List.map_singleton,
          beq_iff_eq.mp dot, names_dot]
        exact ⟨same.trans (List.append_nil _).symm, ends⟩
      · next named =>
        refine ⟨rfl, Or.inr ⟨rest.reverse.map PathPart.text, part.text, ?_, ?_⟩⟩
        · rw [List.reverse_cons, List.map_append, List.map_singleton]
        · rw [Place.isDots, Bool.or_eq_false_iff, beq_eq_false_iff_ne (a := part.text) (b := "..")]
          exact ⟨Bool.eq_false_iff.mpr named, Ne.symm down.1⟩

/-- A place that ends in a name is written in a place that does so, unless nothing is missing
on the way there. -/
theorem exists_parent? (written : place.parts = before ++ [last])
    (named : Place.isDots last = false) (down : ".." ∉ before)
    (missing : walk disk [] before = .error .missing) :
    ∃ parent front name, place.parent? = some parent ∧ parent.parts = front ++ [name] ∧
      Place.isDots name = false ∧ names parent.parts = names before ∧
      parent.parts.length ≤ before.length := by
  obtain ⟨reversed, above, rfl⟩ := exists_ofTrimmed written named
  have reversedDown : ".." ∉ reversed.map PathPart.text := by
    rwa [List.map_reverse, List.mem_reverse] at down
  rcases trimmed_cases reversedDown with ⟨same, dots | ⟨front, name, ends, nameNamed⟩⟩
  · rw [walk_of_trimmed_eq_nil dots] at missing
    contradiction
  · have some : Place.trimmed reversed ≠ [] := by
      intro none
      rw [none] at ends
      exact absurd ends.symm (List.append_ne_nil_of_right_ne_nil _ (List.cons_ne_nil _ _))
    have left : (Place.ofTrimmed place.absolute reversed).parts =
        (Place.trimmed reversed).reverse.map PathPart.text := by
      rw [Place.ofTrimmed, if_pos some]
      rfl
    refine ⟨_, front, name, above, left.trans ends, nameNamed, left ▸ same, ?_⟩
    rw [left, List.length_map, List.length_map, List.length_reverse, List.length_reverse]
    exact (List.dropWhile_sublist _).length_le

/-- The folders on a passable way are made. -/
theorem exists_makeFoldersWithin (fuel : Nat) (enough : place.parts.length ≤ fuel)
    (written : place.parts = before ++ [last]) (named : Place.isDots last = false)
    (clear : placeFault? place = none) (down : ".." ∉ place.parts)
    (passable : Passable disk (names place.parts)) :
    ∃ made, makeFoldersWithin fuel place disk = (.ok (), made) ∧
      HasFolder made (names place.parts) := by
  induction fuel generalizing place before last disk with
  | zero =>
      rw [written, List.length_append] at enough
      exact absurd enough (Nat.not_succ_le_zero _)
  | succ fuel ih =>
      have way : names place.parts = names before ++ [last] :=
        (congrArg names written).trans (names_concat named before)
      have beforeDown : ".." ∉ before := by
        intro member
        apply down
        rw [written]
        exact List.mem_append_left _ member
      rw [way] at passable ⊢
      have ensured {disk : Disk} (passable : Passable disk (names before ++ [last]))
          (walked : walk disk [] before = .ok (names before)) :=
        exists_ensureFolder written named clear walked passable.short_last
          (passable.free List.prefix_rfl)
      rw [makeFoldersWithin]
      rcases passable.of_append.walk_cases beforeDown (hasFolder_nil disk) with walked | missing
      · rcases ensured passable walked with ⟨made, outcome, there⟩
        rw [outcome]
        exact ⟨made, rfl, there⟩
      · rw [ensureFolder_of_error written clear missing]
        rcases exists_parent? written named beforeDown missing with
          ⟨parent, front, name, above, parentWritten, parentNamed, same, shorter⟩
        have continues := continues_parent? above
        obtain ⟨more, divided⟩ := continues.parts
        have parentEnough : parent.parts.length ≤ fuel := by
          rw [written, List.length_append] at enough
          exact Nat.le_trans shorter (Nat.le_of_succ_le_succ enough)
        have parentDown : ".." ∉ parent.parts := by
          intro member
          apply down
          rw [divided]
          exact List.mem_append_left _ member
        rcases ih parentEnough parentWritten parentNamed
          (continues.placeFault? clear) parentDown (same ▸ passable.of_append) with
          ⟨middle, outcome, there⟩
        have unchanged := (later_makeFoldersWithin fuel parentDown (Nat.le_refl _) disk).2
        rw [outcome] at unchanged
        rw [same] at there
        rcases ensured (passable.congr fun _ => congrFun unchanged _)
          (walk_of_hasFolder beforeDown there) with ⟨made, final, there⟩
        rw [above]
        dsimp only [Option.map]
        rw [outcome]
        dsimp only
        rw [final]
        exact ⟨made, rfl, there⟩

end Polystore.Disk
