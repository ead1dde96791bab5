import Polystore.Proofs.Disk.Order
import Polystore.Proofs.Store.Written

/-!
# The ids of a collection

The folder of a collection holds the files of its documents and nothing else, in the order of
their names.  So the ids that are listed are those of the documents that are kept, but for ids
that begin with a dot, and they stand in the order of the file names: an id that goes on behind
another one comes before it if what it goes on with comes before the extension.
-/

namespace Polystore

namespace FileStore

open Disk

variable {folder : Folder} {home : List String} {origin disk after : Disk}
  {collection id file : String} {store : FileStore}

/-! ## The files of a store -/

/-- Every file of a collection is that of a document which is accepted. -/
def Stocked (folder : Folder) (home : List String) (disk : Disk) : Prop :=
  ∀ collection file content, disk.files (home ++ [collection, file]) = some content →
    ∃ id, file = id ++ extension ∧ Accepts folder home disk collection id

/-- A pool of collections that was opened empty has no files in collections. -/
theorem stocked_of_bare (bare : ∀ name, ¬HasFolder disk (home ++ [name])) :
    Stocked folder home disk := by
  intro collection file content held
  have found := files_eq_some_iff.mp held
  rw [List.append_cons] at found
  exact absurd (hasFolder_of_look_append (List.cons_ne_nil _ _) found) (bare collection)

theorem Stocked.write (stocked : Stocked folder home disk) (isHome : folder.IsHome home disk)
    {names : List String} (placed : place collection id = .ok names) (content : List UInt8) :
    Stocked folder home (folder.writeAt names content disk).2 := by
  have written : (folder.writeAt names content disk).1 = .ok () →
      Accepts folder home disk collection id :=
    accepts_of_writeAt isHome placed
  rcases place_eq_ok placed with ⟨rfl, collectionNamed⟩
  have fileNamed := isDots_append_extension id
  have reworked := Folder.reworked_writeAt isHome collectionNamed fileNamed content
  obtain ⟨result, left, outcome, -, ⟨rfl, -, files⟩ | ⟨cause, -, files⟩⟩ :=
    Folder.writeAt_cases isHome collectionNamed fileNamed content
  · rw [outcome] at reworked written ⊢
    intro other name bytes held
    by_cases same : home ++ [other, name] = home ++ [collection, id ++ extension]
    · cases List.append_cancel_left same
      exact ⟨id, rfl, (Accepts.iff_of_reworked reworked).mpr (written rfl)⟩
    · rw [files, Function.update_of_ne same] at held
      obtain ⟨other, rfl, accepts⟩ := stocked _ _ _ held
      exact ⟨other, rfl, (Accepts.iff_of_reworked reworked).mpr accepts⟩
  · rw [outcome] at reworked ⊢
    intro other name bytes held
    rw [files] at held
    obtain ⟨other, rfl, accepts⟩ := stocked _ _ _ held
    exact ⟨other, rfl, (Accepts.iff_of_reworked reworked).mpr accepts⟩

theorem Stocked.delete (stocked : Stocked folder home disk) (isHome : folder.IsHome home disk)
    {names : List String} (placed : place collection id = .ok names) :
    Stocked folder home (folder.deleteAt names disk).2 := by
  rcases place_eq_ok placed with ⟨rfl, collectionNamed⟩
  have reworked := Folder.reworked_deleteAt isHome collectionNamed (id ++ extension)
  obtain ⟨result, left, outcome, ⟨-, -, files⟩ | ⟨cause, -, rfl⟩⟩ :=
    Folder.deleteAt_cases isHome collectionNamed (id ++ extension)
  · rw [outcome] at reworked ⊢
    intro other name bytes held
    by_cases same : home ++ [other, name] = home ++ [collection, id ++ extension]
    · rw [files, same, Function.update_self] at held
      contradiction
    · rw [files, Function.update_of_ne same] at held
      obtain ⟨other, rfl, accepts⟩ := stocked _ _ _ held
      exact ⟨other, rfl, (Accepts.iff_of_reworked reworked).mpr accepts⟩
  · rw [outcome]
    exact stocked

theorem Edited.stocked (edited : Edited folder disk after) (isHome : folder.IsHome home disk)
    (stocked : Stocked folder home disk) : Stocked folder home after := by
  induction edited with
  | refl => exact stocked
  | write edited placed content ih =>
      exact ih.write (isHome.later (edited.reworked isHome).later) placed content
  | delete edited placed ih =>
      exact ih.delete (isHome.later (edited.reworked isHome).later) placed

theorem Edited.orderedAt {path : List String} (edited : Edited folder disk after)
    (ordered : OrderedAt path disk) : OrderedAt path after := by
  induction edited with
  | refl => exact ordered
  | write edited placed content ih => exact Folder.orderedAt_writeAt ih _ content
  | delete edited placed ih => exact Folder.orderedAt_deleteAt ih _

/-- What holds of the disk of a store after any run on an empty pool. -/
structure Arranged (store : FileStore) (home : List String) (origin : Disk) : Prop where
  shelved : store.Shelved home origin
  stocked : Stocked store.folder home store.disk
  ordered : ∀ collection, OrderedAt (home ++ [collection]) store.disk

theorem Shelved.arranged {later : FileStore} (shelved : store.Shelved home store.disk)
    (edited : store.EditedTo later) : later.Arranged home store.disk := by
  have isHome := Folder.Shelved.isHome shelved
  rcases later with ⟨folder, disk⟩
  obtain ⟨rfl, changes⟩ := edited
  refine ⟨shelved.edited ⟨rfl, changes⟩, changes.stocked isHome (stocked_of_bare shelved.bare), ?_⟩
  intro collection
  exact changes.orderedAt (orderedAt_of_not_hasFolder (shelved.bare collection))

/-! ## Documents that are kept -/

/-- A document is kept under an id: it is returned, or there is one that cannot be read. -/
def Keeps (collection id : String) (store : FileStore) : Prop :=
  (get collection id store).isOk = true ∨ get collection id store = .error .malformed

/-- A document is kept exactly if it has a file. -/
theorem Arranged.keeps_iff (arranged : store.Arranged home origin) (collection id : String) :
    Keeps collection id store ↔
      ∃ content, store.disk.files (home ++ [collection, id ++ extension]) = some content := by
  have isHome := Folder.Shelved.isHome arranged.shelved
  rw [Keeps, get]
  constructor
  · cases placed : place collection id with
    | error cause =>
        rw [place] at placed
        split at placed
        · cases placed
          rintro (read | unread)
          · contradiction
          · cases unread
        · contradiction
    | ok names =>
        rcases place_eq_ok placed with ⟨rfl, collectionNamed⟩
        dsimp only [Except.bind]
        rw [Folder.readAt]
        cases read : Disk.readFile (store.folder.place [collection, id ++ extension])
            store.disk with
        | error fault =>
            rintro (found | unread)
            · contradiction
            · cases unread
        | ok content =>
            intro _
            exact ⟨content, ((Folder.readFile_eq_ok_iff isHome collectionNamed
              (isDots_append_extension id) content).mp read).2⟩
  · rintro ⟨content, held⟩
    obtain ⟨other, same, accepts⟩ := arranged.stocked _ _ _ held
    cases String.append_left_inj extension |>.mp same
    rw [accepts.place]
    dsimp only [Except.bind]
    rw [readAt_of_writable isHome (isDots_of_isName accepts.collectionNamed)
      (isDots_append_extension id) accepts.writable, held]
    dsimp only
    rw [decode]
    split
    · exact Or.inl rfl
    · exact Or.inr rfl

/-! ## Names of files -/

theorem idOfFile?_eq_some_iff {name : String} :
    idOfFile? name = some id ↔ name = id ++ extension := by
  have five : extension.length = extension.toList.length := rfl
  rw [idOfFile?]
  constructor
  · intro read
    split at read
    · next ends =>
      cases read
      have whole := List.take_append_drop (name.toList.length - extension.length) name.toList
      rw [ends] at whole
      rw [← String.toList_inj, String.toList_append, String.toList_ofList]
      exact whole.symm
    · contradiction
  · rintro rfl
    have cut : (id ++ extension).toList.length - extension.length = id.toList.length := by
      rw [String.toList_append, List.length_append, five]
      exact Nat.add_sub_cancel _ _
    rw [cut, String.toList_append, List.drop_left, List.take_left, if_pos rfl,
      String.ofList_toList]

/-- The ids in names of document files give those names back. -/
theorem map_filterMap_idOfFile? {names : List String}
    (ofDocuments : ∀ name ∈ names, ∃ id, name = id ++ extension) :
    (names.filterMap idOfFile?).map (· ++ extension) = names := by
  induction names with
  | nil => rfl
  | cons name rest ih =>
      rw [List.forall_mem_cons] at ofDocuments
      obtain ⟨⟨id, same⟩, others⟩ := ofDocuments
      rw [List.filterMap_cons_some (idOfFile?_eq_some_iff.mpr same), List.map_cons, ih others, same]

/-! ## Order -/

/-- A text that comes before another one begins it, or comes before it whatever follows. -/
theorem lt_cases {left right : List Char} (before : left < right) :
    (∃ more, more ≠ [] ∧ right = left ++ more) ∨
      ∀ behind follows, left ++ behind < right ++ follows := by
  induction left generalizing right with
  | nil =>
      apply Or.inl
      refine ⟨right, ?_, rfl⟩
      rintro rfl
      exact absurd before (Std.lt_irrefl)
  | cons first rest ih =>
      cases right with
      | nil => exact absurd before (List.not_lt_nil _)
      | cons other others =>
          rw [List.cons_lt_cons_iff] at before
          rcases before with smaller | ⟨rfl, later⟩
          · apply Or.inr
            intro behind follows
            exact List.cons_lt_cons_iff.mpr (Or.inl smaller)
          · rcases ih later with ⟨more, nonempty, rfl⟩ | apart
            · exact Or.inl ⟨more, nonempty, rfl⟩
            · apply Or.inr
              intro behind follows
              exact List.cons_lt_cons_iff.mpr (Or.inr ⟨rfl, apart behind follows⟩)

theorem append_lt_append_iff (front left right : String) :
    front ++ left < front ++ right ↔ left < right := by
  rw [String.lt_iff, String.lt_iff, String.toList_append, String.toList_append]
  induction front.toList with
  | nil => exact Iff.rfl
  | cons first rest ih =>
      rw [List.cons_append, List.cons_append, List.cons_lt_cons_iff, ih]
      exact ⟨fun either => either.elim (fun less => absurd less (Std.lt_irrefl)) And.right,
        fun less => Or.inr ⟨rfl, less⟩⟩

theorem empty_lt {text : String} (nonempty : text ≠ "") : "" < text := by
  rw [String.lt_iff]
  cases letters : text.toList with
  | nil => exact absurd (String.toList_eq_nil_iff.mp letters) nonempty
  | cons first rest => exact List.nil_lt_cons first rest

/-- Ids in the order of their file names are in their own order, unless one goes on behind
another with a text that comes before the extension. -/
theorem pairwise_iff {ids : List String}
    (named : (ids.map (· ++ extension)).Pairwise (· < ·)) :
    ids.Pairwise (· < ·) ↔
      ∀ id ∈ ids, ∀ more, id ++ more ∈ ids → more ≠ "" → extension < more ++ extension := by
  rw [List.pairwise_map] at named
  constructor
  · intro ordered id member more longer nonempty
    let Alike (left right : String) : Prop := left < right → left ++ extension < right ++ extension
    have alike : ids.Pairwise fun left right => Alike left right ∧ Alike right left := by
      refine (named.and ordered).imp ?_
      rintro left right ⟨files, before⟩
      exact ⟨fun _ => files, fun behind => absurd behind (String.lt_asymm before)⟩
    have : Std.Symm fun left right => Alike left right ∧ Alike right left :=
      ⟨fun _ _ both => both.symm⟩
    have goesOn : id < id ++ more := by
      have further := (append_lt_append_iff id "" more).mpr (empty_lt nonempty)
      rwa [String.append_empty] at further
    have files := (alike.forall member longer (Std.ne_of_lt goesOn)).1 goesOn
    rwa [String.append_assoc, append_lt_append_iff] at files
  · intro follow
    refine named.imp_of_mem ?_
    intro left right leftMember rightMember files
    rcases Std.lt_trichotomy left right with before | rfl | behind
    · exact before
    · exact absurd files Std.lt_irrefl
    · refine absurd files (String.lt_asymm ?_)
      rcases lt_cases (String.lt_iff.mp behind) with ⟨more, nonempty, whole⟩ | apart
      · have same : left = right ++ String.ofList more := by
          rw [← String.toList_inj, String.toList_append, String.toList_ofList]
          exact whole
        subst same
        rw [String.append_assoc, append_lt_append_iff]
        refine follow right rightMember _ leftMember ?_
        intro empty
        exact nonempty (String.ofList_eq_empty_iff.mp empty)
      · rw [String.lt_iff, String.toList_append, String.toList_append]
        exact apart _ _

/-! ## Listings -/

/-- The folder of a collection can be looked up. -/
def Reachable (folder : Folder) (collection : String) : Prop :=
  placeFault? (folder.place [collection]) = none ∧ tooLong collection = false

instance (folder : Folder) (collection : String) : Decidable (Reachable folder collection) :=
  inferInstanceAs (Decidable (_ ∧ _))

/-- What lies at the place of a collection is what its name leads to from the root. -/
theorem Arranged.fileNames (arranged : store.Arranged home origin)
    (collectionNamed : Place.isDots collection = false) :
    Disk.fileNames (store.folder.place [collection]) store.disk =
      match placeFault? (store.folder.place [collection]) with
      | some fault => .error fault
      | none =>
          if tooLong collection then .error .nameTooLong
          else
            match look (home ++ [collection]) store.disk with
            | some (.folder entries) => .ok (fileNamesIn entries)
            | _ => .error .missing := by
  have rooted := Folder.Shelved.hasFolder arranged.shelved
  rw [Disk.fileNames, entry_eq (Folder.parts_place store.folder collection []) collectionNamed
    (Folder.slash_place _ _ _), Folder.Shelved.walk arranged.shelved, checked]
  cases placeFault? (store.folder.place [collection]) with
  | some fault => rfl
  | none =>
      dsimp only [Except.bind]
      cases long : tooLong collection with
      | true =>
          obtain ⟨entries, found⟩ := rooted
          rw [find_append home (List.cons_ne_nil _ _), find_eq_ok_iff.mpr found]
          dsimp only [Except.bind]
          rw [find, if_pos long]
          rfl
      | false =>
          rw [find_of_short rooted long, if_neg Bool.false_ne_true]
          cases found : look (home ++ [collection]) store.disk with
          | none => rfl
          | some entry =>
              cases entry with
              | folder entries => rfl
              | file content =>
                  have held := files_eq_some_iff.mpr found
                  rw [arranged.shelved.collections] at held
                  contradiction

/-- A collection that can be looked up lists the files in its folder, if there is one. -/
theorem Arranged.exists_list (arranged : store.Arranged home origin)
    (named : isName collection = true) (reachable : Reachable store.folder collection) :
    ∃ files, store.folder.list ("/" ++ collection) store.disk = .ok files ∧
      files.Pairwise (· < ·) ∧ ∀ file, file ∈ files ↔ file.toList.head? ≠ some '.' ∧
        ∃ content, store.disk.files (home ++ [collection, file]) = some content := by
  have names := arranged.fileNames (isDots_of_isName named)
  rw [reachable.1, reachable.2] at names
  dsimp only at names
  rw [if_neg Bool.false_ne_true] at names
  rw [Folder.list, resolve_of_isName named]
  dsimp only [Except.bind]
  rw [names]
  have split (file : String) : home ++ [collection, file] = (home ++ [collection]) ++ [file] :=
    List.append_cons home collection [file]
  by_cases there : HasFolder store.disk (home ++ [collection])
  · obtain ⟨entries, found⟩ := there
    have ordered := arranged.ordered collection entries found
    rw [found]
    refine ⟨_, rfl, ordered.pairwise_fileNamesIn.sublist List.filter_sublist, ?_⟩
    intro file
    rw [List.mem_filter, ordered.mem_fileNamesIn_iff, decide_eq_true_iff, and_comm]
    apply and_congr_right
    intro _
    apply exists_congr
    intro content
    rw [files_eq_some_iff, split, look_append, found, Option.bind_some, Entry.look]
  · have nothing (file : String) : store.disk.files (home ++ [collection, file]) = none := by
      rw [Option.eq_none_iff_forall_ne_some]
      intro content held
      have led := files_eq_some_iff.mp held
      rw [split] at led
      exact there (hasFolder_of_look_append (List.cons_ne_nil _ _) led)
    refine ⟨[], ?_, List.Pairwise.nil, ?_⟩
    · split
      · next listed =>
        split at listed
        · next entries found => exact absurd ⟨entries, found⟩ there
        · contradiction
      · rfl
      · next other listed =>
        split at listed
        · contradiction
        · exact absurd (Except.error.inj listed).symm other
    · intro file
      simp [nothing]

/-- A collection that cannot be looked up is not listed. -/
theorem Arranged.ids_of_not_reachable (arranged : store.Arranged home origin)
    (named : isName collection = true) (beyond : ¬Reachable store.folder collection) :
    ∃ fault, ids collection store = .error (.file fault) := by
  have names := arranged.fileNames (isDots_of_isName named)
  rw [ids, Folder.list, resolve_of_isName named]
  dsimp only [Except.bind]
  cases clear : placeFault? (store.folder.place [collection]) with
  | some fault =>
      rw [clear] at names
      rw [names]
      refine ⟨fault, ?_⟩
      split
      · next listed => cases listed
      · next listed => exact absurd (Except.error.inj listed) (ne_missing_of_placeFault? clear)
      · next other listed =>
        cases listed
        rfl
  | none =>
      cases long : tooLong collection with
      | false => exact absurd ⟨clear, long⟩ beyond
      | true =>
          rw [clear, long] at names
          rw [names]
          exact ⟨.nameTooLong, rfl⟩

theorem Arranged.reachable_of_keeps (arranged : store.Arranged home origin)
    (keeps : Keeps collection id store) : Reachable store.folder collection := by
  obtain ⟨content, held⟩ := (arranged.keeps_iff collection id).mp keeps
  obtain ⟨other, -, accepts⟩ := arranged.stocked _ _ _ held
  have found := files_eq_some_iff.mp held
  rw [List.append_cons] at found
  obtain ⟨entries, there⟩ := hasFolder_of_look_append (List.cons_ne_nil _ _) found
  exact ⟨Folder.placeFault?_collection accepts.writable.clear, not_tooLong_of_look there⟩

/-- The file of a document begins with a dot exactly if its id does. -/
theorem head?_append_extension (nonempty : id ≠ "") :
    (id ++ extension).toList.head? = id.toList.head? := by
  rw [String.toList_append]
  cases letters : id.toList with
  | nil => exact absurd (String.toList_eq_nil_iff.mp letters) nonempty
  | cons first rest => rfl

/-- The ids that are listed are those under which a document is kept, but for ids that begin with
a dot, and they stand in the order of their files. -/
theorem Arranged.exists_ids (arranged : store.Arranged home origin)
    (named : isName collection = true) (reachable : Reachable store.folder collection) :
    ∃ found, ids collection store = .ok found ∧
      (∀ id, id ∈ found ↔ id.toList.head? ≠ some '.' ∧ Keeps collection id store) ∧
      (found.map (· ++ extension)).Pairwise (· < ·) := by
  obtain ⟨files, listed, ordered, complete⟩ := arranged.exists_list named reachable
  have ofDocuments : ∀ file ∈ files, ∃ id, file = id ++ extension := by
    intro file member
    obtain ⟨-, content, held⟩ := (complete file).mp member
    obtain ⟨id, same, -⟩ := arranged.stocked _ _ _ held
    exact ⟨id, same⟩
  refine ⟨files.filterMap idOfFile?, ?_, ?_, ?_⟩
  · rw [ids, listed]
    rfl
  · intro id
    have member : id ∈ files.filterMap idOfFile? ↔ id ++ extension ∈ files := by
      rw [List.mem_filterMap]
      constructor
      · rintro ⟨file, member, read⟩
        rwa [idOfFile?_eq_some_iff.mp read] at member
      · intro member
        exact ⟨_, member, idOfFile?_eq_some_iff.mpr rfl⟩
    rw [member, complete, arranged.keeps_iff]
    apply and_congr_left
    rintro ⟨content, held⟩
    obtain ⟨other, same, accepts⟩ := arranged.stocked _ _ _ held
    cases String.append_left_inj extension |>.mp same
    have nonempty : id ≠ "" := by
      rintro rfl
      exact absurd accepts.idNamed (by decide)
    rw [head?_append_extension nonempty]
  · rw [map_filterMap_idOfFile? ofDocuments]
    exact ordered

/-- After every run of puts, deletes and transactions on an empty root, the ids of a collection
are **exactly those under which a document is kept**, except for ids that begin with a dot, which
are hidden.  They stand in the order of their file names; that is their own order exactly if no id
goes on behind another one with a text that comes before the extension.  A collection whose name
the file system refuses is not listed, and keeps nothing. -/
theorem ids_list_visible_documents {client : Client FileStore}
    (opened : Folder.entryAt client.store.folder.text client.store.disk = .ok (.folder []))
    {steps : List ClientStep} (leave : ∀ step ∈ steps, step.collection? = none)
    {collection : String} (named : isName collection = true) :
    let store := (Client.runAll steps client).2.store
    (Reachable store.folder collection →
      ∃ found, ids collection store = .ok found ∧
        (∀ id, id ∈ found ↔ id.toList.head? ≠ some '.' ∧ Keeps collection id store) ∧
        (found.map (· ++ extension)).Pairwise (· < ·) ∧
        (found.Pairwise (· < ·) ↔ ∀ id ∈ found, ∀ more, id ++ more ∈ found → more ≠ "" →
          extension < more ++ extension)) ∧
      (¬Reachable store.folder collection →
        (∃ fault, ids collection store = .error (.file fault)) ∧
          ∀ id, ¬Keeps collection id store) := by
  intro store
  obtain ⟨home, shelved⟩ := Folder.exists_shelved opened
  have start : client.store.Shelved home client.store.disk := shelved
  have arranged : store.Arranged home client.store.disk :=
    start.arranged (EditedTo.runAll ⟨rfl, .refl⟩ leave)
  constructor
  · intro reachable
    obtain ⟨found, listed, complete, ordered⟩ := arranged.exists_ids named reachable
    exact ⟨found, listed, complete, ordered, pairwise_iff ordered⟩
  · intro beyond
    exact ⟨arranged.ids_of_not_reachable named beyond,
      fun id keeps => beyond (arranged.reachable_of_keeps keeps)⟩

/-- Two documents are put, one of them in a transaction, and a third is put and deleted. -/
theorem ids_of_two_documents :
    let client : Client FileStore := { store := ⟨⟨"/data"⟩, [("data", .folder [])]⟩ }
    let steps : List ClientStep := [.put "c" "b" (.object []), .put "c" "x" (.object []),
      .stagePut 0 "c" "a" (.object []), .commit 0, .delete "c" "x"]
    let store := (Client.runAll steps client).2.store
    (ids "c" store).toOption = some ["a", "b"] ∧
      ∀ id, id ∈ ["a", "b"] ↔ id.toList.head? ≠ some '.' ∧ Keeps "c" id store := by
  intro client steps store
  have opened : Folder.entryAt "/data" [("data", .folder [])] = .ok (.folder []) := rfl
  have leave : ∀ step ∈ steps, step.collection? = none := by decide
  have listed : (ids "c" store).toOption = some ["a", "b"] := by decide +kernel
  have reachable : Reachable store.folder "c" := by decide +kernel
  have named : isName "c" = true := by decide
  obtain ⟨found, again, complete, -⟩ :=
    (@ids_list_visible_documents client opened steps leave "c" named).1 reachable
  change ids "c" store = _ at again
  rw [again] at listed
  cases Option.some.inj listed
  exact ⟨congrArg Except.toOption again, complete⟩

/-- An id that begins with a dot is hidden though its document is kept, and an id that goes on
behind another one with a hyphen stands before it. -/
theorem ids_hidden_and_disordered :
    let client : Client FileStore := { store := ⟨⟨"/data"⟩, [("data", .folder [])]⟩ }
    let steps : List ClientStep := [.put "c" "a" (.object []), .put "c" "a-b" (.object []),
      .put "c" ".a" (.object [])]
    let store := (Client.runAll steps client).2.store
    (ids "c" store).toOption = some ["a-b", "a"] ∧ "a" < "a-b" ∧
      ∀ id ∈ ["a", "a-b", ".a"], (get "c" id store).isOk = true := by
  decide +kernel

end FileStore

end Polystore
