import Polystore.Disk.Folder
import Polystore.Proofs.Text.Cuts

/-!
# Paths in normal form

A path of a pool is resolved by its parts alone, without a look at the disk.  A part `..`
cancels the nearest name before it that is not cancelled yet, empty parts and single dots
stand for nothing, and what is left are plain names, which say where the path leads below the
root.  A path resolves unless some `..` finds no name to cancel.
-/

namespace Polystore

namespace Text

end Text

/-! ## Places as they are compared -/

namespace Place

/-- The parts of a place without those that lead nowhere else.  Only a relative place keeps a
single dot, at its beginning. -/
def steps (place : Place) : List String :=
  (place.parts.take 1).filter (fun part => part ≠ "." ∨ place.absolute = false) ++
    (place.parts.drop 1).filter (· ≠ ".")

/-- Places that are the same as they are written, however often slashes and single dots are
repeated. -/
def SameAs (place other : Place) : Prop :=
  place.absolute = other.absolute ∧ place.steps = other.steps

theorem steps_below {names : List String} (undotted : ∀ name ∈ names, name ≠ ".")
    (place : Place) : (place.below names).steps = place.steps ++ names := by
  have kept : names.filter (· ≠ ".") = names :=
    List.filter_eq_self.mpr fun name member => decide_eq_true (undotted name member)
  rw [steps, steps, parts_below, absolute_below]
  cases place.parts with
  | nil =>
      cases names with
      | nil => rfl
      | cons name more =>
          have first := undotted name List.mem_cons_self
          simpa [first] using kept
  | cons first rest =>
      rw [List.cons_append, List.take_succ_cons, List.take_zero, List.drop_succ_cons,
        List.drop_zero, List.filter_append, kept, ← List.append_assoc]
      rfl

/-- Below one place, different names lead to different places. -/
theorem sameAs_below_iff {names others : List String} (undotted : ∀ name ∈ names, name ≠ ".")
    (othersUndotted : ∀ name ∈ others, name ≠ ".") (place : Place) :
    (place.below names).SameAs (place.below others) ↔ names = others := by
  constructor
  · rintro ⟨-, same⟩
    rw [steps_below undotted, steps_below othersUndotted] at same
    exact List.append_cancel_left same
  · rintro rfl
    exact ⟨rfl, rfl⟩

/-! ## Names behind a text -/

theorem ofChars_slash (rest : List Char) : ofChars ('/' :: rest) = (ofChars rest).afterSlash :=
  if_pos rfl

theorem ofChars_cons_of_ne {c : Char} (other : c ≠ '/') (rest : List Char) :
    ofChars (c :: rest) = (ofChars rest).afterChar c :=
  if_neg other

theorem ofChars_ne_empty {letters : List Char} (some : letters ≠ []) : ofChars letters ≠ {} := by
  obtain ⟨c, rest, rfl⟩ := List.exists_cons_of_ne_nil some
  rw [ofChars]
  rcases ofChars rest with ⟨_ | ⟨⟨_ | slashes, text⟩, more⟩, closing⟩ <;> split
  all_goals simp [afterSlash, afterChar]

/-- Slashes in front of a text do not change what is written behind it. -/
theorem afterSlash_append {place : Place} (some : place ≠ {}) (name : String) :
    (place.append name).afterSlash = place.afterSlash.append name := by
  rcases place with ⟨_ | ⟨first, rest⟩, _ | closing⟩
  · contradiction
  · rfl
  · rfl
  · rfl

theorem afterChar_append {place : Place} (some : place ≠ {}) (c : Char) (name : String) :
    (place.append name).afterChar c = (place.afterChar c).append name := by
  rcases place with ⟨_ | ⟨⟨_ | slashes, text⟩, rest⟩, _ | closing⟩
  · contradiction
  · rfl
  · rfl
  · rfl
  · rfl
  · rfl

/-- Letters without a slash are one part. -/
theorem ofChars_of_not_mem {letters : List Char} (some : letters ≠ []) (plain : '/' ∉ letters) :
    ofChars letters = { written := [⟨0, String.ofList letters⟩] } := by
  induction letters with
  | nil => contradiction
  | cons c rest ih =>
      rw [List.mem_cons, not_or] at plain
      rw [ofChars_cons_of_ne (Ne.symm plain.1)]
      cases rest with
      | nil => rfl
      | cons d more =>
          have longer : String.singleton c ++ String.ofList (d :: more) =
              String.ofList (c :: d :: more) := by
            rw [String.singleton_eq_ofList, ← String.ofList_append, List.singleton_append]
          rw [ih (List.cons_ne_nil d more) plain.2, ← longer]
          rfl

/-- A name that is written behind letters, with a slash between them unless there is one, is
their last part. -/
theorem ofChars_append {letters name : List Char} (nonempty : letters ≠ []) (named : name ≠ [])
    (plain : '/' ∉ name) :
    ofChars (letters ++ if letters.getLast? = some '/' then name else '/' :: name) =
      (ofChars letters).append (String.ofList name) := by
  have last := ofChars_of_not_mem named plain
  induction letters with
  | nil => contradiction
  | cons c rest ih =>
      cases rest with
      | nil =>
          by_cases slash : c = '/'
          · subst slash
            rw [List.getLast?_singleton, if_pos rfl, List.singleton_append, ofChars_slash, last]
            rfl
          · rw [List.getLast?_singleton, if_neg fun same => slash (Option.some.inj same),
              List.singleton_append, ofChars_cons_of_ne slash, ofChars_slash, last,
              ofChars_cons_of_ne slash]
            rfl
      | cons d more =>
          have deeper := List.cons_ne_nil d more
          rw [List.getLast?_cons_cons, List.cons_append]
          by_cases slash : c = '/'
          · subst slash
            rw [ofChars_slash, ofChars_slash, ih deeper,
              afterSlash_append (ofChars_ne_empty deeper)]
          · rw [ofChars_cons_of_ne slash, ofChars_cons_of_ne slash, ih deeper,
              afterChar_append (ofChars_ne_empty deeper)]

end Place

namespace Folder

/-! ## Parts of paths -/

/-- The parts of a path. -/
def pathParts (path : String) : List (List Char) :=
  Text.pieces '/' path.toList

/-- A part that stands for nothing. -/
def IsIdle (part : List Char) : Prop :=
  part = [] ∨ part = ['.']

/-- The part that cancels a name. -/
def climb : List Char :=
  ['.', '.']

/-- A part that is a name. -/
def IsName (part : List Char) : Prop :=
  ¬IsIdle part ∧ part ≠ climb

instance : DecidablePred IsIdle := fun part =>
  inferInstanceAs (Decidable (part = [] ∨ part = ['.']))

instance : DecidablePred IsName := fun part =>
  inferInstanceAs (Decidable (¬IsIdle part ∧ part ≠ climb))

/-- The names that are left of some parts.  A part `..` cancels the nearest name before it that
is not cancelled yet, so nothing is left between the two. -/
inductive Leaves : (parts : List (List Char)) → (names : List String) → Prop where
  | done : Leaves [] []
  | skip {part : List Char} {rest : List (List Char)} {names : List String}
      (idle : IsIdle part) (later : Leaves rest names) : Leaves (part :: rest) names
  | keep {part : List Char} {rest : List (List Char)} {names : List String}
      (named : IsName part) (later : Leaves rest names) :
      Leaves (part :: rest) (String.ofList part :: names)
  | cancel {part : List Char} {between rest : List (List Char)} {names : List String}
      (named : IsName part) (nothing : Leaves between []) (later : Leaves rest names) :
      Leaves (part :: between ++ climb :: rest) names

variable {part : List Char} {parts rest : List (List Char)} {stack names : List String}

theorem not_isIdle_climb : ¬IsIdle climb := by
  decide

theorem not_isName_climb : ¬IsName climb := by
  decide

theorem ne_climb_of_isIdle (idle : IsIdle part) : part ≠ climb := by
  rintro rfl
  exact not_isIdle_climb idle

theorem not_isName_of_isIdle (idle : IsIdle part) : ¬IsName part :=
  fun named => named.1 idle

theorem part_cases (part : List Char) : IsIdle part ∨ part = climb ∨ IsName part := by
  by_cases idle : IsIdle part
  · exact Or.inl idle
  · by_cases up : part = climb
    · exact Or.inr (Or.inl up)
    · exact Or.inr (Or.inr ⟨idle, up⟩)

/-! ## Following parts -/

theorem normalize_cons (stack : List String) (part : List Char) (rest : List (List Char)) :
    normalize stack (part :: rest) =
      if IsIdle part then normalize stack rest
      else if part = climb then
        match stack with
        | [] => none
        | _ :: below => normalize below rest
      else normalize (String.ofList part :: stack) rest :=
  rfl

theorem normalize_idle (idle : IsIdle part) (stack : List String) (rest : List (List Char)) :
    normalize stack (part :: rest) = normalize stack rest := by
  rw [normalize_cons, if_pos idle]

theorem normalize_climb (top : String) (stack : List String) (rest : List (List Char)) :
    normalize (top :: stack) (climb :: rest) = normalize stack rest := by
  rw [normalize_cons, if_neg not_isIdle_climb, if_pos rfl]

theorem normalize_climb_nil (rest : List (List Char)) :
    normalize [] (climb :: rest) = none := by
  rw [normalize_cons, if_neg not_isIdle_climb, if_pos rfl]

theorem normalize_name (named : IsName part) (stack : List String) (rest : List (List Char)) :
    normalize stack (part :: rest) = normalize (String.ofList part :: stack) rest := by
  rw [normalize_cons, if_neg named.1, if_neg named.2]

namespace Leaves

/-- The names left of some parts are what following the parts puts on a stack. -/
theorem normalize_append (leaves : Leaves parts names) (stack : List String)
    (rest : List (List Char)) :
    normalize stack (parts ++ rest) = normalize (names.reverse ++ stack) rest := by
  induction leaves generalizing stack rest with
  | done => rfl
  | skip idle _ ih => rw [List.cons_append, normalize_idle idle, ih]
  | keep named _ ih =>
      rw [List.cons_append, normalize_name named, ih, List.reverse_cons, List.append_assoc,
        List.singleton_append]
  | cancel named _ _ ihNothing ihLater =>
      rw [List.append_assoc, List.cons_append, normalize_name named, ihNothing,
        List.reverse_nil, List.nil_append, List.cons_append, normalize_climb, ihLater]

theorem append {more : List (List Char)} {others : List String} (leaves : Leaves parts names)
    (moreLeaves : Leaves more others) : Leaves (parts ++ more) (names ++ others) := by
  induction leaves with
  | done => exact moreLeaves
  | skip idle _ ih => exact .skip idle ih
  | keep named _ ih => exact .keep named ih
  | cancel named nothing _ _ ih =>
      rw [List.append_assoc]
      exact .cancel named nothing ih

/-- Nothing is left behind the last name that is left. -/
theorem exists_last {last : String} (leaves : Leaves parts (names ++ [last])) :
    ∃ before part between, parts = before ++ part :: between ∧ IsName part ∧
      Leaves before names ∧ Leaves between [] := by
  generalize all : names ++ [last] = kept at leaves
  induction leaves generalizing names with
  | done => exact absurd all (List.concat_ne_nil last names)
  | skip idle _ ih =>
      obtain ⟨before, part, between, rfl, named, first, nothing⟩ := ih all
      exact ⟨_ :: before, part, between, rfl, named, .skip idle first, nothing⟩
  | @keep part rest _ named later ih =>
      cases names with
      | nil =>
          cases all
          exact ⟨[], part, rest, rfl, named, .done, later⟩
      | cons name more =>
          obtain ⟨rfl, rfl⟩ := List.cons.inj all
          obtain ⟨before, other, between, rfl, otherNamed, first, nothing⟩ := ih rfl
          exact ⟨part :: before, other, between, rfl, otherNamed, .keep named first, nothing⟩
  | cancel named nothing _ _ ih =>
      obtain ⟨before, part, between, rfl, otherNamed, first, last⟩ := ih all
      refine ⟨_, part, between, ?_, otherNamed, .cancel named nothing first, last⟩
      rw [List.append_assoc]
      rfl

/-- Every name that is left was a part. -/
theorem exists_part (leaves : Leaves parts names) :
    ∀ name ∈ names, ∃ part ∈ parts, IsName part ∧ name = String.ofList part := by
  induction leaves with
  | done =>
      intro name member
      contradiction
  | skip _ _ ih =>
      intro name member
      obtain ⟨part, listed, named⟩ := ih name member
      exact ⟨part, List.mem_cons_of_mem _ listed, named⟩
  | keep named _ ih =>
      intro name member
      rcases List.mem_cons.mp member with rfl | member
      · exact ⟨_, List.mem_cons_self, named, rfl⟩
      · obtain ⟨part, listed, named⟩ := ih name member
        exact ⟨part, List.mem_cons_of_mem _ listed, named⟩
  | cancel _ _ _ _ ih =>
      intro name member
      obtain ⟨part, listed, named⟩ := ih name member
      exact ⟨part, List.mem_append_right _ (List.mem_cons_of_mem _ listed), named⟩

end Leaves

/-- Following parts from the names that are left of others gives the names that are left of
all of them. -/
theorem leaves_of_normalize (stack : List String) {front : List (List Char)}
    (before : Leaves front stack.reverse)
    (normalized : normalize stack rest = some names) : Leaves (front ++ rest) names := by
  induction rest generalizing front stack with
  | nil =>
      cases normalized
      rwa [List.append_nil]
  | cons part rest ih =>
      rw [List.append_cons]
      rcases part_cases part with idle | rfl | named
      · rw [normalize_idle idle] at normalized
        have after := before.append (.skip idle .done)
        rw [List.append_nil] at after
        exact ih _ after normalized
      · cases stack with
        | nil =>
            rw [normalize_climb_nil] at normalized
            contradiction
        | cons top below =>
            -- The part cancels the last name that is left.
            rw [normalize_climb] at normalized
            rw [List.reverse_cons] at before
            obtain ⟨first, part, between, rfl, named, kept, nothing⟩ := before.exists_last
            have after := kept.append (.cancel named nothing .done)
            rw [List.append_nil, ← List.append_assoc] at after
            exact ih _ after normalized
      · rw [normalize_name named] at normalized
        apply ih _ _ normalized
        rw [List.reverse_cons]
        exact before.append (.keep named .done)

theorem normalize_eq_some_iff : normalize [] parts = some names ↔ Leaves parts names := by
  constructor
  · exact leaves_of_normalize [] .done
  · intro leaves
    have followed := leaves.normalize_append [] []
    rwa [List.append_nil, List.append_nil, normalize, List.reverse_reverse] at followed

/-- No prefix of some parts holds more parts `..` than names, if so many names stand before. -/
def StaysBelow (depth : Nat) (parts : List (List Char)) : Prop :=
  ∀ front, front <+: parts → front.count climb ≤ front.countP (fun part => IsName part) + depth

theorem staysBelow_cons_iff {depth : Nat} : StaysBelow depth (part :: rest) ↔
    ∀ front, front <+: rest → (part :: front).count climb ≤
      (part :: front).countP (fun part => IsName part) + depth := by
  constructor
  · exact fun all front leading => all _ (List.cons_prefix_cons.mpr ⟨rfl, leading⟩)
  · intro all front leading
    rcases List.prefix_cons_iff.mp leading with rfl | ⟨tail, rfl, shorter⟩
    · exact Nat.zero_le _
    · exact all tail shorter

theorem staysBelow_idle_iff {depth : Nat} (idle : IsIdle part) :
    StaysBelow depth (part :: rest) ↔ StaysBelow depth rest := by
  refine staysBelow_cons_iff.trans (forall₂_congr fun front _ => ?_)
  simp [ne_climb_of_isIdle idle, not_isName_of_isIdle idle]

theorem staysBelow_name_iff {depth : Nat} (named : IsName part) :
    StaysBelow depth (part :: rest) ↔ StaysBelow (depth + 1) rest := by
  refine staysBelow_cons_iff.trans (forall₂_congr fun front _ => ?_)
  simp [named, named.2, Nat.add_right_comm, Nat.add_assoc]

theorem staysBelow_climb_iff {depth : Nat} :
    StaysBelow (depth + 1) (climb :: rest) ↔ StaysBelow depth rest := by
  refine staysBelow_cons_iff.trans (forall₂_congr fun front _ => ?_)
  simp [not_isName_climb, ← Nat.add_assoc]

theorem not_staysBelow_climb : ¬StaysBelow 0 (climb :: rest) := by
  intro stays
  have first := stays [climb] (List.cons_prefix_cons.mpr ⟨rfl, List.nil_prefix⟩)
  simp [not_isName_climb] at first

/-- Parts can be followed unless some part `..` finds no name to cancel, neither among the parts
before it nor on the stack. -/
theorem exists_normalize_iff :
    (∃ names, normalize stack parts = some names) ↔ StaysBelow stack.length parts := by
  induction parts generalizing stack with
  | nil =>
      apply iff_of_true ⟨_, rfl⟩
      intro front leading
      rw [List.prefix_nil.mp leading]
      exact Nat.zero_le _
  | cons part rest ih =>
      rcases part_cases part with idle | rfl | named
      · rw [normalize_idle idle, ih, staysBelow_idle_iff idle]
      · cases stack with
        | nil =>
            rw [normalize_climb_nil]
            exact iff_of_false nofun not_staysBelow_climb
        | cons top below => rw [normalize_climb, ih, List.length_cons, staysBelow_climb_iff]
      · rw [normalize_name named, ih, List.length_cons, staysBelow_name_iff named]

/-! ## Resolving -/

theorem resolve_of_head? {path : String} (rooted : path.toList.head? = some '/') :
    resolve path =
      match normalize [] (pathParts path) with
      | some names => .ok names
      | none => .error (.pathEscapes path) := by
  obtain ⟨relative, written⟩ := List.head?_eq_some_iff.mp rooted
  rw [pathParts, resolve, written, Text.pieces, if_pos rfl, normalize_idle (Or.inl rfl)]
  rfl

theorem head?_of_resolve {path : String} (resolved : resolve path = .ok names) :
    path.toList.head? = some '/' := by
  rw [resolve] at resolved
  split at resolved
  · next relative written => rw [written, List.head?_cons]
  · contradiction

/-- A path resolves to the names that are left of its parts. -/
theorem resolve_eq_ok_iff {path : String} :
    resolve path = .ok names ↔ path.toList.head? = some '/' ∧ Leaves (pathParts path) names := by
  constructor
  · intro resolved
    have rooted := head?_of_resolve resolved
    rw [resolve_of_head? rooted] at resolved
    split at resolved
    · next normalized =>
      cases resolved
      exact ⟨rooted, normalize_eq_some_iff.mp normalized⟩
    · contradiction
  · rintro ⟨rooted, leaves⟩
    rw [resolve_of_head? rooted, normalize_eq_some_iff.mpr leaves]

theorem exists_resolve_iff {path : String} :
    (∃ names, resolve path = .ok names) ↔
      path.toList.head? = some '/' ∧ StaysBelow 0 (pathParts path) := by
  simp only [resolve_eq_ok_iff, ← normalize_eq_some_iff, exists_and_left, exists_normalize_iff,
    List.length_nil]

/-- A name that leads one place further down, wherever it is written. -/
structure IsPlain (name : String) : Prop where
  ne_empty : name ≠ ""
  ne_dot : name ≠ "."
  ne_dots : name ≠ ".."
  no_slash : '/' ∉ name.toList

theorem isName_of_isPlain {name : String} (plain : IsPlain name) : IsName name.toList := by
  refine ⟨?_, ?_⟩
  · rintro (empty | dot)
    · exact plain.ne_empty (String.toList_injective empty)
    · exact plain.ne_dot (String.toList_injective dot)
  · exact fun dots => plain.ne_dots (String.toList_injective dots)

/-- The names that are left are plain ones. -/
theorem isPlain_of_resolve {path : String} (resolved : resolve path = .ok names) :
    ∀ name ∈ names, IsPlain name := by
  intro name member
  obtain ⟨part, listed, named, rfl⟩ :=
    (resolve_eq_ok_iff.mp resolved).2.exists_part name member
  constructor
  · exact fun empty => named.1 (Or.inl (String.ofList_injective empty))
  · exact fun dot => named.1 (Or.inr (String.ofList_injective dot))
  · exact fun dots => named.2 (String.ofList_injective dots)
  · rw [String.toList_ofList]
    exact Text.not_mem_of_mem_pieces listed

/-- The path in which some names are written one after the other. -/
def plainPath (names : List String) : String :=
  String.ofList ('/' :: Text.join ['/'] (names.map String.toList))

theorem leaves_plain (plain : ∀ name ∈ names, IsPlain name) :
    Leaves (names.map String.toList) names := by
  induction names with
  | nil => exact .done
  | cons name more ih =>
      rw [List.forall_mem_cons] at plain
      have kept := Leaves.keep (isName_of_isPlain plain.1) (ih plain.2)
      rwa [String.ofList_toList] at kept

/-- Plain names are what is left of the path in which they are written. -/
theorem resolve_plainPath (plain : ∀ name ∈ names, IsPlain name) :
    resolve (plainPath names) = .ok names := by
  rw [resolve_eq_ok_iff, pathParts, plainPath, String.toList_ofList]
  refine ⟨rfl, ?_⟩
  rw [Text.pieces, if_pos rfl]
  apply Leaves.skip (Or.inl rfl)
  by_cases none : names = []
  · subst none
    exact .skip (Or.inl rfl) .done
  · rw [Text.pieces_join (by rwa [ne_eq, List.map_eq_nil_iff])]
    · exact leaves_plain plain
    · intro text listed
      obtain ⟨name, member, rfl⟩ := List.mem_map.mp listed
      exact (plain name member).no_slash

/-! ## What a path is resolved to -/

/-- The path on the disk that a path of the pool resolves to. -/
def resolved (folder : Folder) (path : String) : Except Error String :=
  (resolve path).map folder.display

theorem resolved_eq_ok_iff {folder : Folder} {path text : String} :
    folder.resolved path = .ok text ↔
      ∃ names, resolve path = .ok names ∧ folder.display names = text := by
  rw [resolved]
  cases resolve path with
  | error cause => exact iff_of_false nofun nofun
  | ok names =>
      constructor
      · intro same
        exact ⟨names, rfl, Except.ok.inj same⟩
      · rintro ⟨_, ⟨⟩, rfl⟩
        rfl

namespace IsPlain

variable {name : String} (plain : IsPlain name)

include plain

theorem toList_ne_nil : name.toList ≠ [] :=
  fun empty => plain.ne_empty (String.toList_injective empty)

theorem isDots : Place.isDots name = false := by
  rw [Place.isDots, Bool.or_eq_false_iff, beq_eq_false_iff_ne, beq_eq_false_iff_ne]
  exact ⟨plain.ne_dot, plain.ne_dots⟩

end IsPlain

/-- A name that is written behind a path leads one place further down. -/
theorem ofText_joinName (text : String) {name : String} (plain : IsPlain name) :
    Place.ofText (joinName text name) = (Place.ofText text).append name := by
  by_cases empty : text = ""
  · subst empty
    rw [joinName, if_pos (Or.inl rfl), String.empty_append, Place.ofText,
      Place.ofChars_of_not_mem plain.toList_ne_nil plain.no_slash, String.ofList_toList]
    rfl
  · have nonempty : text.toList ≠ [] := fun none => empty (String.toList_injective none)
    have joined := Place.ofChars_append nonempty plain.toList_ne_nil plain.no_slash
    rw [String.ofList_toList] at joined
    rw [Place.ofText, Place.ofText, ← joined, joinName]
    by_cases closed : text.toList.getLast? = some '/'
    · rw [if_pos (Or.inr closed), if_pos closed, String.toList_append]
    · rw [if_neg (not_or.mpr ⟨empty, closed⟩), if_neg closed, String.toList_append,
        String.toList_append, List.append_assoc]
      exact rfl

theorem ofText_foldl_joinName (plain : ∀ name ∈ names, IsPlain name) (text : String) :
    Place.ofText (names.foldl joinName text) = (Place.ofText text).below names := by
  induction names generalizing text with
  | nil => rfl
  | cons name more ih =>
      rw [List.forall_mem_cons] at plain
      rw [List.foldl_cons, ih plain.2, ofText_joinName text plain.1, Place.below_cons]

/-- The path that is written from plain names leads to their place. -/
theorem ofText_display (folder : Folder) (plain : ∀ name ∈ names, IsPlain name) :
    Place.ofText (folder.display names) = folder.place names :=
  ofText_foldl_joinName plain folder.text

/-- A path resolves if it begins with a slash and no prefix of its parts holds more parts `..`
than names.  It leads from the root along the names that are left once every part `..` has
cancelled the nearest name before it.  These are plain names, and the path in which they are
written resolves alike.  Two paths resolve alike, be it to the same text or to the same place,
exactly if the same names are left of them. -/
theorem resolved_by_names_left (folder : Folder) (path : String) :
    ((∃ text, folder.resolved path = .ok text) ↔
      path.toList.head? = some '/' ∧
        ∀ front, front <+: pathParts path →
          front.count climb ≤ front.countP (fun part => IsName part)) ∧
    ∀ text, folder.resolved path = .ok text → ∃ names,
      (∀ left, Leaves (pathParts path) left ↔ left = names) ∧
      (∀ name ∈ names, IsPlain name) ∧
      text = folder.display names ∧ Place.ofText text = folder.place names ∧
      folder.resolved (plainPath names) = .ok text ∧
      ∀ other otherText others, folder.resolved other = .ok otherText →
        Leaves (pathParts other) others →
        (text = otherText ↔ names = others) ∧
          ((Place.ofText text).SameAs (Place.ofText otherText) ↔ names = others) := by
  constructor
  · have resolves : (∃ text, folder.resolved path = .ok text) ↔
        ∃ names, resolve path = .ok names := by
      simp only [resolved_eq_ok_iff]
      rw [exists_comm]
      simp
    exact resolves.trans exists_resolve_iff
  · intro text found
    obtain ⟨names, resolves, rfl⟩ := resolved_eq_ok_iff.mp found
    have rooted := head?_of_resolve resolves
    have plain := isPlain_of_resolve resolves
    refine ⟨names, fun left => ?_, plain, rfl, folder.ofText_display plain,
      resolved_eq_ok_iff.mpr ⟨names, resolve_plainPath plain, rfl⟩, ?_⟩
    · constructor
      · intro leaves
        have again := resolve_eq_ok_iff.mpr ⟨rooted, leaves⟩
        exact Except.ok.inj (again.symm.trans resolves)
      · rintro rfl
        exact (resolve_eq_ok_iff.mp resolves).2
    · intro other otherText others otherFound otherLeaves
      obtain ⟨otherNames, otherResolves, rfl⟩ := resolved_eq_ok_iff.mp otherFound
      have otherPlain := isPlain_of_resolve otherResolves
      have same : otherNames = others := by
        have again := resolve_eq_ok_iff.mpr ⟨head?_of_resolve otherResolves, otherLeaves⟩
        exact Except.ok.inj (otherResolves.symm.trans again)
      subst same
      have placed : (Place.ofText (folder.display names)).SameAs
          (Place.ofText (folder.display otherNames)) ↔ names = otherNames := by
        rw [folder.ofText_display plain, folder.ofText_display otherPlain]
        exact Place.sameAs_below_iff (fun name member => (plain name member).ne_dot)
          (fun name member => (otherPlain name member).ne_dot) _
      refine ⟨⟨?_, congrArg folder.display⟩, placed⟩
      intro written
      exact placed.mp (written ▸ ⟨rfl, rfl⟩)

/-- Two spellings of one path, with names to cancel in both. -/
theorem resolved_alike :
    let folder : Folder := ⟨"/r"⟩
    let path := "/a/./b/../..//c/d"
    let other := "/c/e/../d/"
    folder.resolved path = .ok "/r/c/d" ∧ folder.resolved other = .ok "/r/c/d" ∧
      Leaves (pathParts path) ["c", "d"] ∧ Leaves (pathParts other) ["c", "d"] ∧
      folder.resolved (plainPath ["c", "d"]) = .ok "/r/c/d" ∧
      (Place.ofText "/r/c/d").SameAs (Place.ofText "/r/c/d") := by
  intro folder path other
  have leaves : Leaves (pathParts path) ["c", "d"] := normalize_eq_some_iff.mp (by decide +kernel)
  have otherLeaves : Leaves (pathParts other) ["c", "d"] :=
    normalize_eq_some_iff.mp (by decide +kernel)
  have written : folder.display ["c", "d"] = "/r/c/d" := by decide +kernel
  have found : folder.resolved path = .ok "/r/c/d" :=
    resolved_eq_ok_iff.mpr ⟨_, resolve_eq_ok_iff.mpr ⟨by decide +kernel, leaves⟩, written⟩
  have otherFound : folder.resolved other = .ok "/r/c/d" :=
    resolved_eq_ok_iff.mpr ⟨_, resolve_eq_ok_iff.mpr ⟨by decide +kernel, otherLeaves⟩, written⟩
  obtain ⟨-, told⟩ := resolved_by_names_left folder path
  obtain ⟨names, left, -, -, -, again, alike⟩ := told _ found
  have same := (left _).mp leaves
  subst same
  exact ⟨found, otherFound, leaves, otherLeaves, again,
    (alike other _ _ otherFound otherLeaves).2.mpr rfl⟩

end Folder

end Polystore
