import Mathlib.Algebra.GroupWithZero.Nat
import Polystore.Proofs.Connection.Credentials
import Polystore.Proofs.Text.Numerals

/-!
# The grammar of connection strings

A connection string that is written by the grammar is read back as what it was written for.  The
parts hold none of the characters that mark the cuts around them, so every cut falls on the mark
that was written for it, whichever parts are there.
-/

namespace Polystore

namespace Connection

/-! ## Texts without marks -/

/-- A text holds neither blanks nor any of some marks. -/
def Avoids (marks text : List Char) : Prop :=
  ∀ c ∈ text, Text.isBlank c = false ∧ c ∉ marks

theorem avoids_iff (marks text : List Char) :
    Avoids marks text ↔ (text.all fun c => !Text.isBlank c && !marks.contains c) = true := by
  simp [Avoids]

instance (marks text : List Char) : Decidable (Avoids marks text) :=
  decidable_of_iff _ (avoids_iff marks text).symm

namespace Avoids

variable {marks text : List Char}

theorem nil (marks : List Char) : Avoids marks [] :=
  List.forall_mem_nil _

theorem cons {c : Char} (visible : Text.isBlank c = false ∧ c ∉ marks)
    (avoids : Avoids marks text) : Avoids marks (c :: text) :=
  List.forall_mem_cons.mpr ⟨visible, avoids⟩

theorem append {behind : List Char} (avoids : Avoids marks text) (also : Avoids marks behind) :
    Avoids marks (text ++ behind) :=
  List.forall_mem_append.mpr ⟨avoids, also⟩

theorem mono {fewer : List Char} (avoids : Avoids marks text) (subset : fewer ⊆ marks) :
    Avoids fewer text :=
  fun c member => ⟨(avoids c member).1, fun mark => (avoids c member).2 (subset mark)⟩

theorem not_mem {mark : Char} (avoids : Avoids marks text) (marked : mark ∈ marks) :
    mark ∉ text :=
  fun member => (avoids mark member).2 marked

theorem join {separator : Char} (visible : Text.isBlank separator = false ∧ separator ∉ marks)
    {texts : List (List Char)} (avoid : ∀ text ∈ texts, Avoids marks text) :
    Avoids marks (Text.join [separator] texts) := by
  induction texts with
  | nil => exact nil marks
  | cons first rest ih =>
      rw [List.forall_mem_cons] at avoid
      cases rest with
      | nil => exact avoid.1
      | cons second others =>
          rw [Text.join]
          · exact (avoid.1.append (cons visible (nil marks))).append (ih avoid.2)
          · exact List.cons_ne_nil second others

theorem trim (avoids : Avoids marks text) : Text.trim text = text := by
  have padded := Text.trim_padded (List.forall_mem_nil _) (fun c member => (avoids c member).1)
    (List.forall_mem_nil _)
  rwa [List.nil_append, List.append_nil] at padded

/-- The digits of a count are no marks. -/
theorem ofNat (noDigit : marks.any Char.isDigit = false) (count : Nat) :
    Avoids marks (Text.ofNat count) := by
  intro c member
  have digit := Text.isDigit_of_mem_ofNat member
  refine ⟨Text.isBlank_of_isDigit digit, ?_⟩
  intro mark
  exact List.any_eq_false.mp noDigit c mark digit

end Avoids

/-! ## Parts -/

/-- A scheme, credentials, a host or a database. -/
structure Word where
  text : List Char
  nonempty : text ≠ []
  avoids : Avoids ['@', '/', '?', '&', '=', '[', ']', ','] text

/-- A parameter. -/
structure Param where
  key : List Char
  value : List Char
  nonempty : key ≠ []
  keyAvoids : Avoids ['&', '=', '[', ']', ','] key
  valueAvoids : Avoids ['&', '[', ']', ','] value

/-- A number of replicas. -/
structure Count where
  value : Nat
  positive : 0 < value
  fits : value < Text.wordRange

/-- What a descriptor is written from. -/
structure Parts where
  scheme : Option Word := none
  credentials : Option Word := none
  host : Word
  database : Option Word := none
  params : List Param := []
  replicas : Option Count := none

def Param.text (param : Param) : List Char :=
  param.key ++ '=' :: param.value

namespace Parts

/-- The host and the database. -/
def place (parts : Parts) : List Char :=
  match parts.database with
  | some database => parts.host.text ++ '/' :: database.text
  | none => parts.host.text

/-- What stands behind the scheme and before the parameters. -/
def target (parts : Parts) : List Char :=
  match parts.credentials with
  | some credentials => credentials.text ++ '@' :: parts.place
  | none => parts.place

def authority (parts : Parts) : List Char :=
  opening (parts.scheme.map Word.text) ++ parts.target

def query (parts : Parts) : List Char :=
  Text.join ['&'] (parts.params.map Param.text)

/-- What stands before the replica count. -/
def body (parts : Parts) : List Char :=
  if parts.params = [] then parts.authority else parts.authority ++ '?' :: parts.query

/-- The text of a descriptor,
`[scheme://][credentials@]host[/database][?key=value&...][[replicas]]`. -/
def text (parts : Parts) : List Char :=
  match parts.replicas with
  | some count => parts.body ++ '[' :: (Text.ofNat count.value ++ [']'])
  | none => parts.body

end Parts

/-! ## What is asked for -/

namespace Param

/-- A parameter that turns transport security on or off. -/
def isSwitch (param : Param) : Bool :=
  param.key = "ssl".toList ∧ (param.value = "true".toList ∨ param.value = "false".toList)

/-- A parameter that names a file of certificates. -/
def isBundle (param : Param) : Bool :=
  param.key = "ssl_ca_certs".toList ∧ param.value ≠ []

/-- A parameter that is passed on. -/
def isPassed (param : Param) : Bool :=
  param.key ≠ "ssl".toList ∧ ¬(param.isBundle = true)

end Param

/-- The last switch decides whether a connection is secure, and the last file of certificates is
the one to trust. -/
def asked (params : List Param) : Params where
  secure := (params.filter Param.isSwitch).getLast?.any fun param => param.value = "true".toList
  bundle := (params.filter Param.isBundle).getLast?.map fun param => String.ofList param.value
  others := (params.filter Param.isPassed).map fun param =>
    (String.ofList param.key, String.ofList param.value)

/-- The descriptor that parts stand for. -/
def Parts.descriptor (parts : Parts) : Descriptor where
  address := String.ofList (opening (parts.scheme.map Word.text) ++ parts.host.text)
  replicas := (parts.replicas.map Count.value).getD 1
  credentials := parts.credentials.map fun word => String.ofList word.text
  database := parts.database.map fun word => String.ofList word.text
  tls := if (asked parts.params).secure then some ⟨(asked parts.params).bundle⟩ else none
  params := (asked parts.params).others

/-! ## Parameters -/

theorem Param.splitParam_text (param : Param) :
    splitParam param.text = (param.key, param.value) := by
  rw [splitParam, text, Text.cutFirst_append (param.keyAvoids.not_mem (by decide))]
  rfl

theorem ofList_eq_iff {text : List Char} {name : String} :
    String.ofList text = name ↔ text = name.toList := by
  constructor
  · rintro rfl
    exact String.toList_ofList.symm
  · rintro rfl
    exact String.ofList_toList

/-- What a parameter changes, by its key and its value. -/
theorem Params.add_eq (params : Params) (part : List Char) :
    params.add part =
      if (splitParam part).1 = "ssl".toList then
        if (splitParam part).2 = "true".toList then { params with secure := true }
        else if (splitParam part).2 = "false".toList then { params with secure := false }
        else params
      else if (splitParam part).1 = "ssl_ca_certs".toList ∧ (splitParam part).2 ≠ [] then
        { params with bundle := some (String.ofList (splitParam part).2) }
      else { params with
        others := params.others ++
          [(String.ofList (splitParam part).1, String.ofList (splitParam part).2)] } := by
  rw [Params.add]
  rcases splitParam part with ⟨key, value⟩
  simp only [← ofList_eq_iff]
  split
  · next ssl =>
    rw [if_pos ssl]
    split
    · next on => rw [if_pos on]
    · next off => rw [if_neg (by rw [off]; decide), if_pos off]
    · next notOn notOff => rw [if_neg notOn, if_neg notOff]
  · next bundle =>
    have unnamed : ¬String.ofList key = "ssl" := by
      rw [bundle]
      decide
    rw [if_neg unnamed]
    by_cases empty : value = []
    · -- Without a file the parameter is passed on like any other.
      rw [if_pos empty, if_neg fun both => both.2 empty, bundle, empty]
    · rw [if_neg empty, if_pos ⟨bundle, empty⟩]
  · next notSwitch notBundle =>
    rw [if_neg notSwitch, if_neg fun both => notBundle both.1]

/-- What a parameter changes, by its kind. -/
theorem Params.add_text (params : Params) (param : Param) :
    params.add param.text = {
      secure := if param.isSwitch then param.value = "true".toList else params.secure
      bundle := if param.isBundle then some (String.ofList param.value) else params.bundle
      others := params.others ++ if param.isPassed then
        [(String.ofList param.key, String.ofList param.value)] else [] } := by
  rw [Params.add_eq, param.splitParam_text]
  dsimp only
  by_cases ssl : param.key = "ssl".toList
  · by_cases on : param.value = "true".toList
    · simp [Param.isSwitch, Param.isBundle, Param.isPassed, ssl, on]
    · by_cases off : param.value = "false".toList
      · simp [Param.isSwitch, Param.isBundle, Param.isPassed, ssl, off]
      · have idle : param.isSwitch = false := by
          simp only [Param.isSwitch, on, off, or_self, and_false, decide_false]
        rw [if_pos ssl, if_neg on, if_neg off, idle]
        simp [Param.isBundle, Param.isPassed, ssl]
  · by_cases bundle : param.key = "ssl_ca_certs".toList ∧ param.value ≠ []
    · simp [Param.isSwitch, Param.isBundle, Param.isPassed, bundle]
    · have idle : param.isSwitch = false := by
        simp only [Param.isSwitch, ssl, false_and, decide_false]
      have unbundled : param.isBundle = false := decide_eq_false bundle
      have passed : param.isPassed = true := by
        simp only [Param.isPassed, ssl, unbundled, Bool.false_eq_true, not_false_eq_true, ne_eq,
          and_self, decide_true]
      rw [if_neg ssl, if_neg bundle, idle, unbundled, passed]
      rfl

theorem add_asked (params : List Param) (param : Param) :
    (asked params).add param.text = asked (params ++ [param]) := by
  rw [Params.add_text, asked, asked, List.filter_append, List.filter_append, List.filter_append]
  congr 1
  · cases switch : param.isSwitch with
    | true => simp [switch]
    | false => simp [switch]
  · cases bundle : param.isBundle with
    | true => simp [bundle]
    | false => simp [bundle]
  · cases passed : param.isPassed with
    | true => simp [passed]
    | false => simp [passed]

theorem Param.text_ne_nil (param : Param) : param.text ≠ [] :=
  List.append_ne_nil_of_left_ne_nil param.nonempty _

theorem Param.avoids_text (param : Param) : Avoids ['&', '[', ']', ','] param.text :=
  (param.keyAvoids.mono (by decide)).append (.cons (by decide) param.valueAvoids)

/-- Parameters are read one by one. -/
theorem read_join (params : List Param) :
    Params.read (Text.join ['&'] (params.map Param.text)) = asked params := by
  have pieces : (Text.pieces '&' (Text.join ['&'] (params.map Param.text))).filter (· ≠ []) =
      params.map Param.text := by
    by_cases none : params = []
    · rw [none]
      rfl
    · rw [Text.pieces_join (mt List.map_eq_nil_iff.mp none), List.filter_eq_self]
      · intro text member
        obtain ⟨param, -, rfl⟩ := List.mem_map.mp member
        exact decide_eq_true param.text_ne_nil
      · intro text member
        obtain ⟨param, -, rfl⟩ := List.mem_map.mp member
        exact param.avoids_text.not_mem (by decide)
  rw [Params.read, pieces]
  clear pieces
  induction params using List.reverseRecOn with
  | nil => rfl
  | append_singleton params param ih =>
      rw [List.map_append, List.foldl_append, ih]
      exact add_asked params param

/-! ## Cuts -/

/-- A count in brackets is read, whatever stands behind it.  One that fits no word stands for one
replica. -/
theorem countOf_append {count : Nat} (positive : 0 < count) (behind : List Char) :
    countOf (Text.ofNat count ++ ']' :: behind) = if count < Text.wordRange then count else 1 := by
  have digits : Avoids [']'] (Text.ofNat count) := .ofNat (by decide) _
  rw [countOf, Text.cutFirst_append (digits.not_mem List.mem_cons_self)]
  dsimp only
  rw [digits.trim, Text.readWord?_ofNat]
  by_cases fits : count < Text.wordRange
  · rw [if_pos fits, if_pos fits]
    exact if_pos positive
  · rw [if_neg fits, if_neg fits]

theorem countOf_ofNat (count : Count) :
    countOf (Text.ofNat count.value ++ [']']) = count.value := by
  rw [countOf_append count.positive, if_pos count.fits]

namespace Parts

variable (parts : Parts)

theorem avoids_place : Avoids ['@', '?', '&', '=', '[', ']', ','] parts.place := by
  rw [place]
  cases parts.database with
  | none => exact parts.host.avoids.mono (by decide)
  | some database =>
      exact (parts.host.avoids.mono (by decide)).append
        (.cons (by decide) (database.avoids.mono (by decide)))

theorem avoids_target : Avoids ['?', '&', '=', '[', ']', ','] parts.target := by
  rw [target]
  cases parts.credentials with
  | none => exact parts.avoids_place.mono (by decide)
  | some credentials =>
      exact (credentials.avoids.mono (by decide)).append
        (.cons (by decide) (parts.avoids_place.mono (by decide)))

theorem avoids_authority : Avoids ['?', '&', '=', '[', ']', ','] parts.authority := by
  rw [authority]
  cases parts.scheme with
  | none => exact parts.avoids_target
  | some scheme =>
      have opens : Avoids ['?', '&', '=', '[', ']', ','] [':', '/', '/'] := by decide
      exact ((scheme.avoids.mono (by decide)).append opens).append parts.avoids_target

theorem avoids_query : Avoids ['[', ']', ','] parts.query := by
  apply Avoids.join (by decide)
  intro text member
  obtain ⟨param, -, rfl⟩ := List.mem_map.mp member
  exact param.avoids_text.mono (by decide)

theorem avoids_body : Avoids ['[', ']', ','] parts.body := by
  rw [body]
  split
  · exact parts.avoids_authority.mono (by decide)
  · exact (parts.avoids_authority.mono (by decide)).append (.cons (by decide) parts.avoids_query)

theorem avoids_text : Avoids [','] parts.text := by
  rw [text]
  cases parts.replicas with
  | none => exact parts.avoids_body.mono (by decide)
  | some count =>
      have digits : Avoids [','] (Text.ofNat count.value) := .ofNat (by decide) _
      exact (parts.avoids_body.mono (by decide)).append
        (.cons (by decide) (digits.append (by decide)))

theorem place_ne_nil : parts.place ≠ [] := by
  rw [place]
  cases parts.database with
  | none => exact parts.host.nonempty
  | some database => exact List.append_ne_nil_of_left_ne_nil parts.host.nonempty _

theorem body_ne_nil : parts.body ≠ [] := by
  have target : parts.target ≠ [] := by
    rw [target]
    cases parts.credentials with
    | none => exact parts.place_ne_nil
    | some credentials => exact List.append_ne_nil_of_left_ne_nil credentials.nonempty _
  have authority : parts.authority ≠ [] := List.append_ne_nil_of_right_ne_nil _ target
  rw [body]
  split
  · exact authority
  · exact List.append_ne_nil_of_left_ne_nil authority _

theorem text_ne_nil : parts.text ≠ [] := by
  rw [text]
  cases parts.replicas with
  | none => exact parts.body_ne_nil
  | some count => exact List.append_ne_nil_of_left_ne_nil parts.body_ne_nil _

theorem splitReplicas_text :
    splitReplicas parts.text = (parts.body, (parts.replicas.map Count.value).getD 1) := by
  rw [text]
  cases parts.replicas with
  | none =>
      rw [splitReplicas, Text.cutLast_eq_none_iff.mpr (parts.avoids_body.not_mem (by decide))]
      rfl
  | some count =>
      have digits : Avoids ['['] (Text.ofNat count.value) := .ofNat (by decide) _
      have unopened : '[' ∉ Text.ofNat count.value ++ [']'] :=
        (digits.append (by decide)).not_mem List.mem_cons_self
      rw [splitReplicas_of_cutLast (Text.cutLast_append unopened _) parts.body_ne_nil,
        countOf_ofNat]
      rfl

theorem splitParameters_body :
    (Text.cutFirst '?' parts.body).getD (parts.body, []) = (parts.authority, parts.query) := by
  have before : '?' ∉ parts.authority := parts.avoids_authority.not_mem (by decide)
  rw [body]
  split
  · next none =>
    rw [Text.cutFirst_eq_none_iff.mpr before, query, none]
    rfl
  · rw [Text.cutFirst_append before]
    rfl

/-- A target holds at most one slash, so no scheme mark. -/
theorem not_mark_isInfix_target : ¬[':', '/', '/'] <:+: parts.target := by
  intro marked
  have few : parts.target.count '/' ≤ 1 := by
    have wordless (word : Word) : word.text.count '/' = 0 :=
      List.count_eq_zero.mpr (word.avoids.not_mem (by decide))
    rw [target, place]
    cases parts.credentials with
    | none =>
        cases parts.database with
        | none => simp [wordless]
        | some database => simp [wordless]
    | some credentials =>
        cases parts.database with
        | none => simp [wordless]
        | some database => simp [wordless]
  -- The mark itself holds two.
  have two := (marked.sublist.count_le '/').trans few
  revert two
  decide

theorem cutLast_target :
    (Text.cutLast '@' parts.target).getD ([], parts.target) =
      ((parts.credentials.map Word.text).getD [], parts.place) := by
  have behind : '@' ∉ parts.place := parts.avoids_place.not_mem (by decide)
  rw [target]
  cases parts.credentials with
  | none =>
      rw [Text.cutLast_eq_none_iff.mpr behind]
      rfl
  | some credentials =>
      rw [Text.cutLast_append behind]
      rfl

theorem cutFirst_place :
    (Text.cutFirst '/' parts.place).getD (parts.place, []) =
      (parts.host.text, (parts.database.map Word.text).getD []) := by
  have before : '/' ∉ parts.host.text := parts.host.avoids.not_mem (by decide)
  rw [place]
  cases parts.database with
  | none =>
      rw [Text.cutFirst_eq_none_iff.mpr before]
      rfl
  | some database =>
      rw [Text.cutFirst_append before]
      rfl

theorem splitAuthority_authority :
    Descriptor.splitAuthority parts.authority =
      (parts.scheme.map Word.text, (parts.credentials.map Word.text).getD [],
        parts.host.text, (parts.database.map Word.text).getD []) := by
  rw [Descriptor.splitAuthority, authority]
  cases parts.scheme with
  | none =>
      rw [Option.map_none, opening, List.nil_append,
        Text.cutMark_eq_none_iff.mpr parts.not_mark_isInfix_target]
      dsimp only
      rw [cutLast_target]
      dsimp only
      rw [cutFirst_place]
  | some scheme =>
      rw [Option.map_some, opening, Text.cutMark_opening (scheme.avoids.not_mem (by decide))]
      dsimp only
      rw [cutLast_target]
      dsimp only
      rw [cutFirst_place]

end Parts

/-! ## Readings -/

theorem nonEmpty_getD (word : Option Word) :
    nonEmpty ((word.map Word.text).getD []) = word.map fun word => String.ofList word.text := by
  cases word with
  | none => rfl
  | some word => exact if_neg word.nonempty

/-- Every descriptor is read back. -/
theorem Parts.parse_text (parts : Parts) : Descriptor.parse parts.text = .ok parts.descriptor := by
  rw [Descriptor.parse, parts.avoids_text.trim, ofTrimmed_eq parts.splitReplicas_text
    parts.splitParameters_body parts.splitAuthority_authority, if_neg parts.host.nonempty,
    nonEmpty_getD, shownOf.eq_def, query, read_join, nonEmpty_getD, descriptor]
  cases parts.scheme with
  | none => rfl
  | some scheme => rfl

theorem parseAll_texts (written : List Parts) :
    parseAll (written.map Parts.text) = .ok (written.map Parts.descriptor) := by
  induction written with
  | nil => rfl
  | cons parts rest ih =>
      rw [List.map_cons, parseAll, parts.parse_text, ih]
      rfl

/-! ## Connection strings -/

/-- What stands between two commas: a descriptor or nothing, with blanks around it. -/
structure Entry where
  before : List Char := []
  parts : Option Parts
  after : List Char := []
  blankBefore : before.all Text.isBlank = true
  blankAfter : after.all Text.isBlank = true

namespace Entry

/-- The text of an entry without the blanks. -/
def inner (entry : Entry) : List Char :=
  (entry.parts.map Parts.text).getD []

def text (entry : Entry) : List Char :=
  entry.before ++ entry.inner ++ entry.after

variable (entry : Entry)

theorem avoids_inner : Avoids [','] entry.inner := by
  rw [inner]
  cases entry.parts with
  | none => exact .nil _
  | some parts => exact parts.avoids_text

theorem trim_text : Text.trim entry.text = entry.inner :=
  Text.trim_padded (List.all_eq_true.mp entry.blankBefore)
    (fun c member => (entry.avoids_inner c member).1) (List.all_eq_true.mp entry.blankAfter)

theorem comma_not_mem_text : ',' ∉ entry.text := by
  rw [text, List.mem_append, List.mem_append]
  rintro ((before | inside) | after)
  · exact absurd (List.all_eq_true.mp entry.blankBefore ',' before) (by decide)
  · exact entry.avoids_inner.not_mem List.mem_cons_self inside
  · exact absurd (List.all_eq_true.mp entry.blankAfter ',' after) (by decide)

end Entry

/-- Entries without a descriptor are left out. -/
theorem filter_inner (entries : List Entry) :
    (entries.map Entry.inner).filter (· ≠ []) = (entries.filterMap Entry.parts).map Parts.text := by
  induction entries with
  | nil => rfl
  | cons entry rest ih =>
      rw [List.map_cons, Entry.inner]
      cases written : entry.parts with
      | none =>
          rw [List.filterMap_cons_none written, List.filter_cons_of_neg (by simp)]
          exact ih
      | some parts =>
          have kept : decide (parts.text ≠ []) = true := decide_eq_true parts.text_ne_nil
          rw [List.filterMap_cons_some written, List.map_cons, ← ih]
          exact List.filter_cons_of_pos kept

/-- Words are added up as long as the sum is a word. -/
theorem foldlM_addWords? (counts : List Nat) {total : Nat} (small : total < 2 ^ 64) :
    counts.foldlM Spec.addWords? total =
      if total + counts.sum < 2 ^ 64 then some (total + counts.sum) else none := by
  induction counts generalizing total with
  | nil => exact (if_pos small).symm
  | cons count rest ih =>
      have range : Text.wordRange = 2 ^ 64 := rfl
      rw [List.foldlM_cons, List.sum_cons, ← Nat.add_assoc, Spec.addWords?, range]
      split
      · next fits => exact ih fits
      · next large =>
        exact (if_neg fun all => large (Nat.lt_of_le_of_lt (Nat.le_add_right _ _) all)).symm

theorem totalConnections_eq (spec : Spec) :
    spec.totalConnections =
      if (spec.clusters.map Descriptor.replicas).sum < 2 ^ 64
      then some (spec.clusters.map Descriptor.replicas).sum else none := by
  have added := foldlM_addWords? (spec.clusters.map Descriptor.replicas) (Nat.two_pow_pos 64)
  rwa [Nat.zero_add] at added

/-- A connection string that is written by the grammar is read back: the same descriptors in
their order, whatever blanks and empty entries stand around the commas.  The number of connections
is the sum of the counts where this is a word. -/
theorem parse_reads_back (entries : List Entry) (named : entries.filterMap Entry.parts ≠ []) :
    let written := entries.filterMap Entry.parts
    let spec : Spec := ⟨written.map Parts.descriptor⟩
    let total := (written.map fun parts => (parts.replicas.map Count.value).getD 1).sum
    Spec.parse (String.ofList (Text.join [','] (entries.map Entry.text))) = .ok spec ∧
      spec.totalConnections = if total < 2 ^ 64 then some total else none := by
  intro written spec total
  have listed : entries.map Entry.text ≠ [] := by
    intro none
    rw [List.map_eq_nil_iff.mp none] at named
    exact named rfl
  have commaless : ∀ text ∈ entries.map Entry.text, ',' ∉ text := by
    intro text member
    obtain ⟨entry, -, rfl⟩ := List.mem_map.mp member
    exact entry.comma_not_mem_text
  have trimmed : (entries.map Entry.text).map Text.trim = entries.map Entry.inner := by
    rw [List.map_map]
    exact List.map_congr_left fun entry _ => entry.trim_text
  constructor
  · obtain ⟨first, rest, cut⟩ := List.exists_cons_of_ne_nil named
    have described : spec = ⟨(first :: rest).map Parts.descriptor⟩ := by rw [← cut]
    rw [Spec.parse, String.toList_ofList, Text.pieces_join listed commaless, trimmed, filter_inner,
      parseAll_texts, cut, described]
    rfl
  · rw [totalConnections_eq, List.map_map]
    rfl

/-- A descriptor with all its parts, an empty entry and a bare host, which make six
connections. -/
theorem reads_back_two_clusters :
    let secured : Parts := {
      scheme := some ⟨"mongodb".toList, by decide, by decide⟩
      credentials := some ⟨"user:pw".toList, by decide, by decide⟩
      host := ⟨"db:27017".toList, by decide, by decide⟩
      database := some ⟨"app".toList, by decide, by decide⟩
      params := [
        ⟨"ssl".toList, "true".toList, by decide, by decide, by decide⟩,
        ⟨"ssl_ca_certs".toList, "/ca.pem".toList, by decide, by decide, by decide⟩,
        ⟨"w".toList, "a=b".toList, by decide, by decide, by decide⟩]
      replicas := some ⟨5, by decide, by decide⟩ }
    let bare : Parts := { host := ⟨"hostB".toList, by decide, by decide⟩ }
    let entries : List Entry := [
      { before := [' '], parts := some secured, blankBefore := by decide, blankAfter := by decide },
      { parts := none, blankBefore := by decide, blankAfter := by decide },
      { parts := some bare, after := ['\n'], blankBefore := by decide, blankAfter := by decide }]
    let raw := String.ofList (Text.join [','] (entries.map Entry.text))
    let spec : Spec := ⟨[
      { address := "mongodb://db:27017", replicas := 5, credentials := some "user:pw",
        database := some "app", tls := some ⟨some "/ca.pem"⟩,
        params := [("w", "a=b")] },
      { address := "hostB" }]⟩
    raw = " mongodb://user:pw@db:27017/app?ssl=true&ssl_ca_certs=/ca.pem&w=a=b[5],,hostB\n" ∧
    Spec.parse raw = .ok spec ∧ spec.totalConnections = some 6 := by
  intro secured bare entries raw spec
  have described : spec = ⟨(entries.filterMap Entry.parts).map Parts.descriptor⟩ := by
    decide +kernel
  obtain ⟨parsed, total⟩ := parse_reads_back entries (List.cons_ne_nil _ _)
  refine ⟨by decide +kernel, ?_⟩
  rw [described]
  exact ⟨parsed, total⟩

end Connection

end Polystore
