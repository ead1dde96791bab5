import Polystore.Connection.Descriptor
import Polystore.Proofs.Text.Cuts

/-!
# Credentials are not shown

A descriptor text is cut six times.  No cut is made inside credentials, and the piece that
holds them becomes the credentials of the descriptor as a whole, so the other pieces do not
depend on them.  Two places are not protected: a text without a scheme in which a scheme mark
comes after the credentials, and the error about a missing address, which tells the text.
-/

namespace Polystore.Connection

/-! ## Texts with credentials -/

/-- A text that can stand for credentials: no blank is trimmed off it, and no cut of a
descriptor falls inside it. -/
structure IsCredentials (text : List Char) : Prop where
  visible : ∀ c ∈ text, Text.isBlank c = false
  noParameters : '?' ∉ text
  noReplicas : '[' ∉ text
  noScheme : ¬ [':', '/', '/'] <:+: text

theorem isCredentials_iff (text : List Char) :
    IsCredentials text ↔ (text.all fun c => !Text.isBlank c) = true ∧ '?' ∉ text ∧ '[' ∉ text ∧
      ¬ [':', '/', '/'] <:+: text := by
  simp only [List.all_eq_true, Bool.not_eq_true']
  constructor
  · rintro ⟨visible, noParameters, noReplicas, noScheme⟩
    exact ⟨visible, noParameters, noReplicas, noScheme⟩
  · rintro ⟨visible, noParameters, noReplicas, noScheme⟩
    exact ⟨visible, noParameters, noReplicas, noScheme⟩

instance (text : List Char) : Decidable (IsCredentials text) :=
  decidable_of_iff _ (isCredentials_iff text).symm

/-- What stands before the credentials: the scheme and its mark, if there is a scheme. -/
def opening : Option (List Char) → List Char
  | some scheme => scheme ++ [':', '/', '/']
  | none => []

/-- The text of a descriptor with credentials. -/
def written (scheme : Option (List Char)) (credentials rest : List Char) : List Char :=
  opening scheme ++ credentials ++ '@' :: rest

/-- The part of a text before the replica count. -/
def bodyOf (text : List Char) : List Char :=
  ((Text.cutLast '[' text).getD (text, [])).1

/-- The part of a text before the replica count and the parameters. -/
def authorityOf (text : List Char) : List Char :=
  ((Text.cutFirst '?' (bodyOf text)).getD (bodyOf text, [])).1

theorem authorityOf_isPrefix (text : List Char) : authorityOf text <+: text := by
  have body : bodyOf text <+: text := by
    rw [bodyOf]
    cases cut : Text.cutLast '[' text with
    | none => exact List.prefix_rfl
    | some parts => exact ⟨_, (Text.eq_of_cutLast cut).1.symm⟩
  rw [authorityOf]
  cases cut : Text.cutFirst '?' (bodyOf text) with
  | none => exact body
  | some parts => exact List.IsPrefix.trans ⟨_, (Text.eq_of_cutFirst cut).1.symm⟩ body

/-- The replica count that a bracket stands for. -/
def countOf (bracket : List Char) : Nat :=
  match Text.cutFirst ']' bracket with
  | none => 1
  | some (inside, _) =>
      match Text.readWord? (Text.trim inside) with
      | some count => if count > 0 then count else 1
      | none => 1

variable {scheme : Option (List Char)} {credentials rest : List Char}

theorem written_ne_nil : written scheme credentials rest ≠ [] := by
  simp [written]

/-- Only the ends of the scheme and of the rest are trimmed. -/
theorem trim_written (fits : IsCredentials credentials) :
    Text.trim (written scheme credentials rest) =
      written (scheme.map fun text => text.dropWhile Text.isBlank) credentials
        (rest.rdropWhile Text.isBlank) := by
  have kept : credentials.dropWhile Text.isBlank = credentials := by
    rw [List.dropWhile_eq_self_iff]
    intro some
    simp [fits.visible _ (List.getElem_mem some)]
  rw [written, Text.trim_append_cons (by decide)]
  cases scheme with
  | none => rw [opening, List.nil_append, kept]; rfl
  | some text =>
      rw [opening, List.append_assoc, List.cons_append, Text.dropWhile_append_cons (by decide)]
      simp only [written, opening, Option.map_some, List.append_assoc, List.cons_append,
        List.nil_append]

/-- Trimming the end of a text does not bring a mark into its authority. -/
theorem authorityOf_append_isInfix {blanks : List Char} (noReplicas : '[' ∉ blanks)
    (noParameters : '?' ∉ blanks) (text : List Char) :
    authorityOf text <:+: authorityOf (text ++ blanks) := by
  rw [authorityOf, authorityOf, bodyOf, bodyOf, Text.cutLast_append_of_not_mem noReplicas]
  cases Text.cutLast '[' text with
  | some cut => exact List.infix_rfl
  | none =>
      dsimp only [Option.map_none, Option.getD_none]
      cases found : Text.cutFirst '?' text with
      | some cut =>
          rw [Text.cutFirst_append_of_eq_some found]
          exact List.infix_rfl
      | none =>
          rw [Text.cutFirst_append_of_not_mem (Text.cutFirst_eq_none_iff.mp found),
            Text.cutFirst_eq_none_iff.mpr noParameters]
          exact (List.prefix_append text blanks).isInfix

theorem authorityOf_rdropWhile_isInfix (text : List Char) :
    authorityOf (text.rdropWhile Text.isBlank) <:+: authorityOf text := by
  have blank {c : Char} (member : c ∈ text.rtakeWhile Text.isBlank) : Text.isBlank c = true :=
    List.mem_rtakeWhile_imp member
  have noReplicas : '[' ∉ text.rtakeWhile Text.isBlank := fun member =>
    absurd (blank member) (by decide)
  have noParameters : '?' ∉ text.rtakeWhile Text.isBlank := fun member =>
    absurd (blank member) (by decide)
  have closed := authorityOf_append_isInfix noReplicas noParameters (text.rdropWhile Text.isBlank)
  rwa [List.rdropWhile_append_rtakeWhile] at closed

/-! ## The replica count -/

theorem splitReplicas_of_cutLast {raw body bracket : List Char}
    (cut : Text.cutLast '[' raw = some (body, bracket)) (before : body ≠ []) :
    splitReplicas raw = (body, countOf bracket) := by
  obtain ⟨first, others, rfl⟩ := List.exists_cons_of_ne_nil before
  rw [splitReplicas, cut, countOf]
  dsimp only
  cases Text.cutFirst ']' bracket with
  | none => rfl
  | some parts =>
      dsimp only
      cases Text.readWord? (Text.trim parts.1) with
      | none => rfl
      | some count => rfl

/-- A scheme mark in a replica count makes it no count. -/
theorem countOf_of_not_mem {bracket : List Char} (unclosed : ']' ∉ bracket)
    (behind : List Char) : countOf (bracket ++ ':' :: behind) = 1 := by
  have opened : ']' ∉ bracket ++ [':'] := by simp [unclosed]
  have noCount (inside : List Char) :
      Text.readWord? (Text.trim (bracket ++ ':' :: inside)) = none := by
    rw [Text.trim_append_cons (by decide)]
    have marked : ':' ∈ bracket.dropWhile Text.isBlank ++ ':' :: inside.rdropWhile Text.isBlank :=
      List.mem_append_right _ List.mem_cons_self
    exact Text.readWord?_eq_none marked (by decide) (by decide)
  rw [countOf, List.append_cons, Text.cutFirst_append_of_not_mem opened]
  cases Text.cutFirst ']' behind with
  | none => rfl
  | some cut =>
      dsimp only [Option.map_some]
      rw [← List.append_cons, noCount]

theorem countOf_scheme (bracket left right : List Char) :
    countOf (bracket ++ ':' :: left) = countOf (bracket ++ ':' :: right) := by
  cases closed : Text.cutFirst ']' bracket with
  | none =>
      have unclosed := Text.cutFirst_eq_none_iff.mp closed
      rw [countOf_of_not_mem unclosed, countOf_of_not_mem unclosed]
  | some cut =>
      rw [countOf, countOf, Text.cutFirst_append_of_eq_some closed,
        Text.cutFirst_append_of_eq_some closed]

/-- The replica count is cut off in the rest, or else in the scheme, and then the credentials
are cut off with it. -/
theorem exists_splitReplicas (scheme : Option (List Char)) (rest : List Char) :
    ∃ count, (∀ credentials, IsCredentials credentials →
        splitReplicas (written scheme credentials rest) =
          (written scheme credentials (bodyOf rest), count)) ∨
      ∃ body, ∀ credentials, IsCredentials credentials →
        splitReplicas (written scheme credentials rest) = (body, count) := by
  cases cut : Text.cutLast '[' rest with
  | some parts =>
      refine ⟨countOf parts.2, .inl fun credentials fits => ?_⟩
      rw [bodyOf, cut]
      refine splitReplicas_of_cutLast ?_ written_ne_nil
      rw [written, List.append_cons, Text.cutLast_append_of_eq_some cut, ← List.append_cons]
      rfl
  | none =>
      have unbracketed {credentials : List Char} (fits : IsCredentials credentials) :
          '[' ∉ credentials ++ '@' :: rest := by
        simp [fits.noReplicas, Text.cutLast_eq_none_iff.mp cut]
      have whole : bodyOf rest = rest := by rw [bodyOf, cut]; rfl
      cases scheme with
      | none =>
          refine ⟨1, .inl fun credentials fits => ?_⟩
          rw [whole, splitReplicas, written, opening, List.nil_append,
            Text.cutLast_eq_none_iff.mpr (unbracketed fits)]
      | some text =>
          have cuts {credentials : List Char} (fits : IsCredentials credentials) :
              Text.cutLast '[' (written (some text) credentials rest) =
                (Text.cutLast '[' text).map fun cut =>
                  (cut.1, cut.2 ++ ':' :: '/' :: '/' :: (credentials ++ '@' :: rest)) := by
            have behind := unbracketed fits
            rw [written, opening, List.append_assoc, List.append_assoc]
            exact Text.cutLast_append_of_not_mem (by simpa using behind) text
          cases inside : Text.cutLast '[' text with
          | none =>
              refine ⟨1, .inl fun credentials fits => ?_⟩
              rw [whole, splitReplicas, cuts fits, inside]
              rfl
          | some parts =>
              obtain ⟨before, bracket⟩ := parts
              -- A bracket that opens the text is not cut off; any other one takes what is behind it.
              by_cases first : before = []
              · refine ⟨1, .inl fun credentials fits => ?_⟩
                rw [whole, splitReplicas, cuts fits, inside, first]
                rfl
              · refine ⟨countOf (bracket ++ [':']), .inr ⟨before, fun credentials fits => ?_⟩⟩
                rw [countOf_scheme bracket [] ('/' :: '/' :: (credentials ++ '@' :: rest))]
                refine splitReplicas_of_cutLast ?_ first
                rw [cuts fits, inside]
                rfl

/-! ## The authority -/

theorem splitParameters_written (questionless : ∀ text ∈ scheme, '?' ∉ text)
    (fits : IsCredentials credentials) (rest : List Char) :
    (Text.cutFirst '?' (written scheme credentials rest)).getD
        (written scheme credentials rest, []) =
      (written scheme credentials ((Text.cutFirst '?' rest).getD (rest, [])).1,
        ((Text.cutFirst '?' rest).getD (rest, [])).2) := by
  have before : '?' ∉ opening scheme ++ credentials ++ ['@'] := by
    cases scheme with
    | none => simp [opening, fits.noParameters]
    | some text => simp [opening, fits.noParameters, questionless text rfl]
  rw [written, List.append_cons, Text.cutFirst_append_of_not_mem before]
  cases Text.cutFirst '?' rest with
  | none => rw [Option.map_none, Option.getD_none, Option.getD_none, written, ← List.append_cons]
  | some cut => simp only [Option.map_some, Option.getD_some, written, ← List.append_cons]

/-- No scheme mark lies across the end of credentials. -/
theorem not_mark_isInfix (fits : IsCredentials credentials)
    (unmarked : ¬ [':', '/', '/'] <:+: rest) :
    ¬ [':', '/', '/'] <:+: credentials ++ '@' :: rest := by
  intro marked
  rcases List.infix_append_iff.mp marked with within | within | ⟨left, right, whole, ends, begins⟩
  · exact fits.noScheme within
  · rcases List.infix_cons_iff.mp within with begins | behind
    · simp at begins
    · exact unmarked behind
  · rcases List.prefix_cons_iff.mp begins with rfl | ⟨others, rfl, -⟩
    · rw [List.append_nil] at whole
      exact fits.noScheme (whole ▸ ends.isInfix)
    · have across : '@' ∈ [':', '/', '/'] := by simp [whole]
      revert across
      decide

/-- Credentials go whole into the credentials of a descriptor. -/
theorem exists_splitAuthority (noAt : '@' ∉ rest)
    (unmarked : scheme = none → ¬ [':', '/', '/'] <:+: rest) :
    ∃ shown, ∀ credentials, IsCredentials credentials →
      ∃ kept, Descriptor.splitAuthority (written scheme credentials rest) =
        (shown, kept, (Text.cutFirst '/' rest).getD (rest, [])) := by
  cases scheme with
  | none =>
      refine ⟨none, fun credentials fits => ⟨credentials, ?_⟩⟩
      have uncut := Text.cutMark_eq_none_iff.mpr (not_mark_isInfix fits (unmarked rfl))
      rw [Descriptor.splitAuthority, written, opening, List.nil_append, uncut]
      dsimp only
      rw [Text.cutLast_append noAt]
      rfl
  | some text =>
      have marked : [':', '/', '/'] <:+: opening (some text) := (List.suffix_append _ _).isInfix
      obtain ⟨⟨shown, kept⟩, cut⟩ := Option.ne_none_iff_exists'.mp
        (mt Text.cutMark_eq_none_iff.mp (not_not.mpr marked))
      refine ⟨some shown, fun credentials fits => ⟨kept ++ credentials, ?_⟩⟩
      rw [Descriptor.splitAuthority, written, List.append_assoc,
        Text.cutMark_append_of_eq_some (List.cons_ne_nil _ _) cut]
      dsimp only
      rw [← List.append_assoc, Text.cutLast_append noAt]
      rfl

/-! ## Readings -/

/-- What is shown of a descriptor with a host and a database. -/
def shownOf (scheme : Option (List Char)) (place : List Char × List Char) (query : List Char)
    (count : Nat) : Descriptor where
  address := String.ofList (match scheme with
    | some scheme => scheme ++ [':', '/', '/'] ++ place.1
    | none => place.1)
  replicas := count
  database := nonEmpty place.2
  tls := (Params.read query).tls
  params := (Params.read query).others

theorem ofTrimmed_eq {raw body authority query kept : List Char} {place : List Char × List Char}
    {shown : Option (List Char)} {count : Nat} (replicas : splitReplicas raw = (body, count))
    (params : (Text.cutFirst '?' body).getD (body, []) = (authority, query))
    (parts : Descriptor.splitAuthority authority = (shown, kept, place)) :
    Descriptor.ofTrimmed raw =
      if place.1 = [] then .error (.noAddress (String.ofList raw))
      else .ok { shownOf shown place query count with credentials := nonEmpty kept } := by
  rw [Descriptor.ofTrimmed, replicas]
  dsimp only
  rw [params]
  dsimp only
  rw [parts]
  rfl

/-- Nothing but the credentials of a descriptor depends on the credentials in its text. -/
theorem exists_ofTrimmed (questionless : ∀ text ∈ scheme, '?' ∉ text) (noAt : '@' ∉ rest)
    (unmarked : scheme = none → ¬ [':', '/', '/'] <:+: authorityOf rest) :
    ∃ shown place query count, ∀ credentials, IsCredentials credentials →
      ∃ kept, Descriptor.ofTrimmed (written scheme credentials rest) =
        if place.1 = [] then .error (.noAddress (String.ofList (written scheme credentials rest)))
        else .ok { shownOf shown place query count with credentials := nonEmpty kept } := by
  obtain ⟨count, inRest | ⟨body, inScheme⟩⟩ := exists_splitReplicas scheme rest
  · have noAtBefore : '@' ∉ authorityOf rest := fun member =>
      noAt ((authorityOf_isPrefix rest).subset member)
    obtain ⟨shown, cuts⟩ := exists_splitAuthority noAtBefore unmarked
    refine ⟨shown, (Text.cutFirst '/' (authorityOf rest)).getD (authorityOf rest, []),
      ((Text.cutFirst '?' (bodyOf rest)).getD (bodyOf rest, [])).2, count,
      fun credentials fits => ?_⟩
    obtain ⟨kept, parts⟩ := cuts credentials fits
    exact ⟨kept, ofTrimmed_eq (inRest credentials fits)
      (splitParameters_written questionless fits _) parts⟩
  · let parts := (Text.cutFirst '?' body).getD (body, [])
    let authority := Descriptor.splitAuthority parts.1
    exact ⟨authority.1, authority.2.2, parts.2, count, fun credentials fits =>
      ⟨authority.2.1, ofTrimmed_eq (inScheme credentials fits) rfl rfl⟩⟩

/-- Two readings that show the same: descriptors that differ in their credentials at most, or
errors of one kind. -/
inductive ShownAlike : Except Error Descriptor → Except Error Descriptor → Prop
  | read {left right : Descriptor} (display : left.display = right.display)
      (uri : left.uri = right.uri)
      (others : { left with credentials := none } = { right with credentials := none }) :
      ShownAlike (.ok left) (.ok right)
  | refused {left right : Error} (kind : left.kind = right.kind) :
      ShownAlike (.error left) (.error right)

/-- A descriptor shows the same whatever its credentials are, and lacks an address whatever they
are.  A question mark in the scheme would make them a parameter, and in a text without a scheme
a mark behind them would make them a scheme. -/
theorem shown_whatever_credentials {first second : List Char}
    (questionless : ∀ text ∈ scheme, '?' ∉ text) (noAt : '@' ∉ rest)
    (unmarked : scheme = none → ¬ [':', '/', '/'] <:+: authorityOf rest)
    (firstFits : IsCredentials first) (secondFits : IsCredentials second) :
    ShownAlike (Descriptor.parse (written scheme first rest))
      (Descriptor.parse (written scheme second rest)) := by
  have trimmedQuestionless : ∀ text ∈ scheme.map fun text => text.dropWhile Text.isBlank,
      '?' ∉ text := by
    intro text member question
    obtain ⟨whole, among, rfl⟩ := Option.map_eq_some_iff.mp member
    exact questionless whole among ((List.dropWhile_suffix _).subset question)
  have trimmedNoAt : '@' ∉ rest.rdropWhile Text.isBlank := fun member =>
    noAt ((List.rdropWhile_prefix _ _).subset member)
  have trimmedUnmarked : (scheme.map fun text => text.dropWhile Text.isBlank) = none →
      ¬ [':', '/', '/'] <:+: authorityOf (rest.rdropWhile Text.isBlank) := by
    intro missing marked
    exact unmarked (Option.map_eq_none_iff.mp missing)
      (marked.trans (authorityOf_rdropWhile_isInfix rest))
  obtain ⟨shown, place, query, count, read⟩ :=
    exists_ofTrimmed trimmedQuestionless trimmedNoAt trimmedUnmarked
  obtain ⟨firstKept, firstRead⟩ := read first firstFits
  obtain ⟨secondKept, secondRead⟩ := read second secondFits
  rw [Descriptor.parse, Descriptor.parse, trim_written firstFits, trim_written secondFits,
    firstRead, secondRead]
  by_cases hostless : place.1 = []
  · rw [if_pos hostless, if_pos hostless]
    exact .refused rfl
  · rw [if_neg hostless, if_neg hostless]
    exact .read rfl rfl rfl

/-- Two tokens in front of an address with a replica count. -/
theorem tokens_not_shown :
    ShownAlike (Descriptor.parse "s3cret@cache.local:6379/2[4]".toList)
      (Descriptor.parse "hunter2@cache.local:6379/2[4]".toList) :=
  @shown_whatever_credentials none "cache.local:6379/2[4]".toList "s3cret".toList
    "hunter2".toList (by simp) (by decide) (by decide) (by decide) (by decide)

/-- The error about a missing address tells the credentials, and so does the address of a text
without a scheme in which a scheme mark comes after them. -/
theorem credentials_shown_in_error_and_address :
    IsCredentials "s3cret".toList ∧ IsCredentials "hunter2".toList ∧
    (∃ left right, Descriptor.parse (written none "s3cret".toList []) = .error left ∧
      Descriptor.parse (written none "hunter2".toList []) = .error right ∧
      left.message ≠ right.message) ∧
    ∃ left right, Descriptor.parse (written none "s3cret".toList "h://x".toList) = .ok left ∧
      Descriptor.parse (written none "hunter2".toList "h://x".toList) = .ok right ∧
      left.display ≠ right.display ∧ left.uri ≠ right.uri := by
  exact ⟨by decide, by decide, ⟨_, _, rfl, rfl, by decide⟩, _, _, rfl, rfl, by decide, by decide⟩

end Polystore.Connection
