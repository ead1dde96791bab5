import Polystore.Proofs.Connection.Grammar

/-!
# Transport security

Parameters that ask for transport security are heard, and all others are passed on, wherever the
text of the parameters is read at all.  It is read before the replica count and not behind it: a
count ends the descriptor, and what follows its bracket is dropped.
-/

namespace Polystore

namespace Connection

/-! ## What parameters ask for -/

/-- The parameters of a text, each as a key and a value. -/
def parametersOf (text : List Char) : List (List Char × List Char) :=
  ((Text.pieces '&' text).filter (· ≠ [])).map splitParam

/-- Whether a parameter turns transport security on or off, if it does either. -/
def switch? (parameter : List Char × List Char) : Option Bool :=
  if parameter.1 = "ssl".toList then
    if parameter.2 = "true".toList then some true
    else if parameter.2 = "false".toList then some false
    else none
  else none

/-- The file of certificates that a parameter names. -/
def bundle? (parameter : List Char × List Char) : Option String :=
  if parameter.1 = "ssl_ca_certs".toList ∧ parameter.2 ≠ [] then some (String.ofList parameter.2)
  else none

/-- A parameter that has nothing to do with transport security. -/
def passed? (parameter : List Char × List Char) : Option (String × String) :=
  if parameter.1 = "ssl".toList ∨ (bundle? parameter).isSome then none
  else some (String.ofList parameter.1, String.ofList parameter.2)

/-- The last switch of a text turns transport security on. -/
def AsksForSecurity (text : List Char) : Prop :=
  ((parametersOf text).filterMap switch?).getLast? = some true

instance (text : List Char) : Decidable (AsksForSecurity text) :=
  inferInstanceAs (Decidable (_ = _))

/-- A descriptor with the parameters of a text that asks for transport security. -/
def Descriptor.secured (descriptor : Descriptor) (text : List Char) : Descriptor :=
  { descriptor with
    tls := some ⟨((parametersOf text).filterMap bundle?).getLast?⟩
    params := (parametersOf text).filterMap passed? }

/-- Whatever descriptor comes out is secure and has the other parameters of a text. -/
def Secured (text : List Char) (result : Except Error Descriptor) : Prop :=
  ∀ descriptor, result = .ok descriptor → descriptor = descriptor.secured text

/-- A replica count in its brackets. -/
def counted (count : Nat) : List Char :=
  '[' :: (Text.ofNat count ++ [']'])

/-! ## Reading parameters -/

/-- What one parameter changes, by what it asks for. -/
theorem Params.add_eq_asked (params : Params) (part : List Char) :
    params.add part = {
      secure := (switch? (splitParam part)).getD params.secure
      bundle := (bundle? (splitParam part)).or params.bundle
      others := params.others ++ (passed? (splitParam part)).toList } := by
  rw [Params.add_eq, passed?, bundle?, switch?]
  by_cases ssl : (splitParam part).1 = "ssl".toList
  · have unnamed : ¬((splitParam part).1 = "ssl_ca_certs".toList ∧ (splitParam part).2 ≠ []) := by
      rw [ssl]
      exact fun both => absurd both.1 (by decide)
    rw [if_pos ssl, if_pos ssl, if_neg unnamed, if_pos (Or.inl ssl)]
    simp only [Option.none_or, Option.toList_none, List.append_nil]
    split
    · rfl
    · split
      · rfl
      · rfl
  · rw [if_neg ssl, if_neg ssl]
    by_cases bundle : (splitParam part).1 = "ssl_ca_certs".toList ∧ (splitParam part).2 ≠ []
    · rw [if_pos bundle, if_pos bundle]
      simp
    · have kept : ¬((splitParam part).1 = "ssl".toList ∨ (none : Option String).isSome = true) := by
        rintro (same | named)
        · exact ssl same
        · cases named
      rw [if_neg bundle, if_neg bundle, if_neg kept]
      rfl

theorem Params.foldl_add (parts : List (List Char)) :
    parts.foldl Params.add {} = {
      secure := ((parts.map splitParam).filterMap switch?).getLast?.getD false
      bundle := ((parts.map splitParam).filterMap bundle?).getLast?
      others := (parts.map splitParam).filterMap passed? } := by
  induction parts using List.reverseRecOn with
  | nil => rfl
  | append_singleton parts part ih =>
      rw [List.foldl_append, ih]
      change Params.add _ part = _
      rw [Params.add_eq_asked, List.map_append, List.filterMap_append, List.filterMap_append,
        List.filterMap_append]
      congr 1
      · cases asked : switch? (splitParam part) with
        | none => simp [asked]
        | some on => simp [asked]
      · cases named : bundle? (splitParam part) with
        | none => simp [named]
        | some file => simp [named]

theorem Params.read_eq (text : List Char) :
    Params.read text = {
      secure := ((parametersOf text).filterMap switch?).getLast?.getD false
      bundle := ((parametersOf text).filterMap bundle?).getLast?
      others := (parametersOf text).filterMap passed? } :=
  Params.foldl_add _

/-- Transport security that is asked for is turned on. -/
theorem tls_read {text : List Char} (asks : AsksForSecurity text) :
    (Params.read text).tls = some ⟨((parametersOf text).filterMap bundle?).getLast?⟩ := by
  rw [Params.read_eq, Params.tls, show _ = _ from asks]
  rfl

/-! ## Reading descriptors -/

/-- The parameters that are read are those behind the question mark of the body. -/
theorem secured_of_query {raw body authority query : List Char} {count : Nat}
    (asks : AsksForSecurity query) (replicas : splitReplicas raw = (body, count))
    (params : (Text.cutFirst '?' body).getD (body, []) = (authority, query)) :
    Secured query (Descriptor.ofTrimmed raw) := by
  intro descriptor read
  rcases parts : Descriptor.splitAuthority authority with ⟨scheme, kept, place⟩
  rw [ofTrimmed_eq replicas params parts] at read
  split at read
  · cases read
  · cases read
    rw [shownOf.eq_def, tls_read asks, Params.read_eq]
    rfl

/-- Parameters and a count change nothing else in a descriptor. -/
theorem ofTrimmed_of_authority {raw body authority query : List Char} {count : Nat}
    (replicas : splitReplicas raw = (body, count))
    (params : (Text.cutFirst '?' body).getD (body, []) = (authority, query))
    (uncounted : '[' ∉ authority) (questionless : '?' ∉ authority) :
    Descriptor.ofTrimmed raw =
      match Descriptor.ofTrimmed authority with
      | .error _ => .error (.noAddress (String.ofList raw))
      | .ok bare => .ok { bare with
          replicas := count
          tls := (Params.read query).tls
          params := (Params.read query).others } := by
  have whole : splitReplicas authority = (authority, 1) := by
    rw [splitReplicas, Text.cutLast_eq_none_iff.mpr uncounted]
  have unasked : (Text.cutFirst '?' authority).getD (authority, []) = (authority, []) := by
    rw [Text.cutFirst_eq_none_iff.mpr questionless]
    rfl
  rcases parts : Descriptor.splitAuthority authority with ⟨scheme, kept, place⟩
  rw [ofTrimmed_eq replicas params parts, ofTrimmed_eq whole unasked parts]
  by_cases hostless : place.1 = []
  · rw [if_pos hostless, if_pos hostless]
  · rw [if_neg hostless, if_neg hostless]
    rfl

section Forms

variable {address params : List Char} {count : Nat}

theorem avoids_counted (count : Nat) : Avoids [] (counted count) :=
  .cons (by decide) ((Avoids.ofNat (by decide) count).append (by decide))

/-- A text is cut at its last bracket, which is that of the count. -/
theorem cutLast_counted {behind : List Char} (uncounted : '[' ∉ behind) (count : Nat)
    (body : List Char) :
    Text.cutLast '[' (body ++ counted count ++ behind) =
      some (body, Text.ofNat count ++ ']' :: behind) := by
  have digits : Avoids ['['] (Text.ofNat count) := .ofNat (by decide) _
  have unopened : '[' ∉ Text.ofNat count ++ ']' :: behind := by
    rw [List.mem_append, List.mem_cons]
    rintro (digit | closing | rest)
    · exact digits.not_mem List.mem_cons_self digit
    · exact absurd closing (by decide)
    · exact uncounted rest
  have text : body ++ counted count ++ behind =
      body ++ '[' :: (Text.ofNat count ++ ']' :: behind) := by
    simp [counted]
  rw [text, Text.cutLast_append unopened]

theorem splitReplicas_counted {body behind : List Char} (some : body ≠ [])
    (uncounted : '[' ∉ behind) (positive : 0 < count) :
    splitReplicas (body ++ counted count ++ behind) =
      (body, if count < Text.wordRange then count else 1) := by
  rw [splitReplicas_of_cutLast (cutLast_counted uncounted count body) some,
    countOf_append positive]

theorem bracket_not_mem_query (paramsAvoid : Avoids ['?', '[', ']'] params) :
    '[' ∉ '?' :: params := by
  have behind : Avoids ['['] params := paramsAvoid.mono (by decide)
  exact (Avoids.cons (by decide) behind).not_mem List.mem_cons_self

/-- Parameters before the count, or without one, are read. -/
theorem ofTrimmed_before_count (addressAvoids : Avoids ['?', '[', ']'] address)
    (asks : AsksForSecurity params) {raw : List Char} {replicas : Nat}
    (split : splitReplicas raw = (address ++ '?' :: params, replicas)) :
    Descriptor.ofTrimmed raw =
      match Descriptor.ofTrimmed address with
      | .error _ => .error (.noAddress (String.ofList raw))
      | .ok bare => .ok { bare.secured params with replicas := replicas } := by
  have questionless : '?' ∉ address := addressAvoids.not_mem (by decide)
  have query : (Text.cutFirst '?' (address ++ '?' :: params)).getD (address ++ '?' :: params, []) =
      (address, params) := by
    rw [Text.cutFirst_append questionless]
    rfl
  rw [ofTrimmed_of_authority split query (addressAvoids.not_mem (by decide)) questionless,
    tls_read asks, Params.read_eq]
  rfl

/-- Parameters behind the count are not read. -/
theorem ofTrimmed_behind_count (addressAvoids : Avoids ['?', '[', ']'] address)
    (paramsAvoid : Avoids ['?', '[', ']'] params) (positive : 0 < count) (some : address ≠ []) :
    Descriptor.ofTrimmed (address ++ counted count ++ '?' :: params) =
      match Descriptor.ofTrimmed address with
      | .error _ => .error
          (.noAddress (String.ofList (address ++ counted count ++ '?' :: params)))
      | .ok bare => .ok { bare with
          replicas := if count < Text.wordRange then count else 1
          tls := none
          params := [] } := by
  have questionless : '?' ∉ address := addressAvoids.not_mem (by decide)
  have uncounted := bracket_not_mem_query paramsAvoid
  have query : (Text.cutFirst '?' address).getD (address, []) = (address, []) := by
    rw [Text.cutFirst_eq_none_iff.mpr questionless]
    rfl
  rw [ofTrimmed_of_authority (splitReplicas_counted some uncounted positive) query
    (addressAvoids.not_mem (by decide)) questionless]
  rfl

/-- A count with nothing in front of it is no count but a host, whose parameters are read. -/
theorem secured_of_no_address (paramsAvoid : Avoids ['?', '[', ']'] params)
    (asks : AsksForSecurity params) :
    Secured params (Descriptor.ofTrimmed (counted count ++ '?' :: params)) := by
  have uncounted := bracket_not_mem_query paramsAvoid
  have whole : splitReplicas (counted count ++ '?' :: params) =
      (counted count ++ '?' :: params, 1) := by
    have cut := cutLast_counted uncounted count []
    rw [List.nil_append] at cut
    rw [splitReplicas, cut]
  have questionless : '?' ∉ counted count := by
    have digits : Avoids ['?'] (Text.ofNat count) := .ofNat (by decide) _
    exact (Avoids.cons (by decide) (digits.append (by decide))).not_mem List.mem_cons_self
  have query : (Text.cutFirst '?' (counted count ++ '?' :: params)).getD
      (counted count ++ '?' :: params, []) = (counted count, params) := by
    rw [Text.cutFirst_append questionless]
    rfl
  exact secured_of_query asks whole query

/-- **Transport security** is never lost where the parameters stand before the replica count or
without one: `A?P` and `A?P[n]` are what `A` is, with TLS on and the other parameters of `P` in
their order.  Behind a count the parameters are dropped: `A[n]?P` keeps them only if `A` is no
address at all. -/
theorem secured_unless_behind_count (addressAvoids : Avoids ['?', '[', ']'] address)
    (paramsAvoid : Avoids ['?', '[', ']'] params) (positive : 0 < count)
    (asks : AsksForSecurity params) :
    (match Descriptor.parse address with
      | .error _ =>
          (∃ cause, Descriptor.parse (address ++ '?' :: params) = .error cause) ∧
            ∃ cause, Descriptor.parse (address ++ '?' :: params ++ counted count) = .error cause
      | .ok bare =>
          Descriptor.parse (address ++ '?' :: params) =
              .ok { bare.secured params with replicas := 1 } ∧
            Descriptor.parse (address ++ '?' :: params ++ counted count) = .ok
              { bare.secured params with
                replicas := if count < Text.wordRange then count else 1 }) ∧
      (Secured params (Descriptor.parse (address ++ counted count ++ '?' :: params)) ↔
        ∃ cause, Descriptor.parse address = .error cause) := by
  have addressPlain : Avoids [] address := addressAvoids.mono (by decide)
  have paramsPlain : Avoids [] ('?' :: params) := .cons (by decide) (paramsAvoid.mono (by decide))
  have bodyPlain : Avoids [] (address ++ '?' :: params) := addressPlain.append paramsPlain
  have uncounted : '[' ∉ address ++ '?' :: params := by
    rw [List.mem_append, not_or]
    exact ⟨addressAvoids.not_mem (by decide), bracket_not_mem_query paramsAvoid⟩
  have whole : splitReplicas (address ++ '?' :: params) = (address ++ '?' :: params, 1) := by
    rw [splitReplicas, Text.cutLast_eq_none_iff.mpr uncounted]
  have cut : splitReplicas (address ++ '?' :: params ++ counted count) =
      (address ++ '?' :: params, if count < Text.wordRange then count else 1) := by
    have nothing : '[' ∉ ([] : List Char) := List.not_mem_nil
    have counting := splitReplicas_counted (List.append_ne_nil_of_right_ne_nil address
      (List.cons_ne_nil '?' params)) nothing positive
    rwa [List.append_nil] at counting
  have first := ofTrimmed_before_count addressAvoids asks whole
  have second := ofTrimmed_before_count addressAvoids asks cut
  rw [Descriptor.parse, Descriptor.parse, Descriptor.parse, Descriptor.parse, addressPlain.trim,
    bodyPlain.trim, (bodyPlain.append (avoids_counted count)).trim,
    ((addressPlain.append (avoids_counted count)).append paramsPlain).trim]
  constructor
  · cases bare : Descriptor.ofTrimmed address with
    | error cause =>
        rw [bare] at first second
        exact ⟨⟨_, first⟩, _, second⟩
    | ok descriptor =>
        rw [bare] at first second
        exact ⟨first, second⟩
  · by_cases empty : address = []
    · rw [empty]
      constructor
      · intro _
        exact ⟨_, rfl⟩
      · intro _
        exact secured_of_no_address paramsAvoid asks
    · rw [ofTrimmed_behind_count addressAvoids paramsAvoid positive empty]
      cases bare : Descriptor.ofTrimmed address with
      | error cause => simp [Secured]
      | ok descriptor =>
          constructor
          · intro kept
            exact absurd (congrArg Descriptor.tls (kept _ rfl)) (Option.some_ne_none _).symm
          · rintro ⟨cause, refused⟩
            cases refused

/-- Two switches and another parameter, in each of the three forms. -/
theorem secured_three_replicas :
    let address := "cache:6379".toList
    let params := "ssl=maybe&ssl=true&w=1".toList
    Avoids ['?', '[', ']'] address ∧ Avoids ['?', '[', ']'] params ∧ AsksForSecurity params ∧
      Descriptor.parse (address ++ '?' :: params ++ counted 3) =
        .ok { address := "cache:6379", replicas := 3, tls := some ⟨none⟩, params := [("w", "1")] } ∧
      ¬ Secured params (Descriptor.parse (address ++ counted 3 ++ '?' :: params)) := by
  intro address params
  have addressAvoids : Avoids ['?', '[', ']'] address := by decide
  have paramsAvoid : Avoids ['?', '[', ']'] params := by decide
  have asks : AsksForSecurity params := by decide +kernel
  have read : Descriptor.parse address = .ok { address := "cache:6379" } := rfl
  have positive : 0 < 3 := by decide
  obtain ⟨kept, lost⟩ := secured_unless_behind_count addressAvoids paramsAvoid positive asks
  rw [read] at kept lost
  refine ⟨addressAvoids, paramsAvoid, asks, ?_, ?_⟩
  · rw [kept.2]
    exact congrArg Except.ok (by decide +kernel)
  · rw [lost]
    rintro ⟨cause, refused⟩
    cases refused

/-- The switch behind a count is not heard, and the connection is open. -/
theorem security_lost_behind_count :
    Avoids ['?', '[', ']'] "h".toList ∧ Avoids ['?', '[', ']'] "ssl=true".toList ∧
      AsksForSecurity "ssl=true".toList ∧
      "h".toList ++ counted 2 ++ '?' :: "ssl=true".toList = "h[2]?ssl=true".toList ∧
      Descriptor.parse "h[2]?ssl=true".toList =
        .ok { address := "h", replicas := 2, tls := none, params := [] } := by
  exact ⟨by decide, by decide, by decide +kernel, by decide +kernel, rfl⟩

end Forms

end Connection

end Polystore
