import Polystore.Glob
import Polystore.Proofs.Pattern.Reading
import Polystore.Proofs.Pattern.Sequence

/-!
# What wildcards stand for

A written pattern without classes stands for texts by one rule for each way to begin it.  The
pattern that it is compiled to finds exactly these texts among the keys, if wildcards stand for
any character but a line feed; that is all of them for keys on one line.
-/

namespace Polystore

namespace Glob

open Pattern

/-! ## Written patterns -/

/-- A bracket that is not behind a backslash opens a class. -/
def opensClass : List Char → Bool
  | [] => false
  | '\\' :: _ :: rest => opensClass rest
  | c :: rest => c == '[' || opensClass rest

/-- The texts that a written pattern without classes stands for, where wildcards stand for
characters of a kind. -/
inductive Stands (wild : Char → Prop) : List Char → List Char → Prop where
  | nil : Stands wild [] []
  | anyText {left rest text : List Char} (areWild : ∀ c ∈ left, wild c)
      (ofRest : Stands wild rest text) : Stands wild ('*' :: rest) (left ++ text)
  | anyChar {c : Char} {rest text : List Char} (isWild : wild c)
      (ofRest : Stands wild rest text) : Stands wild ('?' :: rest) (c :: text)
  | escaped {c : Char} {rest text : List Char} (ofRest : Stands wild rest text) :
      Stands wild ('\\' :: c :: rest) (c :: text)
  /-- A backslash at the end stands for itself. -/
  | backslash : Stands wild ['\\'] ['\\']
  | ordinary {c : Char} {rest text : List Char} (plain : c ∉ ['*', '?', '\\', '['])
      (ofRest : Stands wild rest text) : Stands wild (c :: rest) (c :: text)

namespace Stands

variable {wild more : Char → Prop} {written rest text : List Char}

theorem mono (stands : Stands wild written text) (all : ∀ c ∈ text, wild c → more c) :
    Stands more written text := by
  induction stands with
  | nil => exact .nil
  | anyText areWild _ ih =>
      rw [List.forall_mem_append] at all
      exact .anyText (fun c member => all.1 c member (areWild c member)) (ih all.2)
  | anyChar isWild _ ih =>
      rw [List.forall_mem_cons] at all
      exact .anyChar (all.1 isWild) (ih all.2)
  | escaped _ ih =>
      rw [List.forall_mem_cons] at all
      exact .escaped (ih all.2)
  | backslash => exact .backslash
  | ordinary plain _ ih =>
      rw [List.forall_mem_cons] at all
      exact .ordinary plain (ih all.2)

/-- What a text holds is written in the pattern or stands for a wildcard. -/
theorem wild_or_mem (stands : Stands wild written text) : ∀ c ∈ text, wild c ∨ c ∈ written := by
  have later {c first : Char} {rest : List Char} (either : wild c ∨ c ∈ rest) :
      wild c ∨ c ∈ first :: rest :=
    either.imp_right (List.mem_cons_of_mem first)
  induction stands with
  | nil => exact List.forall_mem_nil _
  | anyText areWild _ ih =>
      exact List.forall_mem_append.mpr
        ⟨fun c member => Or.inl (areWild c member), fun c member => later (ih c member)⟩
  | anyChar isWild _ ih =>
      exact List.forall_mem_cons.mpr ⟨Or.inl isWild, fun c member => later (ih c member)⟩
  | escaped _ ih =>
      exact List.forall_mem_cons.mpr ⟨Or.inr (List.mem_cons_of_mem _ List.mem_cons_self),
        fun c member => later (later (ih c member))⟩
  | backslash => exact fun c member => Or.inr member
  | ordinary _ _ ih =>
      exact List.forall_mem_cons.mpr
        ⟨Or.inr List.mem_cons_self, fun c member => later (ih c member)⟩

theorem nil_iff : Stands wild [] text ↔ text = [] := by
  constructor
  · rintro ⟨⟩
    rfl
  · rintro rfl
    exact .nil

theorem anyText_iff :
    Stands wild ('*' :: rest) text ↔ ∃ left right, text = left ++ right ∧
      (∀ c ∈ left, wild c) ∧ Stands wild rest right := by
  constructor
  · intro stands
    cases stands with
    | anyText areWild ofRest => exact ⟨_, _, rfl, areWild, ofRest⟩
    | ordinary plain ofRest => exact absurd List.mem_cons_self plain
  · rintro ⟨left, right, rfl, areWild, ofRest⟩
    exact .anyText areWild ofRest

theorem anyChar_iff :
    Stands wild ('?' :: rest) text ↔ ∃ c right, text = c :: right ∧ wild c ∧
      Stands wild rest right := by
  constructor
  · intro stands
    cases stands with
    | anyChar isWild ofRest => exact ⟨_, _, rfl, isWild, ofRest⟩
    | ordinary plain ofRest => exact absurd (by decide) plain
  · rintro ⟨c, right, rfl, isWild, ofRest⟩
    exact .anyChar isWild ofRest

theorem escaped_iff {c : Char} :
    Stands wild ('\\' :: c :: rest) text ↔ ∃ right, text = c :: right ∧
      Stands wild rest right := by
  constructor
  · intro stands
    cases stands with
    | escaped ofRest => exact ⟨_, rfl, ofRest⟩
    | ordinary plain ofRest => exact absurd (by decide) plain
  · rintro ⟨right, rfl, ofRest⟩
    exact .escaped ofRest

theorem backslash_iff : Stands wild ['\\'] text ↔ text = ['\\'] := by
  constructor
  · intro stands
    cases stands with
    | backslash => rfl
    | ordinary plain ofRest => exact absurd (by decide) plain
  · rintro rfl
    exact .backslash

theorem ordinary_iff {c : Char} (plain : c ∉ ['*', '?', '\\', '[']) :
    Stands wild (c :: rest) text ↔ ∃ right, text = c :: right ∧ Stands wild rest right := by
  constructor
  · intro stands
    cases stands with
    | ordinary _ ofRest => exact ⟨_, rfl, ofRest⟩
    | anyText | anyChar | escaped | backslash => exact absurd (by decide) plain
  · rintro ⟨right, rfl, ofRest⟩
    exact .ordinary plain ofRest

end Stands

/-! ## Their translation -/

theorem translate?_ordinary {c : Char} (plain : c ∉ ['*', '?', '\\', '[']) (rest : List Char) :
    translate? (c :: rest) = (translate? rest).map (escape c ++ ·) := by
  simp only [List.mem_cons, List.not_mem_nil, or_false, not_or] at plain
  obtain ⟨star, mark, backslash, bracket⟩ := plain
  rw [translate?]
  · exact star
  · exact mark
  · exact fun same _ => backslash same
  · exact fun _ _ same _ => backslash same
  · exact fun _ same _ => bracket same
  · exact fun _ same _ => bracket same
  · exact bracket

theorem reads_escape (c : Char) : Reads (escape c) [{ pattern := .literal [c] }] := by
  rw [escape]
  split
  · next special => exact .escaped special
  · next ordinary => exact .ordinary (Bool.not_eq_true _ ▸ ordinary)

/-- A question mark that stands for itself is behind a backslash. -/
theorem head?_escape_append_ne (c : Char) (more : List Char) :
    (escape c ++ more).head? ≠ some '?' := by
  rw [escape]
  split
  · exact nofun
  · next ordinary =>
    intro same
    cases same
    exact ordinary (by decide)

/-- Any character but a line feed. -/
abbrev anyOnLine : CharClass := (CharClass.one '\n').complement

/-- Any text without line feeds. -/
abbrev anyLine : Pattern := .repeated (.one anyOnLine) 0 none true

theorem reads_anyLine : Reads ['.', '*'] [{ pattern := anyLine, depth := 1 }] :=
  Reads.dot.asterisk rfl

theorem contains_anyOnLine_iff (c : Char) : anyOnLine.contains c.toNat = true ↔ c ≠ '\n' := by
  have last : c.toNat ≤ 1114111 := by
    have bound := c.valid
    rw [UInt32.isValidChar] at bound
    change c.toNat < 0xd800 ∨ 0xdfff < c.toNat ∧ c.toNat < 0x110000 at bound
    omega
  have feed : c.toNat = '\n'.toNat ↔ c = '\n' := Char.toNat_inj
  have ranges : anyOnLine.ranges = [(0, 9), (11, 1114111)] := rfl
  rw [CharClass.contains, ranges, Ne, ← feed]
  simp only [List.any_cons, List.any_nil, CharClass.isWithin, Bool.or_false, Bool.or_eq_true,
    Bool.and_eq_true, decide_eq_true_iff]
  change 0 ≤ c.toNat ∧ c.toNat ≤ 9 ∨ 11 ≤ c.toNat ∧ c.toNat ≤ 1114111 ↔ ¬c.toNat = 10
  omega

section

variable {before after : Option Char} {text : List Char}

theorem matches_anyChar_iff :
    (Pattern.one anyOnLine).Matches before text after ↔ ∃ c, text = [c] ∧ c ≠ '\n' := by
  constructor
  · rintro ⟨⟩
    exact ⟨_, rfl, (contains_anyOnLine_iff _).mp ‹_›⟩
  · rintro ⟨c, rfl, onLine⟩
    exact .one before after ((contains_anyOnLine_iff c).mpr onLine)

theorem matches_anyText_iff :
    anyLine.Matches before text after ↔
      ∀ c ∈ text, c ≠ '\n' := by
  constructor
  · intro found
    generalize copies : anyLine = pattern at found
    induction found with
    | empty | look | literal | one | group | seq | left | right => contradiction
    | done => exact List.forall_mem_nil _
    | more _ ofInner _ _ ofRest =>
        cases copies
        obtain ⟨c, rfl, onLine⟩ := matches_anyChar_iff.mp ofInner
        exact List.forall_mem_cons.mpr ⟨onLine, ofRest rfl⟩
  · intro onLine
    induction text generalizing before with
    | nil => exact .done before after
    | cons c rest ih =>
        rw [List.forall_mem_cons] at onLine
        rw [← List.singleton_append]
        exact .more nofun (matches_anyChar_iff.mpr ⟨c, rfl, onLine.1⟩) (ih onLine.2)

end

/-- A written pattern without classes is translated to a text that is read as some pieces, and
these match in turn what the pattern stands for. -/
structure Pieces (written text : List Char) (found : List Piece) : Prop where
  translated : translate? written = some text
  reads : Reads text found
  unmarked : text.head? ≠ some '?'
  shallow : ∀ piece ∈ found, piece.depth ≤ 1
  uncounted : ∀ piece ∈ found, piece.pattern.IsUncounted
  exact : ∀ before text after, InTurn (found.map (·.pattern)) before text after ↔
    Stands (· ≠ '\n') written text

namespace Pieces

variable {written rest text : List Char} {found : List Piece}

/-- What a written pattern begins with is one more piece. -/
theorem cons (ofRest : Pieces rest text found) {first : List Char} {piece : Piece}
    (translated : translate? written = (translate? rest).map (first ++ ·))
    (reads : Reads first [piece]) (unmarked : (first ++ text).head? ≠ some '?')
    (shallow : piece.depth ≤ 1) (uncounted : piece.pattern.IsUncounted)
    (stands : ∀ before text after, (∃ left right, text = left ++ right ∧
        piece.pattern.Matches before left (firstOr right after) ∧
          Stands (· ≠ '\n') rest right) ↔ Stands (· ≠ '\n') written text) :
    Pieces written (first ++ text) (piece :: found) where
  translated := by rw [translated, ofRest.translated, Option.map_some]
  reads := reads.append ofRest.reads ofRest.unmarked
  unmarked := unmarked
  shallow := List.forall_mem_cons.mpr ⟨shallow, ofRest.shallow⟩
  uncounted := List.forall_mem_cons.mpr ⟨uncounted, ofRest.uncounted⟩
  exact before text after := by
    rw [List.map_cons, inTurn_cons_iff, ← stands before text after]
    simp only [ofRest.exact]

/-- A character that stands for itself, however it is written, is a text of its own. -/
theorem literal (ofRest : Pieces rest text found) {c : Char}
    (translated : translate? written = (translate? rest).map (escape c ++ ·))
    (stands : ∀ text, Stands (· ≠ '\n') written text ↔ ∃ right, text = c :: right ∧
      Stands (· ≠ '\n') rest right) :
    Pieces written (escape c ++ text) ({ pattern := .literal [c] } :: found) := by
  refine ofRest.cons translated (reads_escape c) (head?_escape_append_ne c text) (Nat.zero_le 1)
    trivial ?_
  intro before text after
  rw [stands]
  simp only [matches_literal_iff]
  constructor
  · rintro ⟨_, right, rfl, rfl, ofRight⟩
    exact ⟨right, rfl, ofRight⟩
  · rintro ⟨right, rfl, ofRight⟩
    exact ⟨[c], right, rfl, rfl, ofRight⟩

theorem anyText (ofRest : Pieces rest text found) :
    Pieces ('*' :: rest) (['.', '*'] ++ text) ({ pattern := anyLine, depth := 1 } :: found) := by
  refine ofRest.cons (by rw [translate?]) reads_anyLine nofun (Nat.le_refl 1) ⟨trivial, rfl, rfl⟩ ?_
  intro before text after
  rw [Stands.anyText_iff]
  simp only [matches_anyText_iff]

theorem anyChar (ofRest : Pieces rest text found) :
    Pieces ('?' :: rest) (['.'] ++ text) ({ pattern := .one anyOnLine } :: found) := by
  refine ofRest.cons (by rw [translate?]) Reads.dot nofun (Nat.zero_le 1) trivial ?_
  intro before text after
  rw [Stands.anyChar_iff]
  simp only [matches_anyChar_iff]
  constructor
  · rintro ⟨_, right, rfl, ⟨c, rfl, onLine⟩, ofRight⟩
    exact ⟨c, right, rfl, onLine, ofRight⟩
  · rintro ⟨c, right, rfl, onLine, ofRight⟩
    exact ⟨[c], right, rfl, ⟨c, rfl, onLine⟩, ofRight⟩

end Pieces

theorem exists_pieces {written : List Char} (classless : opensClass written = false) :
    ∃ text found, Pieces written text found := by
  -- `opensClass` steps over what is behind a backslash as the translation does, except that it
  -- takes a backslash at the end for any other character
  fun_induction opensClass written with
  | case1 =>
      exact ⟨[], [], rfl, .nil, nofun, List.forall_mem_nil _, List.forall_mem_nil _,
        fun _ _ _ => Stands.nil_iff.symm⟩
  | case2 c rest ih =>
      obtain ⟨text, found, ofRest⟩ := ih classless
      have translated : translate? ('\\' :: c :: rest) = (translate? rest).map (escape c ++ ·) := by
        rw [translate?]
      exact ⟨_, _, ofRest.literal translated fun text => Stands.escaped_iff⟩
  | case3 c rest notEscape ih =>
      rw [Bool.or_eq_false_iff, beq_eq_false_iff_ne] at classless
      obtain ⟨text, found, ofRest⟩ := ih classless.2
      by_cases star : c = '*'
      · subst star
        exact ⟨_, _, ofRest.anyText⟩
      · by_cases mark : c = '?'
        · subst mark
          exact ⟨_, _, ofRest.anyChar⟩
        · by_cases backslash : c = '\\'
          · subst backslash
            cases rest with
            | nil =>
                have translated : translate? ['\\'] = (translate? []).map (escape '\\' ++ ·) := by
                  decide
                refine ⟨_, _, ofRest.literal translated ?_⟩
                intro text
                rw [Stands.backslash_iff]
                simp only [Stands.nil_iff]
                constructor
                · rintro rfl
                  exact ⟨[], rfl, rfl⟩
                · rintro ⟨right, rfl, rfl⟩
                  rfl
            | cons next others => exact (notEscape _ _ rfl rfl).elim
          · have plain : c ∉ ['*', '?', '\\', '['] := by
              simp [star, mark, backslash, classless.1]
            exact ⟨_, _, ofRest.literal (translate?_ordinary plain rest) fun text =>
              Stands.ordinary_iff plain⟩

/-! ## What they are compiled to -/

/-- The patterns of some pieces between both ends of a text. -/
def inWhole (found : List Piece) : List Pattern :=
  .look .textStart :: (found.map (·.pattern) ++ [.look .textEnd])

/-- The pattern of pieces between both ends of a text. -/
def whole (found : List Piece) : Pattern :=
  .ofList (inWhole found)

theorem inSequence_of_several {several : List Piece} (more : 2 ≤ several.length) :
    inSequence several = {
      pattern := .ofList (several.reverse.map (·.pattern))
      depth := 1 + (several.map (·.depth)).foldl max 0 } := by
  match several, more with
  | _ :: _ :: _, _ => rfl

theorem inSequence_enclosed (found : List Piece) :
    inSequence (enclosed found) = {
      pattern := whole found
      depth := 1 + ((enclosed found).map (·.depth)).foldl max 0 } := by
  have several : 2 ≤ (enclosed found).length := by
    rw [enclosed, List.length_cons, List.length_append]
    exact Nat.succ_le_succ (Nat.le_add_left 1 _)
  have inOrder : (enclosed found).reverse.map (·.pattern) = inWhole found := by
    rw [enclosed, List.reverse_cons, List.reverse_append, List.reverse_reverse, List.map_append,
      List.map_append]
    rfl
  rw [inSequence_of_several several, inOrder, whole]

theorem foldl_max_le {depths : List Nat} {bound most : Nat} (within : most ≤ bound)
    (all : ∀ depth ∈ depths, depth ≤ bound) : depths.foldl max most ≤ bound := by
  induction depths generalizing most with
  | nil => exact within
  | cons depth rest ih =>
      rw [List.forall_mem_cons] at all
      exact ih (Nat.max_le.mpr ⟨within, all.1⟩) all.2

theorem depth_enclosed_le {found : List Piece} (shallow : ∀ piece ∈ found, piece.depth ≤ 1) :
    (inSequence (enclosed found)).depth ≤ 2 := by
  rw [inSequence_enclosed]
  apply Nat.add_le_add_left (m := 1)
  apply foldl_max_le (Nat.zero_le 1)
  intro depth member
  simp only [enclosed, List.mem_map, List.mem_reverse, List.mem_cons, List.mem_append,
    List.not_mem_nil, or_false] at member
  obtain ⟨piece, rfl | within | rfl, rfl⟩ := member
  · exact Nat.zero_le 1
  · exact shallow piece within
  · exact Nat.zero_le 1

theorem isUncounted_whole {found : List Piece}
    (uncounted : ∀ piece ∈ found, piece.pattern.IsUncounted) : (whole found).IsUncounted := by
  apply isUncounted_ofList
  intro pattern member
  simp only [inWhole, List.mem_cons, List.mem_append, List.mem_map, List.not_mem_nil,
    or_false] at member
  obtain rfl | ⟨piece, within, rfl⟩ | rfl := member
  · trivial
  · exact uncounted piece within
  · trivial

/-- The translation of a written pattern is in the notation, so the pattern is compiled unless it
is too large. -/
theorem Pieces.toPatternWithin_eq {written : String} {text : List Char} {found : List Piece}
    (pieces : Pieces written.toList text found) (accepts : Pattern → Bool) :
    toPatternWithin accepts written =
      if accepts (whole found) then .ok (whole found) else .error .invalidPattern := by
  have shallow : (inSequence (enclosed found)).depth ≤ nestingLimit :=
    Nat.le_trans (depth_enclosed_le pieces.shallow) (by decide)
  have parsed : parse? ('^' :: (text ++ ['$'])) = some (whole found) := by
    rw [parse?_between pieces.reads, if_pos shallow, inSequence_enclosed]
  rw [toPatternWithin, pieces.translated]
  dsimp only
  rw [compileWithin, String.toList_ofList, parsed, Option.filter_some]
  cases accepts (whole found) with
  | false => rfl
  | true => rfl

/-- The pattern is found in the keys that the written pattern stands for. -/
theorem Pieces.isIn_iff {written text : List Char} {found : List Piece}
    (pieces : Pieces written text found) (key : String) :
    (whole found).isIn key = true ↔ Stands (· ≠ '\n') written key.toList := by
  rw [Pattern.isIn, matchesIn_iff (isUncounted_whole pieces.uncounted), whole, inWhole,
    matchesIn_ofList_iff]
  exact pieces.exact none key.toList none

/-- **Wildcards.**  The translation of a written pattern without classes is always in the notation
of patterns, so it is compiled unless the pattern that it denotes is too large, whatever limit is
set to that; `toPattern` is the case of an estimated limit.  The pattern is found in exactly the
keys that the written pattern stands for, with `*` for any text without line feeds and `?` for any
character but a line feed; so on keys of one line, `*` stands for any text and `?` for any
character. -/
theorem found_iff_stands {written : String} (classless : opensClass written.toList = false) :
    ∃ pattern, (∀ accepts, toPatternWithin accepts written =
        if accepts pattern then .ok pattern else .error .invalidPattern) ∧
      ∀ key : String,
        (pattern.isIn key = true ↔ Stands (· ≠ '\n') written.toList key.toList) ∧
          ('\n' ∉ key.toList →
            (pattern.isIn key = true ↔ Stands (fun _ => True) written.toList key.toList)) := by
  obtain ⟨text, found, pieces⟩ := exists_pieces classless
  refine ⟨whole found, pieces.toPatternWithin_eq, ?_⟩
  intro key
  refine ⟨pieces.isIn_iff key, ?_⟩
  intro oneLine
  rw [pieces.isIn_iff]
  constructor
  · intro stands
    exact stands.mono fun _ _ _ => trivial
  · intro stands
    refine stands.mono ?_
    rintro c member - rfl
    exact oneLine member

/-- A wildcard for one character, one for any text, and an asterisk that stands for itself. -/
theorem found_escaped_asterisk :
    opensClass "k?y\\**".toList = false ∧
      ∃ pattern, toPatternWithin (fun _ => true) "k?y\\**" = .ok pattern ∧
        pattern.isIn "key*12" = true ∧ pattern.isIn "key*1\n2" = false := by
  have classless : opensClass "k?y\\**".toList = false := by decide
  obtain ⟨pattern, compiled, exact⟩ := found_iff_stands classless
  refine ⟨classless, pattern, compiled fun _ => true, ?_, ?_⟩
  · rw [(exact "key*12").2 (by decide)]
    have rest : Stands (fun _ => True) ['*'] ['1', '2'] :=
      @Stands.anyText _ ['1', '2'] [] [] (fun _ _ => trivial) .nil
    exact .ordinary (by decide) (.anyChar trivial (.ordinary (by decide) (.escaped rest)))
  · rw [Bool.eq_false_iff, Ne, (exact "key*1\n2").1]
    intro stands
    rcases stands.wild_or_mem '\n' (by decide) with onLine | written
    · exact onLine rfl
    · exact absurd written (by decide)

/-- A line feed in a key is no character to a wildcard: neither `*` nor `?` stands for it, whatever
the limit is that lets the patterns be compiled. -/
theorem line_feed_not_found :
    (∃ pattern, (∀ accepts, toPatternWithin accepts "a*b" =
        if accepts pattern then .ok pattern else .error .invalidPattern) ∧
        pattern.isIn "a\nb" = false) ∧
      (∃ pattern, (∀ accepts, toPatternWithin accepts "a?b" =
        if accepts pattern then .ok pattern else .error .invalidPattern) ∧
        pattern.isIn "a\nb" = false) ∧
      Stands (fun _ => True) "a*b".toList "a\nb".toList ∧
      Stands (fun _ => True) "a?b".toList "a\nb".toList := by
  have missed {written : String} (classless : opensClass written.toList = false)
      (unwritten : '\n' ∉ written.toList) :
      ∃ pattern, (∀ accepts, toPatternWithin accepts written =
        if accepts pattern then .ok pattern else .error .invalidPattern) ∧
        pattern.isIn "a\nb" = false := by
    obtain ⟨text, found, pieces⟩ := exists_pieces classless
    refine ⟨whole found, pieces.toPatternWithin_eq, ?_⟩
    rw [Bool.eq_false_iff, Ne, pieces.isIn_iff]
    intro stands
    rcases stands.wild_or_mem '\n' (by decide) with onLine | written
    · exact onLine rfl
    · exact unwritten written
  have last : Stands (fun _ => True) ['b'] ['b'] := .ordinary (by decide) .nil
  refine ⟨missed (by decide) (by decide), missed (by decide) (by decide),
    .ordinary (by decide) ?_, .ordinary (by decide) (.anyChar trivial last)⟩
  exact @Stands.anyText _ ['\n'] ['b'] ['b'] (fun _ _ => trivial) last

end Glob

end Polystore
