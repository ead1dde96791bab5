import Polystore.Pattern.Reader

/-!
# Reading what is written

The reader goes over a text from left to right and keeps the pieces that it has read.  A text is
read as some pieces if the reader adds exactly these to what it has and goes on behind the text,
whatever stands there.  Texts that are read so may be put one after the other, and what is written
between the marks of both ends is read as the sequence of its pieces between the two assertions.
-/

namespace Polystore.Pattern

/-! ## One character -/

theorem isMeta_iff (c : Char) :
    isMeta c = true ↔ c ∈ ['\\', '.', '+', '*', '?', '(', ')', '|', '[', ']', '\x7b', '\x7d', '^',
      '$', '#', '&', '-', '~'] := by
  rw [isMeta, List.contains_iff_mem]
  rfl

/-- A character that has a meaning stands for itself behind a backslash. -/
theorem readEscape_of_isMeta {c : Char} (special : isMeta c = true) (rest : List Char) :
    readEscape {} (c :: rest) = some (.literal c false, rest) := by
  rw [isMeta_iff] at special
  simp only [List.mem_cons, List.not_mem_nil, or_false] at special
  rcases special with rfl | rfl | rfl | rfl | rfl | rfl | rfl | rfl | rfl | rfl | rfl | rfl | rfl |
    rfl | rfl | rfl | rfl | rfl
  all_goals rfl

theorem toPattern_eq_literal (c : Char) : Flags.toPattern {} c = .literal [c] := by
  have single : (CharClass.one c).single? = some c := by
    rw [CharClass.single?, CharClass.one, CharClass.range]
    simp only [if_true, Char.ofNat_toNat]
  have folded : Flags.fold {} (.one c) = .one c := rfl
  rw [Flags.toPattern, folded, ofClass, single]

theorem readPrimitive_escaped {c : Char} (special : isMeta c = true) (rest : List Char) :
    readPrimitive {} '\\' (c :: rest) = some (.literal [c], rest) := by
  have pattern : (Escape.literal c false).toPattern? {} = some (.literal [c]) := by
    rw [Escape.toPattern?, toPattern_eq_literal]
    rfl
  change ((readEscape {} (c :: rest)).bind fun read =>
    (read.1.toPattern? {}).bind fun pattern => some (pattern, read.2)) = _
  rw [readEscape_of_isMeta special, Option.bind_some, pattern, Option.bind_some]

theorem readPrimitive_ordinary {c : Char} (ordinary : isMeta c = false) (rest : List Char) :
    readPrimitive {} c rest = some (.literal [c], rest) := by
  rw [← Bool.not_eq_true, isMeta_iff] at ordinary
  simp only [List.mem_cons, List.not_mem_nil, or_false, not_or] at ordinary
  rw [readPrimitive, toPattern_eq_literal]
  all_goals simp only [ordinary, imp_self]

/-- What begins neither a group, a class nor a branch and repeats nothing is a piece. -/
theorem readBranches_primitive {c : Char} {text rest : List Char} {pattern : Pattern}
    (begins : c ∉ [')', '|', '?', '*', '+', '\x7b', '[', '('])
    (read : readPrimitive {} c text = some (pattern, rest)) (fuel : Nat) (pieces : List Piece) :
    readBranches (fuel + 1) {} {} [] pieces (c :: text) =
      readBranches fuel {} {} [] ({ pattern } :: pieces) rest := by
  have skip : Flags.skip {} (c :: text) = c :: text := rfl
  simp only [List.mem_cons, List.not_mem_nil, or_false, not_or] at begins
  rw [readBranches, skip]
  -- every other branch of the reader is for one of the characters that are excluded
  split
  all_goals simp_all

/-! ## Texts -/

/-- A text is read as some pieces, the first of them first, with no more steps than it has
characters.  A question mark behind it might belong to its last piece. -/
def Reads (text : List Char) (found : List Piece) : Prop :=
  ∃ steps ≤ text.length, ∀ fuel pieces rest, rest.head? ≠ some '?' →
    readBranches (fuel + steps) {} {} [] pieces (text ++ rest) =
      readBranches fuel {} {} [] (found.reverse ++ pieces) rest

namespace Reads

variable {text more : List Char} {found others : List Piece}

theorem nil : Reads [] [] :=
  ⟨0, Nat.le_refl 0, fun _ _ _ _ => rfl⟩

theorem append (reads : Reads text found) (readsMore : Reads more others)
    (unmarked : more.head? ≠ some '?') : Reads (text ++ more) (found ++ others) := by
  obtain ⟨steps, few, read⟩ := reads
  obtain ⟨moreSteps, moreFew, readMore⟩ := readsMore
  refine ⟨moreSteps + steps, ?_, ?_⟩
  · rw [List.length_append, Nat.add_comm]
    exact Nat.add_le_add few moreFew
  · intro fuel pieces rest restUnmarked
    have joined : (more ++ rest).head? ≠ some '?' := by
      cases more with
      | nil => exact restUnmarked
      | cons c others => exact unmarked
    rw [← Nat.add_assoc, List.append_assoc, read _ _ _ joined, readMore _ _ _ restUnmarked,
      List.reverse_append, List.append_assoc]

theorem primitive {c : Char} {pattern : Pattern}
    (begins : c ∉ [')', '|', '?', '*', '+', '\x7b', '[', '('])
    (read : ∀ rest, readPrimitive {} c (text ++ rest) = some (pattern, rest)) :
    Reads (c :: text) [{ pattern }] := by
  refine ⟨1, Nat.succ_le_succ (Nat.zero_le _), ?_⟩
  intro fuel pieces rest _
  exact readBranches_primitive begins (read rest) fuel pieces

theorem escaped {c : Char} (special : isMeta c = true) :
    Reads ['\\', c] [{ pattern := .literal [c] }] :=
  primitive (by decide) fun rest => readPrimitive_escaped special rest

theorem ordinary {c : Char} (ordinary : isMeta c = false) :
    Reads [c] [{ pattern := .literal [c] }] := by
  refine primitive ?_ fun rest => readPrimitive_ordinary ordinary rest
  rw [← Bool.not_eq_true, isMeta_iff] at ordinary
  intro member
  apply ordinary
  simp only [List.mem_cons, List.not_mem_nil, or_false] at member
  rcases member with rfl | rfl | rfl | rfl | rfl | rfl | rfl | rfl
  all_goals decide

/-- Any character but a line feed. -/
theorem dot : Reads ['.'] [{ pattern := .one (CharClass.one '\n').complement }] :=
  primitive (by decide) fun _ => rfl

/-- An asterisk repeats the piece before it any number of times, and as often as it can if no
question mark follows. -/
theorem asterisk {piece : Piece} (reads : Reads text [piece]) (repeats : piece.directive = false) :
    Reads (text ++ ['*'])
      [{ pattern := piece.pattern.times 0 none true, depth := piece.depth + 1 }] := by
  obtain ⟨steps, few, read⟩ := reads
  refine ⟨1 + steps, ?_, ?_⟩
  · rw [List.length_append, Nat.add_comm]
    exact Nat.add_le_add_right few 1
  · intro fuel pieces rest unmarked
    -- here the question mark would be taken for a part of the repetition
    have greedy : readGreed {} rest = (true, rest) := by
      rw [readGreed]
      · rfl
      · rintro others rfl
        exact unmarked rfl
    have star : (['*'] ++ rest).head? ≠ some '?' := by
      rw [List.singleton_append, List.head?_cons]
      decide
    rw [← Nat.add_assoc, List.append_assoc, read _ _ _ star]
    change (repeatLatest 0 none (readGreed {} rest).1 (piece :: pieces)).bind (fun pieces =>
      readBranches fuel {} {} [] pieces (readGreed {} rest).2) = _
    rw [greedy, repeatLatest, repeats]
    rfl

end Reads

/-- Pieces between the two ends of a text, the latest first. -/
def enclosed (found : List Piece) : List Piece :=
  { pattern := .look .textEnd } :: (found.reverse ++ [{ pattern := .look .textStart }])

/-- What is written between the marks of both ends is read as the sequence of its pieces between
the two ends. -/
theorem parse?_between {text : List Char} {found : List Piece} (reads : Reads text found) :
    parse? ('^' :: (text ++ ['$'])) =
      if (inSequence (enclosed found)).depth ≤ nestingLimit then
        some (inSequence (enclosed found)).pattern
      else none := by
  obtain ⟨steps, few, read⟩ := reads
  have starts : readPrimitive {} '^' (text ++ ['$']) = some (.look .textStart, text ++ ['$']) := rfl
  have ends : readPrimitive {} '$' [] = some (.look .textEnd, []) := rfl
  -- one step for each mark, `steps` for the text, and one is left to see the end
  have length : ('^' :: (text ++ ['$'])).length + 1 = text.length - steps + 2 + steps + 1 := by
    rw [List.length_cons, List.length_append, List.length_singleton]
    omega
  rw [parse?, length, readBranches_primitive (by decide) starts, read _ _ _ (by decide),
    readBranches_primitive (by decide) ends]
  rfl

end Polystore.Pattern
