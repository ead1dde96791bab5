import Polystore.Proofs.Memory.Counters

/-!
# Readers of a cache and its counters

A reader and a counter take the same texts for integers, but the reader trims a text first.  So
they agree on every text without blanks at its ends.  A text with such blanks is refused by every
counter, also where a reader finds an integer in it.
-/

namespace Polystore

/-! ## Nodes -/

/-- The text of a cell is that of an integer, for a counter and for a reader that trims
nothing. -/
def Cell.Holds (cell : Cell) (value : Int) : Prop :=
  Text.Numeral cell.value.toList value ∧ Text.fitsSigned value = true

/-- No blanks stand at the ends of the text of a cell. -/
def Cell.IsTrim (cell : Cell) : Prop :=
  Text.trim cell.value.toList = cell.value.toList

theorem Cell.Holds.isTrim {cell : Cell} {value : Int} (holds : cell.Holds value) : cell.IsTrim :=
  holds.1.trim_eq

namespace MemoryNode

variable {node : MemoryNode} {key : String} {cell : Cell} {now : Nat}

theorem get_of_live (held : node.cells.get? key = some cell) (live : cell.isLive now = true) :
    get key now node = (.ok cell.value, node) := by
  rw [get, held]
  exact if_pos live

/-- An integer is read from the numerals of signed words, blanks around them left out. -/
theorem readInteger_eq_ok_iff {key text : String} {value : Int} :
    readInteger key text = .ok value ↔
      Text.Numeral (Text.trim text.toList) value ∧ Text.fitsSigned value = true := by
  rw [readInteger, ← Text.readSigned?_eq_some_iff]
  cases Text.readSigned? (Text.trim text.toList) with
  | none =>
      constructor
      · rintro ⟨⟩
      · rintro ⟨⟩
  | some number =>
      constructor
      · intro read
        exact congrArg some (Except.ok.inj read)
      · intro read
        exact congrArg Except.ok (Option.some.inj read)

theorem eq_notAnInteger_of_readInteger {key text : String} {cause : Error}
    (refused : readInteger key text = .error cause) : cause = .notAnInteger key text := by
  rw [readInteger] at refused
  split at refused
  · contradiction
  · exact (Except.error.inj refused).symm

/-- A counter counts from the integer that a live cell holds. -/
theorem add_of_holds (held : node.cells.get? key = some cell) (live : cell.isLive now = true)
    {value : Int} (holds : cell.Holds value) (delta : Int) :
    add key delta now node =
      if Text.fitsSigned (value + delta) then
        (.ok (value + delta), { node with
          cells := Keyed.insert key
            { cell with value := String.ofList (Text.ofInt (value + delta)) } node.cells })
      else (.error (.counterOverflow key), { node with
        cells := Keyed.insert key cell node.cells }) := by
  have starts : node.counter key now = cell := by
    rw [counter, held]
    exact if_pos live
  rw [add, starts, Text.readSigned?_eq_some_iff.mpr holds]

/-- A counter is refused where a live cell holds no integer, and the cell stays. -/
theorem add_of_not_holds (held : node.cells.get? key = some cell) (live : cell.isLive now = true)
    (unfit : ∀ value, ¬cell.Holds value) (delta : Int) :
    add key delta now node = (.error (.notACounter key),
      { node with cells := Keyed.insert key cell node.cells }) := by
  have starts : node.counter key now = cell := by
    rw [counter, held]
    exact if_pos live
  have unread : Text.readSigned? cell.value.toList = none := by
    rw [Option.eq_none_iff_forall_ne_some]
    intro value read
    exact unfit value (Text.readSigned?_eq_some_iff.mp read)
  rw [add, starts, unread]

end MemoryNode

/-! ## Pools -/

namespace MemoryPool

/-- What a pool keeps under a key, on the node that a call goes to. -/
def kept? (pool : MemoryPool) (route : Route) (key : String) : Option Cell :=
  (pool.target? route key).bind fun name => (pool.node name).cells.get? key

variable {pool : MemoryPool} {route : Route} {key : String} {cell : Cell} {now : Nat}

/-- A call about a key that is kept is answered by the node that keeps it. -/
theorem call_of_kept {α : Type} (kept : pool.kept? route key = some cell)
    (action : MemoryNode → Outcome MemoryNode α) :
    ∃ name, (pool.node name).cells.get? key = some cell ∧
      (pool.call route key action).1 = (action (pool.node name)).1 ∧
      (pool.call route key action).2.kept? route key =
        (action (pool.node name)).2.cells.get? key := by
  obtain ⟨name, routed, held⟩ := Option.bind_eq_some_iff.mp kept
  have called : pool.call route key action =
      ((action (pool.node name)).1, pool.setNode name (action (pool.node name)).2) := by
    rw [call, routed]
  have same : (pool.setNode name (action (pool.node name)).2).target? route key = some name :=
    routed
  rw [called, kept?, same, Option.bind_some, node_setNode, if_pos rfl]
  exact ⟨name, held, rfl, rfl⟩

/-- A live text is read as the integer that is found in it, and is kept. -/
theorem getInteger_of_live (kept : pool.kept? route key = some cell)
    (live : cell.isLive now = true) :
    (pool.getInteger route key now).1 = MemoryNode.readInteger key cell.value ∧
      (pool.getInteger route key now).2.kept? route key = some cell := by
  obtain ⟨name, held, answer, left⟩ := call_of_kept kept fun node => node.get key now
  rw [MemoryNode.get_of_live held live] at answer left
  rw [getInteger, get]
  dsimp only
  rw [answer]
  exact ⟨rfl, left.trans held⟩

theorem add_of_holds (kept : pool.kept? route key = some cell) (live : cell.isLive now = true)
    {value : Int} (holds : cell.Holds value) (delta : Int) :
    if Text.fitsSigned (value + delta) then
      (pool.add route key delta now).1 = .ok (value + delta)
    else (pool.add route key delta now).1 = .error (.counterOverflow key) ∧
      (pool.add route key delta now).2.kept? route key = some cell := by
  obtain ⟨name, held, answer, left⟩ := call_of_kept kept fun node => node.add key delta now
  rw [MemoryNode.add_of_holds held live holds] at answer left
  rw [add]
  split
  · next fits =>
    rw [if_pos fits] at answer
    exact answer
  · next unfit =>
    rw [if_neg unfit] at answer left
    exact ⟨answer, left.trans (Keyed.get?_insert_self _ _ _)⟩

theorem add_of_not_holds (kept : pool.kept? route key = some cell)
    (live : cell.isLive now = true) (unfit : ∀ value, ¬cell.Holds value) (delta : Int) :
    (pool.add route key delta now).1 = .error (.notACounter key) ∧
      (pool.add route key delta now).2.kept? route key = some cell := by
  obtain ⟨name, held, answer, left⟩ := call_of_kept kept fun node => node.add key delta now
  rw [MemoryNode.add_of_not_holds held live unfit] at answer left
  exact ⟨answer, left.trans (Keyed.get?_insert_self _ _ _)⟩

/-! ## Agreement -/

/-- A counter operation comes to the sum of an integer and what it adds, or would overflow, where
what is kept stays. -/
def CountsFrom (route : Route) (key : String) (cell : Cell) (value delta : Int)
    (outcome : Outcome MemoryPool Int) : Prop :=
  if Text.fitsSigned (value + delta) then outcome.1 = .ok (value + delta)
  else outcome.1 = .error (.counterOverflow key) ∧ outcome.2.kept? route key = some cell

/-- A counter operation takes what is kept for no integer, and leaves it. -/
structure RefusesText (route : Route) (key : String) (cell : Cell)
    (outcome : Outcome MemoryPool Int) : Prop where
  refused : ∃ cause, outcome.1 = .error cause ∧ cause.kind = .invalidArgument ∧
    cause = .notACounter key
  left : outcome.2.kept? route key = some cell

theorem refusesText_of_not_holds (kept : pool.kept? route key = some cell)
    (live : cell.isLive now = true) (unfit : ∀ value, ¬cell.Holds value) (delta : Int) :
    RefusesText route key cell (pool.add route key delta now) := by
  obtain ⟨answer, left⟩ := add_of_not_holds kept live unfit delta
  exact ⟨⟨_, answer, rfl, rfl⟩, left⟩

/-- Zero is added to no two integers alike, and to no text that is not an integer. -/
theorem holds_of_countsFrom_zero (kept : pool.kept? route key = some cell)
    (live : cell.isLive now = true) {value : Int}
    (counts : CountsFrom route key cell value 0 (pool.add route key 0 now)) :
    cell.Holds value := by
  by_cases integral : ∃ other, cell.Holds other
  · obtain ⟨other, holds⟩ := integral
    have sum := add_of_holds kept live holds 0
    rw [Int.add_zero, if_pos holds.2] at sum
    rw [CountsFrom, sum, Int.add_zero] at counts
    split at counts
    · rwa [← Except.ok.inj counts]
    · exact absurd counts.1 nofun
  · obtain ⟨refused, -⟩ := add_of_not_holds kept live (not_exists.mp integral) 0
    rw [CountsFrom, refused] at counts
    split at counts
    · contradiction
    · exact absurd counts.1 nofun

/-- A reader finds an integer in a live text exactly if the text without the blanks around it is
that of a signed word.  Where there are no such blanks, that is exactly if every counter operation
counts from this integer.  A text with such blanks is refused by every counter operation, and so
is a text in which a reader finds no integer; it stays as it is. -/
theorem readers_agree_with_counters_unless_padded (kept : pool.kept? route key = some cell)
    {later : Nat} (readable : cell.isLive now = true) (countable : cell.isLive later = true) :
    let (read, after) := pool.getInteger route key now
    let count (delta : SignedWord) := after.add route key delta.value later
    (∀ value, read = .ok value ↔
      Text.Numeral (Text.trim cell.value.toList) value ∧ Text.fitsSigned value = true) ∧
    (cell.IsTrim → ∀ value, read = .ok value ↔
      ∀ delta, CountsFrom route key cell value delta.value (count delta)) ∧
    (¬cell.IsTrim → ∀ delta, RefusesText route key cell (count delta)) ∧
    ∀ cause, read = .error cause → cause.kind = .parse ∧
      ∀ delta, RefusesText route key cell (count delta) := by
  obtain ⟨answer, left⟩ := getInteger_of_live kept readable
  dsimp only
  rw [answer]
  refine ⟨fun value => MemoryNode.readInteger_eq_ok_iff, ?_, ?_, ?_⟩
  · intro trim value
    have reads : MemoryNode.readInteger key cell.value = .ok value ↔ cell.Holds value := by
      rw [MemoryNode.readInteger_eq_ok_iff, trim]
      rfl
    rw [reads]
    constructor
    · exact fun holds delta => add_of_holds left countable holds delta.value
    · exact fun counts => holds_of_countsFrom_zero left countable (counts { value := 0 })
  · intro padded delta
    exact refusesText_of_not_holds left countable (fun value holds => padded holds.isTrim) _
  · intro cause refused
    rw [MemoryNode.eq_notAnInteger_of_readInteger refused]
    refine ⟨rfl, fun delta => refusesText_of_not_holds left countable ?_ _⟩
    intro value holds
    have read : MemoryNode.readInteger key cell.value = .ok value := by
      rw [MemoryNode.readInteger_eq_ok_iff, holds.isTrim]
      exact holds
    rw [refused] at read
    contradiction

/-- On one of two nodes, a reader and a counter find the same integer in a text with a sign and
zeros in front. -/
theorem counts_from_signed_text :
    let pool : MemoryPool := { segments := ["left", "right"] }
    let kept := (pool.set .byKey "hits" "-007" (some 5) 1).2
    (kept.getInteger .byKey "hits" 2).1 = .ok (-7) ∧
      ∀ delta : SignedWord, CountsFrom .byKey "hits" ⟨"-007", some 6⟩ (-7) delta.value
        ((kept.getInteger .byKey "hits" 2).2.add .byKey "hits" delta.value 3) := by
  intro pool kept
  have held : kept.kept? .byKey "hits" = some ⟨"-007", some 6⟩ := by decide +kernel
  have readable : Cell.isLive ⟨"-007", some 6⟩ 2 = true := by decide
  have countable : Cell.isLive ⟨"-007", some 6⟩ 3 = true := by decide
  have agree := readers_agree_with_counters_unless_padded held readable countable
  have read : (kept.getInteger .byKey "hits" 2).1 = .ok (-7) :=
    (getInteger_of_live held readable).1.trans rfl
  have trim : Cell.IsTrim ⟨"-007", some 6⟩ := by
    rw [Cell.IsTrim]
    decide +kernel
  exact ⟨read, (agree.2.1 trim (-7)).mp read⟩

/-- A reader takes a padded text for an integer to which a counter refuses to add. -/
theorem padded_text_read_and_not_counted :
    let pool := (single.set .first "k" " 5 " none 0).2
    (pool.getInteger .first "k" 1).1 = .ok 5 ∧
      (pool.add .first "k" 1 1).1 = .error (.notACounter "k") :=
  ⟨rfl, rfl⟩

end MemoryPool

end Polystore
