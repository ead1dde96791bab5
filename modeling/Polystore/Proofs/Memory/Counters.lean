import Polystore.Proofs.Memory.Sharding
import Polystore.Proofs.Text.Numerals

/-!
# Counters of a cache

Under the key of a counter lies the decimal text of a signed word, whatever was done to it.  So
a counter operation adds exactly, or refuses and changes nothing: what it refuses to add to is
there, since nothing that fits a signed word is too much for a counter that starts from zero.
-/

namespace Polystore

/-! ## Steps -/

/-- An integer from `-2 ^ 63` to `2 ^ 63 - 1`. -/
structure SignedWord where
  value : Int
  fits : Text.fitsSigned value = true := by decide
deriving DecidableEq

/-- The signed word that has no opposite. -/
def SignedWord.least : SignedWord where
  value := -Text.signedRange

theorem SignedWord.fits_neg_iff (word : SignedWord) :
    Text.fitsSigned (-word.value) = true ↔ word ≠ least := by
  have range : (Text.signedRange : Int) = 9223372036854775808 := rfl
  have fits := word.fits
  have same : word = least ↔ word.value = -Text.signedRange := by
    rcases word with ⟨value, fits⟩
    simp [least]
  rw [ne_eq, same]
  rw [Text.fitsSigned, decide_eq_true_iff] at fits ⊢
  omega

/-- What is asked of a counter that is to change by some amount. -/
inductive CounterOperation where
  | increment
  | decrement
  | add (delta : SignedWord)
  | subtract (amount : SignedWord)
deriving DecidableEq

/-- What a counter operation is to add. -/
def CounterOperation.delta : CounterOperation → Int
  | .increment => 1
  | .decrement => -1
  | .add delta => delta.value
  | .subtract amount => -amount.value

/-- What is asked of the counter under a key. -/
inductive CounterStep where
  | set (value : SignedWord) (ttl : Option Nat)
  | count (operation : CounterOperation)
  | delete
  | read

/-- An integer that is kept, perhaps until some time. -/
structure Count where
  value : Int
  expires : Option Nat := none
deriving DecidableEq

namespace Count

/-- Whether the integer is still there at a time. -/
def isLive (count : Count) (now : Nat) : Bool :=
  count.expires.all fun time => now < time

/-- How the integer is kept. -/
def cell (count : Count) : Cell where
  value := String.ofList (Text.ofInt count.value)
  expires := count.expires

theorem isLive_cell (count : Count) (now : Nat) : count.cell.isLive now = count.isLive now := by
  rw [Cell.isLive, cell, isLive]
  cases count.expires with
  | none => rfl
  | some time => rfl

end Count

/-- The integer that a cell keeps, if it keeps one. -/
def Cell.count? (cell : Cell) : Option Count :=
  (Text.readSigned? cell.value.toList).map fun value => ⟨value, cell.expires⟩

theorem Count.count?_cell {count : Count} (fits : Text.fitsSigned count.value = true) :
    count.cell.count? = some count := by
  rw [Cell.count?, cell, String.toList_ofList, Text.readSigned?_ofInt fits]
  rfl

/-! ## Nodes -/

namespace MemoryNode

variable {node : MemoryNode} {key : String} {start : Count} {now : Nat}

/-- A value is set for a time that ends while the clock counts. -/
theorem expiry_of_lt {ttl : Option Nat}
    (inTime : ∀ time, ttl = some time → now + time < clockRange) :
    expiry ttl now = .ok (ttl.map (now + ·)) := by
  cases ttl with
  | none => rfl
  | some time => exact if_pos (inTime time rfl)

theorem expiry_of_not_lt {ttl : Option Nat}
    (late : ¬∀ time, ttl = some time → now + time < clockRange) :
    expiry ttl now = .error .instant := by
  cases ttl with
  | none => exact absurd nofun late
  | some time =>
      refine if_neg fun inTime => late ?_
      rintro _ ⟨⟩
      exact inTime

/-- Keep an integer under a key. -/
def keep (key : String) (count : Count) (node : MemoryNode) : MemoryNode :=
  { node with cells := Keyed.insert key count.cell node.cells }

/-- What a counter starts from if nothing is there. -/
theorem zero_eq_cell : zero = Count.cell ⟨0, none⟩ := by
  have written : Text.ofInt 0 = ['0'] := by decide +kernel
  rw [Count.cell, written]
  rfl

/-- A count is read as its integer. -/
theorem readInteger_cell (fits : Text.fitsSigned start.value = true) (key : String) :
    readInteger key start.cell.value = .ok start.value := by
  rw [readInteger, Count.cell, String.toList_ofList, Text.trim_ofInt, Text.readSigned?_ofInt fits]

/-- A counter operation keeps the sum if it fits, and what the counter started from if not. -/
theorem add_of_counter (starts : node.counter key now = start.cell)
    (fits : Text.fitsSigned start.value = true) (delta : Int) :
    add key delta now node =
      if Text.fitsSigned (start.value + delta) then
        (.ok (start.value + delta), keep key ⟨start.value + delta, start.expires⟩ node)
      else (.error (.counterOverflow key), keep key start node) := by
  rw [add, starts, Count.cell, String.toList_ofList, Text.readSigned?_ofInt fits]
  rfl

end MemoryNode

/-! ## The pool of one node -/

namespace MemoryPool

/-- What the first segment keeps under a key. -/
def held? (pool : MemoryPool) (key : String) : Option Cell :=
  (pool.target? .first key).bind fun name => (pool.node name).cells.get? key

/-- The integer that is kept under a key, if one is. -/
def count? (pool : MemoryPool) (key : String) : Option Count :=
  (pool.held? key).bind Cell.count?

/-- The integer that is there under a key at a time, if one is. -/
def countAt? (pool : MemoryPool) (key : String) (now : Nat) : Option Count :=
  (pool.count? key).filter fun count => count.isLive now

/-- What comes of a counter operation at a reading of the clock. -/
def runOperation (key : String) (now : Nat) (pool : MemoryPool) :
    CounterOperation → Outcome MemoryPool Int
  | .increment => pool.add .first key 1 now
  | .decrement => pool.add .first key (-1) now
  | .add delta => pool.add .first key delta.value now
  | .subtract amount => pool.subtract .first key amount.value now

/-- The answer to a step at a reading of the clock, and the pool that it leaves. -/
def runCounter (key : String) (now : Nat) (pool : MemoryPool) :
    CounterStep → CacheReply × MemoryPool
  | .set value ttl => (pool.setInteger .first key value.value ttl now).map .done id
  | .count operation => (pool.runOperation key now operation).map .integer id
  | .delete => (pool.delete .first key).map (fun result => .done (result.mapError .error)) id
  | .read => (pool.getInteger .first key now).map .integer id

/-- The pool that steps on the counter of a key leave, each at its reading of the clock. -/
def countAll (key : String) (steps : List (Nat × CounterStep)) (pool : MemoryPool) : MemoryPool :=
  steps.foldl (fun pool (now, step) => (pool.runCounter key now step).2) pool

variable {pool : MemoryPool} {key : String} {now : Nat} {kept : Option Count}

/-- A call of the pool of one node is a call of that node. -/
theorem call_first {α : Type} (alone : pool.segments = ["local"]) (key : String)
    (action : MemoryNode → Outcome MemoryNode α) :
    pool.call .first key action =
      ((action (pool.node "local")).1, pool.setNode "local" (action (pool.node "local")).2) := by
  rw [call, target?, alone]
  rfl

theorem held?_first (alone : pool.segments = ["local"]) (key : String) :
    pool.held? key = (pool.node "local").cells.get? key := by
  rw [held?, target?, alone]
  rfl

theorem held?_setNode (alone : pool.segments = ["local"]) (node : MemoryNode) (key : String) :
    (pool.setNode "local" node).held? key = node.cells.get? key := by
  have same : (pool.setNode "local" node).segments = ["local"] := alone
  rw [held?_first same, node_setNode, if_pos rfl]

/-- What is to be kept for longer than the clock counts is not kept at all. -/
theorem setInteger_of_panic {ttl : Option Nat} {cause : Panic}
    (late : MemoryNode.expiry ttl now = .error cause) (value : Int) :
    pool.setInteger .first key value ttl now = (.error (.panic cause), pool) := by
  rw [setInteger, set, late]

/-- The pool has one node, which keeps an integer under the key, or nothing. -/
structure Counting (pool : MemoryPool) (key : String) (kept : Option Count) : Prop where
  alone : pool.segments = ["local"]
  held : pool.held? key = kept.map Count.cell
  fits : ∀ count, kept = some count → Text.fitsSigned count.value = true

/-- A new pool keeps nothing under any key. -/
theorem counting_single (key : String) : Counting single key none where
  alone := rfl
  held := rfl
  fits _ found := nomatch found

namespace Counting

theorem count? (counting : Counting pool key kept) : pool.count? key = kept := by
  rw [MemoryPool.count?, counting.held]
  cases kept with
  | none => rfl
  | some count => exact Count.count?_cell (counting.fits count rfl)

/-- What a counter starts from at a time: what is there then, or zero. -/
def startAt (kept : Option Count) (now : Nat) : Count :=
  (kept.filter fun count => count.isLive now).getD ⟨0, none⟩

theorem startAt_of_live {count : Count} (live : count.isLive now = true) :
    startAt (some count) now = count := by
  rw [startAt, Option.filter, if_pos live]
  rfl

theorem startAt_of_gone {count : Count} (gone : count.isLive now = false) :
    startAt (some count) now = ⟨0, none⟩ := by
  rw [startAt, Option.filter, if_neg (Bool.eq_false_iff.mp gone)]
  rfl

theorem fits_startAt (counting : Counting pool key kept) (now : Nat) :
    Text.fitsSigned (startAt kept now).value = true := by
  cases kept with
  | none => rfl
  | some count =>
      by_cases live : count.isLive now = true
      · rw [startAt_of_live live]
        exact counting.fits count rfl
      · rw [startAt_of_gone (Bool.eq_false_iff.mpr live)]
        rfl

theorem counter_eq (counting : Counting pool key kept) (now : Nat) :
    (pool.node "local").counter key now = (startAt kept now).cell := by
  have found := counting.held
  rw [held?_first counting.alone] at found
  rw [MemoryNode.counter, found]
  cases kept with
  | none => exact MemoryNode.zero_eq_cell
  | some count =>
      change (if count.cell.isLive now then count.cell else MemoryNode.zero) = _
      rw [Count.isLive_cell]
      by_cases live : count.isLive now = true
      · rw [startAt_of_live live, if_pos live]
      · rw [startAt_of_gone (Bool.eq_false_iff.mpr live), if_neg live]
        exact MemoryNode.zero_eq_cell

/-- An integer that is kept in place of what was there. -/
theorem keep (counting : Counting pool key kept) {count : Count}
    (fits : Text.fitsSigned count.value = true) :
    Counting (pool.setNode "local" ((pool.node "local").keep key count)) key (some count) where
  alone := counting.alone
  held := (held?_setNode counting.alone _ _).trans (Keyed.get?_insert_self _ _ _)
  fits _ same := Option.some.inj same ▸ fits

/-- A counter operation comes to the sum if it fits. -/
theorem add_of_fits (counting : Counting pool key kept) {delta : Int}
    (inside : Text.fitsSigned ((startAt kept now).value + delta) = true) :
    (pool.add .first key delta now).1 = .ok ((startAt kept now).value + delta) ∧
      Counting (pool.add .first key delta now).2 key
        (some ⟨(startAt kept now).value + delta, (startAt kept now).expires⟩) := by
  rw [MemoryPool.add, call_first counting.alone,
    MemoryNode.add_of_counter (counting.counter_eq now) (counting.fits_startAt now), if_pos inside]
  exact ⟨rfl, counting.keep inside⟩

/-- If the sum does not fit, the counter was there, and is there as before: zero has room for
every delta. -/
theorem add_of_not_fits (counting : Counting pool key kept) {delta : Int}
    (fits : Text.fitsSigned delta = true)
    (outside : ¬Text.fitsSigned ((startAt kept now).value + delta) = true) :
    (pool.add .first key delta now).1 = .error (.counterOverflow key) ∧
      Counting (pool.add .first key delta now).2 key kept ∧
      ∀ other, (pool.add .first key delta now).2.held? other = pool.held? other := by
  have there : kept = some (startAt kept now) := by
    have nonzero : startAt kept now ≠ ⟨0, none⟩ := by
      intro zero
      rw [zero, Int.zero_add] at outside
      exact outside fits
    cases kept with
    | none => exact absurd rfl nonzero
    | some count =>
        by_cases live : count.isLive now = true
        · exact congrArg some (startAt_of_live live).symm
        · exact absurd (startAt_of_gone (Bool.eq_false_iff.mpr live)) nonzero
  have same := counting.keep (counting.fits_startAt now)
  rw [← there] at same
  rw [MemoryPool.add, call_first counting.alone,
    MemoryNode.add_of_counter (counting.counter_eq now) (counting.fits_startAt now), if_neg outside]
  refine ⟨rfl, same, ?_⟩
  intro other
  rw [held?_setNode counting.alone, MemoryNode.keep, Keyed.get?_insert, held?_first counting.alone]
  split
  · next here =>
    rw [here, ← held?_first counting.alone, counting.held, ← Option.map_some, ← there]
  · rfl

/-- A counter operation comes to the sum if it fits and what is to be added can be. -/
theorem operation_of_fits (counting : Counting pool key kept) {operation : CounterOperation}
    (inside : Text.fitsSigned ((startAt kept now).value + operation.delta) = true)
    (possible : operation ≠ .subtract .least) :
    (pool.runOperation key now operation).1 = .ok ((startAt kept now).value + operation.delta) ∧
      Counting (pool.runOperation key now operation).2 key
        (some ⟨(startAt kept now).value + operation.delta, (startAt kept now).expires⟩) := by
  cases operation with
  | increment => exact counting.add_of_fits inside
  | decrement => exact counting.add_of_fits inside
  | add delta => exact counting.add_of_fits inside
  | subtract amount =>
      have opposite : Text.fitsSigned (-amount.value) = true :=
        amount.fits_neg_iff.mpr fun least => possible (congrArg CounterOperation.subtract least)
      rw [runOperation, MemoryPool.subtract, if_pos opposite]
      exact counting.add_of_fits inside

/-- A counter operation that is refused changes nothing. -/
theorem operation_of_not_fits (counting : Counting pool key kept) {operation : CounterOperation}
    (outside : ¬(Text.fitsSigned ((startAt kept now).value + operation.delta) = true ∧
      operation ≠ .subtract .least)) :
    (∃ cause, (pool.runOperation key now operation).1 = .error cause ∧
        cause.kind = .invalidArgument) ∧
      Counting (pool.runOperation key now operation).2 key kept ∧
      ∀ other, (pool.runOperation key now operation).2.held? other = pool.held? other := by
  have overflows {delta : Int} (fits : Text.fitsSigned delta = true)
      (outside : ¬Text.fitsSigned ((startAt kept now).value + delta) = true) :
      (∃ cause, (pool.add .first key delta now).1 = .error cause ∧
          cause.kind = .invalidArgument) ∧
        Counting (pool.add .first key delta now).2 key kept ∧
        ∀ other, (pool.add .first key delta now).2.held? other = pool.held? other := by
    obtain ⟨refused, unchanged⟩ := counting.add_of_not_fits fits outside
    exact ⟨⟨_, refused, rfl⟩, unchanged⟩
  cases operation with
  | increment => exact overflows rfl fun inside => outside ⟨inside, nofun⟩
  | decrement => exact overflows rfl fun inside => outside ⟨inside, nofun⟩
  | add delta => exact overflows delta.fits fun inside => outside ⟨inside, nofun⟩
  | subtract amount =>
      rw [runOperation, MemoryPool.subtract]
      split
      · next opposite =>
        refine overflows opposite fun inside => outside ⟨inside, ?_⟩
        intro least
        exact amount.fits_neg_iff.mp opposite (CounterOperation.subtract.inj least)
      · exact ⟨⟨_, rfl, rfl⟩, counting, fun _ => rfl⟩

/-- An integer is kept until its time has come. -/
theorem set (counting : Counting pool key kept) (value : SignedWord) {ttl expires : Option Nat}
    (inTime : MemoryNode.expiry ttl now = .ok expires) :
    (pool.setInteger .first key value.value ttl now).1 = .ok () ∧
      Counting (pool.setInteger .first key value.value ttl now).2 key
        (some ⟨value.value, expires⟩) := by
  have fits : Text.fitsSigned (Count.mk value.value expires).value = true := value.fits
  rw [setInteger, MemoryPool.set, inTime]
  dsimp only
  rw [call_first counting.alone]
  exact ⟨rfl, counting.keep fits⟩

/-- The pool after nothing is kept under the key any more. -/
theorem erase (counting : Counting pool key kept) :
    Counting (pool.setNode "local" ((pool.node "local").delete key)) key none where
  alone := counting.alone
  held := by
    rw [held?_setNode counting.alone, MemoryNode.delete, Keyed.get?_erase, if_pos rfl]
    rfl
  fits _ found := nomatch found

theorem delete (counting : Counting pool key kept) :
    (pool.delete .first key).1 = .ok () ∧ Counting (pool.delete .first key).2 key none := by
  rw [MemoryPool.delete, call_first counting.alone]
  exact ⟨rfl, counting.erase⟩

/-- A read changes nothing that is there. -/
theorem same (counting : Counting pool key kept) :
    Counting (pool.setNode "local" (pool.node "local")) key kept where
  alone := counting.alone
  held := by rw [held?_setNode counting.alone, ← held?_first counting.alone, counting.held]
  fits := counting.fits

/-- What is there is read as its integer. -/
theorem read_of_live (counting : Counting pool key kept) {count : Count}
    (there : kept = some count) (live : count.isLive now = true) :
    (pool.getInteger .first key now).1 = .ok count.value ∧
      Counting (pool.getInteger .first key now).2 key kept := by
  have found := counting.held
  rw [held?_first counting.alone, there, Option.map_some] at found
  have read : MemoryNode.get key now (pool.node "local") =
      (.ok count.cell.value, pool.node "local") := by
    rw [MemoryNode.get, found]
    exact if_pos ((Count.isLive_cell count now).trans live)
  rw [getInteger, MemoryPool.get, call_first counting.alone, read]
  exact ⟨MemoryNode.readInteger_cell (counting.fits count there) key, counting.same⟩

/-- What is not there is not found, and it is not kept any longer. -/
theorem read_of_gone (counting : Counting pool key kept)
    (gone : kept.filter (fun count => count.isLive now) = none) :
    (∃ cause, (pool.getInteger .first key now).1 = .error cause ∧ cause.kind = .notFound) ∧
      Counting (pool.getInteger .first key now).2 key none := by
  have found := counting.held
  rw [held?_first counting.alone] at found
  rw [getInteger, MemoryPool.get, call_first counting.alone, MemoryNode.get, found]
  cases kept with
  | none => exact ⟨⟨_, rfl, rfl⟩, counting.same⟩
  | some count =>
      have expired : ¬count.cell.isLive now = true := by
        rw [Count.isLive_cell]
        intro live
        rw [Option.filter, if_pos live] at gone
        contradiction
      dsimp only [Option.map_some]
      rw [if_neg expired]
      exact ⟨⟨_, rfl, rfl⟩, counting.erase⟩

/-! ## Runs -/

/-- Whatever is asked of a counter, an integer is kept under its key, or nothing. -/
theorem run (counting : Counting pool key kept) (now : Nat) (step : CounterStep) :
    ∃ after, Counting (pool.runCounter key now step).2 key after := by
  cases step with
  | set value ttl =>
      cases expiry : MemoryNode.expiry ttl now with
      | error cause =>
          refine ⟨kept, ?_⟩
          rw [runCounter, setInteger_of_panic expiry]
          exact counting
      | ok expires => exact ⟨_, (counting.set value expiry).2⟩
  | count operation =>
      by_cases inside : Text.fitsSigned ((startAt kept now).value + operation.delta) = true ∧
          operation ≠ .subtract .least
      · exact ⟨_, (counting.operation_of_fits inside.1 inside.2).2⟩
      · exact ⟨_, (counting.operation_of_not_fits inside).2.1⟩
  | delete => exact ⟨_, counting.delete.2⟩
  | read =>
      cases there : kept.filter fun count => count.isLive now with
      | none => exact ⟨_, (counting.read_of_gone there).2⟩
      | some count =>
          obtain ⟨found, live⟩ := Option.filter_eq_some_iff.mp there
          exact ⟨_, (counting.read_of_live found live).2⟩

theorem countAll (counting : Counting pool key kept) (steps : List (Nat × CounterStep)) :
    ∃ after, Counting (pool.countAll key steps) key after := by
  induction steps generalizing pool kept with
  | nil => exact ⟨kept, counting⟩
  | cons first rest ih =>
      obtain ⟨after, next⟩ := counting.run first.1 first.2
      exact ih next

end Counting

/-- After any steps on the counter of a key, a counter operation comes to the exact sum of what is
there, or of zero, and what it is to add, if the sum fits a signed word and no opposite is
missing.  The sum is there as long as its summand was.  Else the operation is refused, and
nothing that is kept changes.  Setting a counter for a time panics, and changes nothing either, if
that time ends further ahead than the clock counts. -/
theorem counters_exact (key : String) (earlier : List (Nat × CounterStep)) (now : Nat)
    (step : CounterStep) :
    let pool := single.countAll key earlier
    let (reply, after) := pool.runCounter key now step
    match step with
    | .count operation =>
        let start : Count := (pool.countAt? key now).getD ⟨0, none⟩
        let sum : Count := ⟨start.value + operation.delta, start.expires⟩
        if Text.fitsSigned sum.value = true ∧ operation ≠ .subtract .least then
          reply = .integer (.ok sum.value) ∧ after.count? key = some sum ∧
            ∀ later, sum.isLive later = true →
              (after.getInteger .first key later).1 = .ok sum.value
        else
          (∃ cause, reply = .integer (.error cause) ∧ cause.kind = .invalidArgument) ∧
            ∀ other, after.held? other = pool.held? other
    | .set value ttl =>
        if ∀ time, ttl = some time → now + time < MemoryNode.clockRange then
          reply = .done (.ok ()) ∧ after.count? key = some ⟨value.value, ttl.map (now + ·)⟩
        else reply = .done (.error (.panic .instant)) ∧ after = pool
    | .delete => reply = .done (.ok ()) ∧ after.held? key = none
    | .read =>
        match pool.countAt? key now with
        | some count => reply = .integer (.ok count.value) ∧ after.count? key = some count
        | none =>
            (∃ cause, reply = .integer (.error cause) ∧ cause.kind = .notFound) ∧
              after.held? key = none := by
  intro pool
  obtain ⟨kept, counting⟩ := (counting_single key).countAll earlier
  have there : pool.countAt? key now = kept.filter fun count => count.isLive now := by
    rw [countAt?, counting.count?]
  cases step with
  | set value ttl =>
      dsimp only
      split
      · next inTime =>
        obtain ⟨answer, after⟩ := counting.set value (MemoryNode.expiry_of_lt inTime)
        exact ⟨congrArg CacheReply.done answer, after.count?⟩
      · next late =>
        rw [runCounter, setInteger_of_panic (MemoryNode.expiry_of_not_lt late)]
        exact ⟨rfl, rfl⟩
  | count operation =>
      dsimp only
      rw [there]
      split
      · next inside =>
        obtain ⟨answer, after⟩ := counting.operation_of_fits inside.1 inside.2
        exact ⟨congrArg CacheReply.integer answer, after.count?,
          fun later live => (after.read_of_live rfl live).1⟩
      · next outside =>
        obtain ⟨⟨cause, answer, refused⟩, -, unchanged⟩ := counting.operation_of_not_fits outside
        exact ⟨⟨cause, congrArg CacheReply.integer answer, refused⟩, unchanged⟩
  | delete =>
      obtain ⟨answer, after⟩ := counting.delete
      exact ⟨congrArg (fun result => CacheReply.done (result.mapError .error)) answer, after.held⟩
  | read =>
      dsimp only
      rw [there]
      split
      · next count found =>
        obtain ⟨same, live⟩ := Option.filter_eq_some_iff.mp found
        obtain ⟨answer, after⟩ := counting.read_of_live same live
        exact ⟨congrArg CacheReply.integer answer, after.count?.trans same⟩
      · next gone =>
        obtain ⟨⟨cause, answer, missing⟩, after⟩ := counting.read_of_gone gone
        exact ⟨⟨cause, congrArg CacheReply.integer answer, missing⟩, after.held⟩

/-- A counter that was counted up to the largest signed word refuses one more, and is still there
as long as it was set for. -/
theorem counter_refused_past_largest :
    let steps : List (Nat × CounterStep) :=
      [(1, .set ⟨9223372036854775806, by decide⟩ (some 10)), (2, .count .increment)]
    let pool := single.countAll "hits" steps
    let after := (pool.runCounter "hits" 3 (.count .increment)).2
    pool.countAt? "hits" 3 = some ⟨9223372036854775807, some 11⟩ ∧
      ∀ other, after.held? other = pool.held? other := by
  intro steps pool after
  have there : pool.countAt? "hits" 3 = some ⟨9223372036854775807, some 11⟩ := by decide +kernel
  have exact := counters_exact "hits" steps 3 (.count .increment)
  dsimp only at exact
  rw [there, if_neg (by decide)] at exact
  exact ⟨there, exact.2⟩

end MemoryPool

end Polystore
