import Polystore.Pattern.Extent

/-!
# Needles

A pattern that asks for one of a few words is matched by looking for the words,
and needs no automaton.  The words are gathered from the pattern as needles,
texts of bytes of which each match begins with one: an exact needle is a match
by itself, after another one the rest of the pattern is still to be matched.

Needles are cut and dropped where there would be too many of them or where
shorter ones are found faster.  `isSearch` holds if they are all exact in the
end, so that nothing is left to be matched.
-/

namespace Polystore.Pattern

/-- What a match begins with. -/
structure Needle where
  bytes : List Nat
  /-- Whether the needle is a match by itself. -/
  exact : Bool := true
deriving DecidableEq, Repr

/-- The needles of a pattern, those that are preferred first; `none` if there is
no telling what a match begins with. -/
abbrev Needles := Option (List Needle)

namespace Needle

/-- At most so many characters of a class are tried one by one. -/
def classLimit : Nat := 10

/-- At most so many copies are written out. -/
def copiesLimit : Nat := 10

/-- A needle has at most so many bytes. -/
def lengthLimit : Nat := 100

/-- There are at most so many needles. -/
def countLimit : Nat := 250

/-- Cut needles to so many bytes; a needle that is cut is no longer exact. -/
def cut (length : Nat) (needles : List Needle) : List Needle :=
  needles.map fun needle =>
    if needle.bytes.length ≤ length then needle else ⟨needle.bytes.take length, false⟩

/-- Equal needles that follow each other as one, which is exact if all of them
are. -/
def dedup : List Needle → List Needle
  | [] => []
  | needle :: rest =>
      match dedup rest with
      | [] => [needle]
      | next :: more =>
          if needle.bytes = next.bytes then
            { needle with exact := needle.exact && next.exact } :: more
          else needle :: next :: more

/-- The same needles, none of them exact. -/
def inexact (needles : List Needle) : List Needle :=
  needles.map ({ · with exact := false })

/-- Whether none of some needles is exact. -/
def areInexact (needles : List Needle) : Bool :=
  needles.all (!·.exact)

/-- Whether all of some needles are exact. -/
def areExact (needles : List Needle) : Bool :=
  needles.all (·.exact)

/-- The needle of the empty text. -/
def ofEmpty : Needle := ⟨[], true⟩

end Needle

namespace Needles

open Needle

/-- The needles of a sequence by those of what is before and of what follows. -/
def cross (before after : Needles) : Needles := do
  let lefts ← before
  let tooMany := after.any fun rights => decide (countLimit < lefts.length * rights.length)
  match if tooMany then none else after with
  | none =>
      if lefts.any (·.bytes.isEmpty) then none
      else some (Needle.cut lengthLimit (inexact lefts))
  | some rights =>
      let both := lefts.flatMap fun left =>
        if left.exact then
          rights.map fun right => ⟨left.bytes ++ right.bytes, right.exact⟩
        else [left]
      some (Needle.cut lengthLimit (dedup both))

/-- The needles of a choice.  If they would be too many, they are cut. -/
def join (left right : Needles) : Needles := do
  let lefts ← left
  let rights ← right
  if lefts.length + rights.length ≤ countLimit then some (dedup (lefts ++ rights))
  else
    let lefts := dedup (Needle.cut 4 lefts)
    let rights := dedup (Needle.cut 4 rights)
    if lefts.length + rights.length ≤ countLimit then some (dedup (lefts ++ rights)) else none

/-- Extend needles by what follows, if there is one that may be extended. -/
def extend (before after : Needles) : Needles :=
  if before.all areInexact then before else cross before after

/-- The needles of a class. -/
def ofClass (kind : CharClass) : Needles :=
  let count := kind.ranges.foldl (fun count range => count + (range.2 + 1 - range.1)) 0
  if classLimit < count then none
  else
    let codes := kind.ranges.flatMap fun range =>
      (List.range (range.2 + 1 - range.1)).map (range.1 + ·)
    some (codes.map fun code => ⟨Text.Utf8.encode code, true⟩)

/-- The needles of copies by those of one. -/
def copies (inner : Needles) (least : Nat) (most : Option Nat) (greedy : Bool) : Needles :=
  if least = 0 then
    let some' := if most = some 1 then inner else inner.map inexact
    let none' : Needles := some [ofEmpty]
    if greedy then join some' none' else join none' some'
  else
    let all := (List.range (min least copiesLimit)).foldl (fun needles _ => extend needles inner)
      (some [ofEmpty])
    if most = some least ∧ least ≤ copiesLimit then all else all.map inexact

end Needles

/-- What a pattern does to the needles of what is before it, and to those of the
branches before it. -/
def gather : Pattern → (Needles → Needles) × (Needles → Needles)
  | empty => ofNeedles (some [Needle.ofEmpty])
  | look _ => ofNeedles (some [Needle.ofEmpty])
  | literal text =>
      ofNeedles (some (Needle.cut Needle.lengthLimit [⟨Text.Utf8.encodeText text, true⟩]))
  | one kind => ofNeedles (Needles.ofClass kind)
  | group _ inner => ofNeedles ((gather inner).1 (some [Needle.ofEmpty]))
  | repeated inner least most greedy =>
      ofNeedles (Needles.copies ((gather inner).1 (some [Needle.ofEmpty])) least most greedy)
  | seq first second =>
      let extend (needles : Needles) := (gather second).1 ((gather first).1 needles)
      (extend, fun needles => Needles.join needles (extend (some [Needle.ofEmpty])))
  | alt left right =>
      let join (needles : Needles) := (gather right).2 ((gather left).2 needles)
      (fun needles => Needles.extend needles (join (some [])), join)
where
  /-- What needles of its own make a pattern do. -/
  ofNeedles (own : Needles) : (Needles → Needles) × (Needles → Needles) :=
    (fun needles => Needles.extend needles own, fun needles => Needles.join needles own)

/-- The needles of a pattern. -/
def needles (pattern : Pattern) : Needles :=
  pattern.gather.1 (some [Needle.ofEmpty])

namespace Needle

/-- Drop needles that begin with a needle before them. -/
def minimize (needles : List Needle) : List Needle :=
  (needles.foldl (fun (kept : List Needle) needle =>
    if kept.any fun earlier => earlier.bytes.isPrefixOf needle.bytes then kept
    else needle :: kept) []).reverse

/-- What all needles begin with. -/
def commonStart : List Needle → List Nat
  | [] => []
  | first :: rest =>
      rest.foldl (fun shared needle =>
        ((shared.zip needle.bytes).takeWhile fun (left, right) => left == right).map (·.1))
        first.bytes

/-- The bytes that are frequent in texts. -/
def isFrequent (byte : Nat) : Bool :=
  decide (0xC0 ≤ byte) ||
    "\n\r (),-./0129:_abcdefghilmnoprstuvxy|".toList.any fun c => c.toNat == byte

/-- Cut many needles further and further, as long as they remain many. -/
def shorten (needles : List Needle) : List Needle :=
  [(5, 10), (4, 10), (3, 64), (2, 64), (1, 10)].foldl
    (fun (state : List Needle × Bool) (length, count) =>
      if state.2 || decide (state.1.length ≤ count) then (state.1, true)
      else (minimize (cut length state.1), false))
    (needles, false) |>.1

/-- Whether some needles are exact after all that is done to find them faster. -/
def staysExact (needles : List Needle) : Bool :=
  let kept := minimize needles
  let start := commonStart kept
  let isShort := decide (1 < needles.length) && decide (1 ≤ start.length) &&
    decide (start.length ≤ 3) && !(start.head?.any isFrequent)
  if isShort then areExact (cut 1 kept)
  else
    let isFew := areExact kept && decide (kept.length ≤ 16)
    let isLong := decide (4 < start.length) || (decide (1 < start.length) && !isFew)
    let found := if isLong then dedup (cut start.length kept) else kept
    let short := shorten found
    areExact found &&
      (areExact short || short.any (fun needle => decide (needle.bytes.length ≤ 2)) ||
        decide (64 < short.length))

end Needle

/-- Whether a pattern holds neither groups nor assertions. -/
def isSimple : Pattern → Bool
  | group _ _ => false
  | look _ => false
  | repeated inner _ _ _ => inner.isSimple
  | seq first second => first.isSimple && second.isSimple
  | alt left right => left.isSimple && right.isSimple
  | _ => true

/-- The least number of texts in a choice that are searched as they are. -/
def manyTexts : Nat := 3000

/-- Whether a pattern is matched by looking for words. -/
def isSearch (pattern : Pattern) : Bool :=
  pattern.isSimple &&
    ((match pattern.needles with
      | none => false
      | some needles =>
          !needles.isEmpty && needles.all (!·.bytes.isEmpty) && Needle.staysExact needles) ||
      pattern.words?.any fun words => decide (manyTexts ≤ words.length))

end Polystore.Pattern
