import Polystore.Pattern.Extent.Basic

/-!
# Choices between words

A choice between words is read through a tree of their bytes.  A node that some
words end at keeps its ways on in chunks, one for the words before each end: an
earlier word comes before the later ones that it begins.
-/

namespace Polystore.Pattern.Words

/-- The words from a node on, by their first byte and the rest. -/
abbrev Chunk := List (Nat × List Nat)

/-- The chunks of a node, the latest first. -/
structure Chunks where
  latest : Chunk := []
  earlier : List Chunk := []

/-- Add a word.  A word that ends here closes the chunk; where nothing but such
words has been seen, one of them is enough. -/
def Chunks.add (chunks : Chunks) (word : List Nat) : Chunks :=
  match word with
  | [] =>
      if chunks.latest.isEmpty && !chunks.earlier.isEmpty &&
          chunks.earlier.all List.isEmpty then chunks
      else ⟨[], chunks.latest :: chunks.earlier⟩
  | byte :: rest => ⟨(byte, rest) :: chunks.latest, chunks.earlier⟩

/-- The chunks of some words. -/
def Chunks.ofWords (words : List (List Nat)) : Chunks :=
  words.foldl add {}

/-- The rests of the words of a chunk, gathered by their first bytes. -/
def childrenOf (chunk : Chunk) : List (List (List Nat)) :=
  let sorted := chunk.reverse.mergeSort fun left right => left.1 ≤ right.1
  (sorted.splitBy fun left right => left.1 == right.1).map (·.map (·.2))

/-- Whether no word goes on from a node. -/
def isLeaf (words : List (List Nat)) : Bool :=
  words.all List.isEmpty

/-- The tree of some words from a node on.  The fuel is the length of the longest
word. -/
def tree : (fuel : Nat) → List (List Nat) → Extent → Extent
  | 0, _, extent => extent
  | fuel + 1, words, extent =>
      let chunks := Chunks.ofWords words
      let children := ((chunks.latest :: chunks.earlier).map childrenOf).filter (!·.isEmpty)
      let tables := children.foldl
        (fun extent table =>
          extent.state 0 (if table.length = 1 then 0 else table.length)) extent
      let node := tables.state (children.length + chunks.earlier.length) 0
      (children.flatten.filter (!isLeaf ·)).foldl (fun extent words => tree fuel words extent)
        node

/-- The automaton of a choice between words. -/
def grow (words : List (List Nat)) (extent : Extent) : Extent :=
  tree ((words.map List.length).foldl max 0) words extent.plain

end Polystore.Pattern.Words
