import Polystore.Error
import Polystore.Pattern.Needle
import Polystore.Pattern.Reader
import Polystore.Pattern.Search

/-!
# Compiling patterns

A pattern that is written down in a condition is compiled once and then matched
against many strings.

What is too large is not compiled.  How large a pattern is when it is compiled
is the matter of who compiles it, and the notation does not tell: it is known
that there is a limit, so it is a parameter here.  `isAllowed` is an estimate of
it, which runs of the program go by.
-/

namespace Polystore.Pattern

/-- The pattern that a text denotes, if it is not too large. -/
def compileWithin (accepts : Pattern → Bool) (written : String) : Except Error Pattern :=
  match (parse? written.toList).filter accepts with
  | some pattern => .ok pattern
  | none => .error .invalidPattern

/-- Whether a pattern is not too large: it is searched for as words, or by automata
that take at most 10 MiB by their estimated extent. -/
def isAllowed (pattern : Pattern) : Bool :=
  pattern.fits || pattern.isSearch

/-- The pattern that a text denotes. -/
def compile (written : String) : Except Error Pattern :=
  compileWithin isAllowed written

/-- Whether a pattern matches somewhere in a string. -/
def isIn (pattern : Pattern) (text : String) : Bool :=
  pattern.matchesIn text.toList

end Polystore.Pattern
