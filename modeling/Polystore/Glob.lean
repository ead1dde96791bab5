import Polystore.Error
import Polystore.Pattern.Compile

/-!
# Wildcard patterns

Keys are found by wildcards: `*` for any text, `?` for any character, `[abc]`
and `[^a-z]` or `[!a-z]` for one character of a class, and a backslash before a
character that stands for itself.  A wildcard pattern is translated to the
notation of patterns, anchored at both ends, and compiled as such, so that `*`
and `?` stand for what a dot matches.
-/

namespace Polystore.Glob

/-- A character in the notation of patterns, behind a backslash if it has a
meaning of its own there. -/
def escape (c : Char) : List Char :=
  if Pattern.isMeta c then ['\\', c] else [c]

mutual

/-- A wildcard pattern in the notation of patterns; `none` if a class is not
closed.  A backslash at the end stands for itself. -/
def translate? : List Char → Option (List Char)
  | [] => some []
  | '*' :: rest => (translate? rest).map (['.', '*'] ++ ·)
  | '?' :: rest => (translate? rest).map (['.'] ++ ·)
  | ['\\'] => some ['\\', '\\']
  | '\\' :: c :: rest => (translate? rest).map (escape c ++ ·)
  | '[' :: '^' :: rest => (translateClass? rest).map (['[', '^'] ++ ·)
  | '[' :: '!' :: rest => (translateClass? rest).map (['[', '^'] ++ ·)
  | '[' :: rest => (translateClass? rest).map (['['] ++ ·)
  | c :: rest => (translate? rest).map (escape c ++ ·)

/-- A class from behind its opening bracket on, and what comes after it.  Inside
of a class brackets and backslashes need an escape. -/
def translateClass? : List Char → Option (List Char)
  | [] => none
  | ']' :: rest => (translate? rest).map ([']'] ++ ·)
  | c :: rest =>
      let written := if c = '\\' ∨ c = '[' then ['\\', c] else [c]
      (translateClass? rest).map (written ++ ·)

end

/-- The pattern that a wildcard pattern stands for, if it is not too large. -/
def toPatternWithin (accepts : Pattern → Bool) (written : String) : Except Error Pattern :=
  match translate? written.toList with
  | none => .error (.unterminatedClass written)
  | some text => Pattern.compileWithin accepts (String.ofList ('^' :: (text ++ ['$'])))

/-- The pattern that a wildcard pattern stands for. -/
def toPattern (written : String) : Except Error Pattern :=
  toPatternWithin Pattern.isAllowed written

end Polystore.Glob
