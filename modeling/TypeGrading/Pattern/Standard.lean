import TypeGrading.Pattern.Engine
import TypeGrading.Pattern.Meaning
import TypeGrading.Pattern.Reader

/-!
# An engine for regular expressions

Expressions are read and translated to what they mean; a text has a match where a set of places can be
carried on.

* `maxDepth`, `compile?`: the regular expression that a text writes;
* `escape`: a text that stands for itself;
* `Engine.standard`: the engine.

There is no limit to the size of a regular expression.
-/

namespace TypeGrading.Pattern

/-- How deep an expression may be nested. -/
def maxDepth : Nat := 250

/-- The regular expression that a text writes, if it has a meaning and is not nested too deep. -/
def compile? (text : List Char) : Option Regex := do
  let e ← read? text
  let (r, _) ← e.meaning? .default
  if e.depth ≤ maxDepth then some r else none

/-- A character as it stands for itself. -/
def escapedChar (c : Char) : List Char := if Reader.isMeta c then ['\\', c] else [c]

/-- The text with every character that means something escaped. -/
def escape (text : List Char) : List Char := text.flatMap escapedChar

/-- The engine that reads expressions and follows the places where matches end. -/
def Engine.standard : Engine where
  Regex := Pattern.Regex
  compile text :=
    match compile? text.toList with
    | some r => .ok r
    | none => .error (.malformed "regex parse error")
  isMatch r text := Regex.found r text.toList
  escape text := String.ofList (Pattern.escape text.toList)

end TypeGrading.Pattern
