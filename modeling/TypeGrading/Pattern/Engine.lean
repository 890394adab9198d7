/-!
# Engines for regular expressions

Names are looked for with regular expressions. How these are written, compiled and matched is left to
an engine.

* `PatternError`: why an engine refuses a text;
* `Engine`: what an engine offers.
-/

namespace TypeGrading.Pattern

/-- Why a text is refused: it writes no regular expression, or one that is too large. -/
inductive PatternError
  | malformed (message : String)
  | tooLarge (limit : Nat)
  deriving DecidableEq, Repr

/-- The wording of a text that is refused. -/
def PatternError.message : PatternError → String
  | .malformed message => message
  | .tooLarge limit => "Compiled regex exceeds size limit of " ++ toString limit ++ " bytes."

/-- An engine: it compiles texts to regular expressions, tells whether one of these has a match
somewhere in a text, and writes a text so that it stands for itself. -/
structure Engine where
  Regex : Type
  compile : String → Except PatternError Regex
  isMatch : Regex → String → Bool
  escape : String → String

end TypeGrading.Pattern
