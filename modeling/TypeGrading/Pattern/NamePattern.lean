import TypeGrading.Pattern.Engine
import TypeGrading.Text.Quoted

/-!
# Patterns for names

A regular expression that is meant to match a whole name.

* `NamePattern`, `NamePattern.ofText`: a pattern for names;
* `NamePattern.literal`: the pattern for one name;
* `NamePattern.isMatch`: the names that a pattern matches.
-/

namespace TypeGrading

open Pattern (Engine PatternError)

/-- A pattern for names as it was written, and what an engine made of it. -/
structure NamePattern (E : Engine) where
  source : String
  regex : E.Regex

namespace NamePattern

variable {E : Engine}

/-- The text with the marks for the start and the end around it. -/
def anchored (source : String) : String := "^(?:" ++ source ++ ")$"

/-- The pattern that a text writes. The marks for the start and the end are put around the text
before it is compiled. -/
def ofText (E : Engine) (source : String) : Except PatternError (NamePattern E) :=
  (E.compile (anchored source)).map fun regex => ⟨source, regex⟩

/-- The pattern for a single name. -/
def literal (E : Engine) (name : String) : Except PatternError (NamePattern E) :=
  ofText E (E.escape name)

/-- The pattern matches a name. -/
def isMatch (p : NamePattern E) (name : String) : Bool := E.isMatch p.regex name

/-- The pattern as it is shown for debugging. -/
def debugText (p : NamePattern E) : String := "NamePattern(" ++ Text.quote p.source ++ ")"

end NamePattern

end TypeGrading
