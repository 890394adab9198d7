import TypeGrading.Relation

/-!
# Grades

The outcome of comparing two trees, and how the grades of parameters add up.

* `Grade` with its numeric code: -1, 0, 1, 2 or 3;
* `Tally`: which kinds of grades occurred in a list, and the grade of the whole list.
-/

namespace TypeGrading

/-- How the left tree relates to the right one. -/
inductive Grade
  | unrelated
  | identical
  | leftBroader
  | rightBroader
  | conflicting
  | arityMismatch
  deriving DecidableEq, Repr

namespace Grade

/-- The numeric code. Mixed directions and different numbers of parameters share one. -/
def code : Grade → Int
  | .unrelated => -1
  | .identical => 0
  | .leftBroader => 1
  | .rightBroader => 2
  | .conflicting => 3
  | .arityMismatch => 3

/-- The code as text. -/
def text (g : Grade) : String := toString g.code

/-- The name under which a grade is reported. -/
def label : Grade → String
  | .unrelated => "Unrelated"
  | .identical => "Identical"
  | .leftBroader => "LeftBroader"
  | .rightBroader => "RightBroader"
  | .conflicting => "Conflicting"
  | .arityMismatch => "ArityMismatch"

/-- The grade of two names alone. -/
def ofRelation : Relation → Grade
  | .equal => .identical
  | .leftAncestorOfRight => .leftBroader
  | .rightAncestorOfLeft => .rightBroader
  | .unrelated => .unrelated

/-- The grade of the swapped pair. -/
def flip : Grade → Grade
  | .leftBroader => .rightBroader
  | .rightBroader => .leftBroader
  | g => g

end Grade

/-- Which kinds of grades occurred among parameters. -/
structure Tally where
  left : Bool
  right : Bool
  conflicting : Bool
  deriving DecidableEq, Repr

namespace Tally

/-- No grade has occurred. -/
def none : Tally := ⟨false, false, false⟩

/-- Count one more grade. A parameter of mixed directions or of a different number of parameters
makes the whole mixed. -/
def add (t : Tally) : Grade → Tally
  | .leftBroader => { t with left := true }
  | .rightBroader => { t with right := true }
  | .conflicting | .arityMismatch => { t with conflicting := true }
  | .identical | .unrelated => t

/-- The grade of the whole, none of its parameters being unrelated. -/
def grade (t : Tally) : Grade :=
  if t.conflicting || (t.left && t.right) then .conflicting
  else if t.left then .leftBroader
  else if t.right then .rightBroader
  else .identical

end Tally

end TypeGrading
