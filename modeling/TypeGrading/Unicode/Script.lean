import TypeGrading.Unicode.Ranges
import TypeGrading.Unicode.Script.Table

/-!
# Scripts

The scripts in which characters are written.

* `Script`, `Script.all`: the scripts;
* `Script.contains`: the characters whose script it is;
* `Script.reaches`: the characters that are used in it, those of other scripts included.
-/

namespace TypeGrading.Unicode

/-- A script with its names and its characters. -/
structure Script where
  names : List String
  own : Ranges
  shared : Ranges

namespace Script

/-- The script of a row of the table. -/
def ofRow (r : Row) : Script := ⟨r.name :: r.shortNames, .ofText r.own, .ofText r.shared⟩

/-- All scripts. -/
def all : List Script := rows.map ofRow

/-- The character belongs to the script. -/
def contains (s : Script) (c : Char) : Bool := s.own.contains c

/-- The character is no script's own but is used in some. -/
def isShared (c : Char) : Bool := all.any (·.shared.contains c)

/-- The script stands for characters of no particular script. -/
def isGeneral (s : Script) : Bool := s.names.contains "Common" || s.names.contains "Inherited"

/-- The character is used in the script. Characters of no particular script that are used in
particular ones are used in those only. -/
def reaches (s : Script) (c : Char) : Bool :=
  s.shared.contains c || (s.own.contains c && !(s.isGeneral && isShared c))

end Script

end TypeGrading.Unicode
