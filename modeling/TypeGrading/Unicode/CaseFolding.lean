import TypeGrading.Unicode.CaseFolding.Table
import TypeGrading.Unicode.Ranges

/-!
# Case folding

Which characters differ by case only, as simple case folding has it.

* `CaseFolding.variants`: the characters that are equal to a character but for their case.
-/

namespace TypeGrading.Unicode.CaseFolding

/-- The code points of a set with all members of the set. -/
def ofWord (s : String) : List (Nat × List Char) :=
  let members := (s.splitOn "=").map codePoint
  members.map fun n => (n, members.map Char.ofNat)

/-- The sets by each of their members. -/
def table : SortedTable (List Char) :=
  ⟨(((words sets).flatMap ofWord).mergeSort fun a b => a.1 ≤ b.1).toArray⟩

/-- The characters equal to a character but for their case, itself included. -/
def variants (c : Char) : List Char := (table.get? c.toNat).getD [c]

/-- The ASCII letters equal to a character but for their case, and the character itself. -/
def asciiVariants (c : Char) : List Char :=
  if c.isAlpha then [c.toLower, c.toUpper] else [c]

end TypeGrading.Unicode.CaseFolding
