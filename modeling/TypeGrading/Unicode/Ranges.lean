import TypeGrading.Text.Hex

/-!
# Tables over code points

What the character database says of code points is kept as text, as the standard prints it, and looked
up in sorted tables.

* `SortedTable`, `floor?`: entries by number, and the last one up to a number;
* `Ranges`, `Ranges.ofText`, `Ranges.contains`: sets of code points as ranges.
-/

namespace TypeGrading.Unicode

/-- The number that a text writes in hexadecimal digits, 0 if it writes none. -/
def codePoint (s : String) : Nat := (Text.ofHex? s.toList).getD 0

/-- The words of a text of several lines. -/
def words (s : String) : List String :=
  ((s.splitOn "\n").flatMap (·.splitOn " ")).filter (· ≠ "")

/-- Entries in the order of their keys. -/
structure SortedTable (α : Type) where
  entries : Array (Nat × α)

namespace SortedTable

variable {α : Type}

/-- The last entry with a key up to `n`. The entries before `lo` have such keys, and those from `hi`
on have greater ones. -/
def floorBetween (t : SortedTable α) (n lo hi : Nat) : Option (Nat × α) :=
  if lo < hi then
    let mid := (lo + hi) / 2
    match t.entries[mid]? with
    | none => none
    | some e =>
      if e.1 ≤ n then t.floorBetween n (mid + 1) hi else t.floorBetween n lo mid
  else if lo = 0 then none
  else t.entries[lo - 1]?
termination_by hi - lo

/-- The last entry with a key up to `n`. -/
def floor? (t : SortedTable α) (n : Nat) : Option (Nat × α) :=
  t.floorBetween n 0 t.entries.size

/-- The entry with the key `n`. -/
def get? (t : SortedTable α) (n : Nat) : Option α :=
  match t.floor? n with
  | some (k, a) => if k = n then some a else none
  | none => none

end SortedTable

/-- Sets of code points: the first of a range with the last of it. -/
structure Ranges where
  bounds : SortedTable Nat

namespace Ranges

/-- A range is written as its first and last code point with a hyphen between, or as its only one. -/
def ofWord (s : String) : Nat × Nat :=
  match s.splitOn "-" with
  | [first, last] => (codePoint first, codePoint last)
  | _ => (codePoint s, codePoint s)

/-- The ranges that a text lists. -/
def ofText (s : String) : Ranges := ⟨⟨((words s).map ofWord).toArray⟩⟩

/-- The character is in one of the ranges. -/
def contains (r : Ranges) (c : Char) : Bool :=
  match r.bounds.floor? c.toNat with
  | some (_, last) => c.toNat ≤ last
  | none => false

end Ranges

end TypeGrading.Unicode
