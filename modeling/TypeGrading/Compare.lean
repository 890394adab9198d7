import TypeGrading.Dialogue
import TypeGrading.Tree.Node

/-!
# Graded comparison

How one tree relates to another. Names are compared first; where they are equal, or said to be
the same type, the parameters are compared pair by pair.

* `nameGrade`: the grade that two names decide alone;
* `aggregate`: the grade of a list of pairs, up to the first unrelated one;
* `gradePair`: the grade of two nodes.

A pair of names that cannot be resolved counts as unrelated.
-/

namespace TypeGrading.Compare

open TypeGrading.Tree

/-- How two different names relate; a failure to resolve them is told of and means unrelated. -/
def relateNames (left right : String) : Dialogue Relation := do
  match ← Dialogue.query left right with
  | .ok relation => pure relation
  | .error e =>
    Dialogue.note (.pairUnresolved left right e)
    pure .unrelated

/-- The grade that two names decide alone; none when the parameters have to be compared. -/
def nameGrade (left right : String) : Dialogue (Option Grade) := do
  if left = right then return none
  match ← relateNames left right with
  | .equal => pure none
  | relation =>
    let grade := Grade.ofRelation relation
    Dialogue.note (.namesDiffer left right grade)
    pure (some grade)

/-- The grade of a list of comparisons, added to what was counted before. The first unrelated one
ends it. -/
def aggregate (t : Tally) : List (Dialogue Grade) → Dialogue Grade
  | [] => pure t.grade
  | d :: rest => do
    match ← d with
    | .unrelated => pure .unrelated
    | g => aggregate (t.add g) rest

/-- The pairs of children of two nodes. -/
def childPairs (a b : Node) : List (Node × Node) := a.children.zip b.children

theorem below_lt_of_mem_childPairs {a b : Node} {p : Node × Node} (h : p ∈ childPairs a b) :
    p.1.below < a.below :=
  Node.below_lt_of_mem (List.of_mem_zip h).1

/-- How the tree below `a` relates to the tree below `b`. -/
def gradePair (a b : Node) : Dialogue Grade := do
  match ← nameGrade a.name b.name with
  | some grade => pure grade
  | none =>
    let left := a.childIds.length
    let right := b.childIds.length
    if left ≠ right then
      Dialogue.note (.countMismatch a.name left right)
      pure .arityMismatch
    else
      aggregate .none ((childPairs a b).attach.map fun p => gradePair p.1.1 p.1.2)
termination_by a.below
decreasing_by exact below_lt_of_mem_childPairs p.2

/-- The grade of two nodes under a resolver. -/
def grade (r : Resolver) (a b : Node) : Grade := (gradePair a b).answer r

end TypeGrading.Compare
