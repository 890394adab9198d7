import TypeGrading.Compare

/-!
# Divergences

Where two trees stop matching, and the comparison that demands that they do not.

* `Divergence`: a pair of nodes, by name and by the child positions that lead to it;
* `explain`: the divergence of two nodes that are not identical;
* `Mismatch`, `strict`: two nodes have to be identical.
-/

namespace TypeGrading

/-- The pair at which two trees stop matching, with its own grade. -/
structure Divergence where
  source : String
  target : String
  grade : Grade
  path : List Nat
  deriving DecidableEq, Repr

/-- The wording of a divergence. -/
def Divergence.text (d : Divergence) : String :=
  "`" ++ d.source ++ "` vs `" ++ d.target ++ "`" ++
    (if d.grade = .arityMismatch then " (different number of type parameters)" else "") ++
    (if d.path = [] then "" else " at parameter " ++ ".".intercalate (d.path.map toString))

/-- Why a strict comparison failed. -/
inductive Mismatch
  | missingTarget (source : String)
  | mismatch (source target : String) (grade : Grade) (divergence : Option Divergence)
  deriving DecidableEq, Repr

/-- The divergence of a failed strict comparison. -/
def Mismatch.divergence : Mismatch → Option Divergence
  | .missingTarget _ => none
  | .mismatch _ _ _ d => d

/-- The wording of a failed strict comparison. -/
def Mismatch.message : Mismatch → String
  | .missingTarget source =>
    "type `" ++ source ++ "` cannot be compared against an absent type"
  | .mismatch source target grade _ =>
    "type `" ++ source ++ "` does not match `" ++ target ++ "` (grade " ++ grade.text ++ ")"

namespace Compare

open TypeGrading.Tree

/-- The child that decided the grade of its parent is followed: an unrelated one if the parent is
unrelated, else one that is not identical. -/
def follows (parent child : Grade) : Bool :=
  if parent = .unrelated then child = .unrelated else child ≠ .identical

/-- Grade one pair after the other and go on with the first whose grade passes the test. -/
def firstPassing {β : Type} (test : Grade → Bool) (otherwise : Dialogue β) :
    List (Dialogue Grade × (Grade → Dialogue β)) → Dialogue β
  | [] => otherwise
  | (d, go) :: rest => do
    let g ← d
    if test g then go g else firstPassing test otherwise rest

/-- Descend from a pair of the given grade to the pair at which the trees stop matching. -/
def descend (a b : Node) (grade : Grade) (path : List Nat) : Dialogue Divergence := do
  let here : Divergence := ⟨a.name, b.name, grade, path⟩
  let decided ← nameGrade a.name b.name
  if decided.isSome || grade = .arityMismatch then pure here
  else
    firstPassing (follows grade) (pure here) <|
      (childPairs a b).attach.mapIdx fun i p =>
        (gradePair p.1.1 p.1.2, fun g => descend p.1.1 p.1.2 g (path ++ [i]))
termination_by a.below
decreasing_by exact below_lt_of_mem_childPairs p.2

/-- The divergence of two nodes, none if they are identical. -/
def explain (a b : Node) : Dialogue (Option Divergence) := do
  let g ← gradePair a b
  if g = .identical then pure none
  else some <$> descend a b g []

/-- Two nodes have to be identical, and the second has to be there. -/
def strict (a : Node) (b : Option Node) : Dialogue (Except Mismatch Unit) :=
  match b with
  | none => pure (.error (.missingTarget a.name))
  | some b => do
    let g ← gradePair a b
    if g = .identical then pure (.ok ())
    else
      let d ← explain a b
      pure (.error (.mismatch a.name b.name g d))

end Compare

end TypeGrading
