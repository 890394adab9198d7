import Mathlib.Tactic
import TypeGrading.Compare

/-!
# Grades under a resolver

What a comparison comes to when one resolver replies throughout, with the questions gone.

* `nameRelation`: how two names relate under a resolver;
* `grade_of_names`, `grade_of_counts`, `grade_of_children`: the three ways a pair is graded;
* `Tally.foldl_add_eq`: what is counted over a list of grades.
-/

namespace TypeGrading

/-! ### Counting -/

namespace Tally

/-- Each kind of grade is counted if it has occurred before or occurs in the list. -/
theorem foldl_add_eq (t : Tally) (gs : List Grade) :
    gs.foldl add t =
      { left := t.left || decide (Grade.leftBroader ∈ gs)
        right := t.right || decide (Grade.rightBroader ∈ gs)
        conflicting := t.conflicting ||
          decide (Grade.conflicting ∈ gs ∨ Grade.arityMismatch ∈ gs) } := by
  induction gs generalizing t with
  | nil => simp
  | cons g gs ih =>
    rw [List.foldl_cons, ih]
    cases g <;> simp [add]

end Tally

namespace Compare

open TypeGrading.Tree

/-- How two names relate under a resolver: equal names are the same type without being asked
about, and names that cannot be resolved are unrelated. -/
def nameRelation (r : Resolver) (left right : String) : Relation :=
  if left = right then .equal
  else match r left right with
    | .ok relation => relation
    | .error _ => .unrelated

section Grades

variable (r : Resolver)

theorem answer_relateNames (left right : String) :
    (relateNames left right).answer r =
      match r left right with
      | .ok relation => relation
      | .error _ => .unrelated := by
  simp only [relateNames, Dialogue.query, Dialogue.bind_eq, Dialogue.bind, Dialogue.answer]
  cases r left right with
  | ok relation => rfl
  | error e => rfl

theorem answer_nameGrade (left right : String) :
    (nameGrade left right).answer r =
      if nameRelation r left right = .equal then none
      else some (Grade.ofRelation (nameRelation r left right)) := by
  by_cases hname : left = right
  · simp [nameGrade, nameRelation, hname, Dialogue.answer]
  · have hrelation : (relateNames left right).answer r = nameRelation r left right := by
      rw [answer_relateNames, nameRelation, if_neg hname]
    simp only [nameGrade, hname, if_false, Dialogue.bind_eq, Dialogue.answer_bind, hrelation]
    cases nameRelation r left right <;> rfl

/-- A list of comparisons is unrelated if one of them is, and otherwise graded by what was
counted. -/
theorem answer_aggregate (t : Tally) (ds : List (Dialogue Grade)) :
    (aggregate t ds).answer r =
      if Grade.unrelated ∈ ds.map (Dialogue.answer r) then .unrelated
      else ((ds.map (Dialogue.answer r)).foldl Tally.add t).grade := by
  induction ds generalizing t with
  | nil => simp [aggregate, Dialogue.answer]
  | cons d ds ih =>
    rw [aggregate, Dialogue.bind_eq, Dialogue.answer_bind, List.map_cons]
    cases hgrade : d.answer r with
    | unrelated => simp [Dialogue.answer]
    | _ => simp [ih]

theorem grade_eq (a b : Node) :
    grade r a b =
      if nameRelation r a.name b.name ≠ .equal then
        Grade.ofRelation (nameRelation r a.name b.name)
      else if a.childIds.length ≠ b.childIds.length then .arityMismatch
      else (aggregate .none ((childPairs a b).map fun p => gradePair p.1 p.2)).answer r := by
  rw [grade, gradePair, Dialogue.bind_eq, Dialogue.answer_bind, answer_nameGrade]
  by_cases hname : nameRelation r a.name b.name = .equal
  · simp only [hname, ne_eq, not_true, if_true, if_false]
    by_cases hcount : a.childIds.length = b.childIds.length
    · simp only [hcount, not_true, if_false]
      rw [← List.attach_map_val (f := fun p : Node × Node => gradePair p.1 p.2)]
    · simp [hcount, Dialogue.note, Dialogue.bind, Dialogue.answer]
  · simp [hname, Dialogue.answer]

variable {r} {a b : Node}

/-- Names that differ decide the grade. -/
theorem grade_of_names (hname : nameRelation r a.name b.name ≠ .equal) :
    grade r a b = Grade.ofRelation (nameRelation r a.name b.name) := by
  rw [grade_eq, if_pos hname]

/-- Where the names agree, different numbers of children decide it. -/
theorem grade_of_counts (hname : nameRelation r a.name b.name = .equal)
    (hcount : a.childIds.length ≠ b.childIds.length) : grade r a b = .arityMismatch := by
  rw [grade_eq, if_neg (not_not.2 hname), if_pos hcount]

/-- Where the names and the numbers of children agree, the pairs of children decide it. -/
theorem grade_of_children (hname : nameRelation r a.name b.name = .equal)
    (hcount : a.childIds.length = b.childIds.length) :
    grade r a b =
      if Grade.unrelated ∈ (childPairs a b).map fun p => grade r p.1 p.2 then .unrelated
      else (((childPairs a b).map fun p => grade r p.1 p.2).foldl Tally.add .none).grade := by
  rw [grade_eq, if_neg (not_not.2 hname), if_neg (not_not.2 hcount), answer_aggregate,
    List.map_map]
  rfl

end Grades

/-- A pair of children is one at the same position below both nodes. -/
theorem mem_childPairs_iff {a b : Node} {p : Node × Node} :
    p ∈ childPairs a b ↔ ∃ k : Nat, a.children[k]? = some p.1 ∧ b.children[k]? = some p.2 := by
  simp only [childPairs, List.mem_iff_getElem?, List.getElem?_zip_eq_some]

end Compare

end TypeGrading
