import TypeGrading.Proofs.Compare.Differences
import TypeGrading.Proofs.Tree.Growing

/-!
# Comparing the other way round

A resolver that says the same from either side of a pair finds the same differences in two trees
whichever comes first, only with left and right exchanged. So the grade is mirrored.

* `settled`, `Mirrored`: what a resolver says with failures settled, and that it says so from both
  sides;
* `difference_swap`, `occurs_swap`: the differences of the swapped pair;
* `tells_flip`: a mirrored grade tells of mirrored kinds;
* `grade_swap`: the grade of the swapped pair.
-/

namespace TypeGrading.Compare

open TypeGrading.Tree

/-- How a resolver relates a pair; a failure to resolve it counts as unrelated. -/
def settled (r : Resolver) (left right : String) : Relation :=
  match r left right with
  | .ok relation => relation
  | .error _ => .unrelated

/-- For every pair of names, the swapped pair is related by the same fact seen from the other
side. -/
def Mirrored (r : Resolver) : Prop :=
  ∀ left right, settled r right left = (settled r left right).flip

/-- The kind of a difference seen from the other side. -/
def Kind.flip : Kind → Kind
  | .leftBroader => .rightBroader
  | .rightBroader => .leftBroader
  | k => k

@[simp] theorem Kind.flip_flip (k : Kind) : k.flip.flip = k := by cases k <;> rfl

/-! ### Differences of the swapped pair -/

section Swap

variable {r : Resolver} {a b c d : Node} {k : Kind} {path : List Nat}

theorem nameRelation_swap (hr : Mirrored r) (left right : String) :
    nameRelation r right left = (nameRelation r left right).flip := by
  by_cases hname : left = right
  · simp [nameRelation, hname, Relation.flip]
  · rw [nameRelation, nameRelation, if_neg hname, if_neg (Ne.symm hname)]
    exact hr left right

theorem matching_swap (hr : Mirrored r) : Matching r b a ↔ Matching r a b := by
  rw [matching_iff, matching_iff, nameRelation_swap hr a.name b.name]
  cases nameRelation r a.name b.name <;> simp [Relation.flip]

theorem holds_swap (hr : Mirrored r) : k.Holds r d c ↔ k.flip.Holds r c d := by
  rw [holds_iff, holds_iff]
  simp only [nameRelation_swap hr c.name d.name]
  cases k with
  | arity =>
    cases nameRelation r c.name d.name <;> simp [Kind.flip, Relation.flip, eq_comm]
  | _ => cases nameRelation r c.name d.name <;> simp [Kind.flip, Relation.flip]

/-- The same paths are visited: what they ask of a pair, it asks of the swapped one. -/
theorem visited_swap (hr : Mirrored r) : Visited r b a path d c ↔ Visited r a b path c d := by
  have half : ∀ {a b c d : Node}, Visited r a b path c d → Visited r b a path d c := by
    rintro a b c d ⟨hc, hd, hfront⟩
    refine ⟨hd, hc, fun front hpre hne y x hy hx => ?_⟩
    obtain ⟨hmatch, hcount⟩ := hfront front hpre hne x y hx hy
    exact ⟨(matching_swap hr).2 hmatch, hcount.symm⟩
  exact ⟨half, half⟩

theorem difference_swap (hr : Mirrored r) :
    Difference r b a path k ↔ Difference r a b path k.flip := by
  constructor
  · rintro ⟨d, c, hvisited, hk⟩
    exact ⟨c, d, (visited_swap hr).1 hvisited, (holds_swap hr).1 hk⟩
  · rintro ⟨c, d, hvisited, hk⟩
    exact ⟨d, c, (visited_swap hr).2 hvisited, (holds_swap hr).2 hk⟩

theorem occurs_swap (hr : Mirrored r) : Occurs r b a k ↔ Occurs r a b k.flip :=
  exists_congr fun _ => difference_swap hr

end Swap

/-! ### Grades of the swapped pair -/

/-- A mirrored grade tells of the mirrored kinds. -/
theorem tells_flip {occurs : Kind → Prop} {atRoot : Prop} {g : Grade}
    (h : Tells occurs atRoot g) : Tells (fun k => occurs k.flip) atRoot g.flip := by
  cases g with
  | identical => exact fun k => h k.flip
  | unrelated => exact h
  | arityMismatch => exact h
  | conflicting =>
    obtain ⟨hunrelated, hroot, hkinds⟩ := h
    exact ⟨hunrelated, hroot, hkinds.imp_right And.symm⟩
  | leftBroader => exact h
  | rightBroader => exact h

/-- **The swapped pair has the mirrored grade.** Under a resolver that says the same from both
sides, exchanging the nodes exchanges the two directions of the grade and changes no other one. -/
theorem grade_swap {r : Resolver} (hr : Mirrored r) (a b : Node) :
    grade r b a = (grade r a b).flip := by
  have htells : Tells (Occurs r a b) (Difference r a b [] .arity) (grade r a b) :=
    grade_eq_iff.1 rfl
  have hoccurs : Occurs r b a = fun k => Occurs r a b k.flip :=
    funext fun _ => propext (occurs_swap hr)
  have hroot : Difference r b a [] .arity = Difference r a b [] .arity :=
    propext (difference_swap hr)
  rw [grade_eq_iff, hoccurs, hroot]
  exact tells_flip htells

/-- Knows that `Object` is above `Integer` and that `Int` is another name of it, and fails
elsewhere. -/
def objectAboveInteger : Resolver := fun left right =>
  if left = "Object" ∧ right = "Integer" then .ok .leftAncestorOfRight
  else if left = "Integer" ∧ right = "Object" then .ok .rightAncestorOfLeft
  else if left = "Integer" ∧ right = "Int" ∨ left = "Int" ∧ right = "Integer" then .ok .equal
  else .error (.unresolvableName left)

theorem mirrored_objectAboveInteger : Mirrored objectAboveInteger := by
  intro left right
  unfold settled objectAboveInteger
  grind [Relation.flip]

/-- The broader of two trees that differ in one parameter, and by an alias below the other. -/
def broadTree : TypeTree := TypeTree.ofExpr (.app "F" [.app "Object" [], .app "G" [.app "Integer" []]])

/-- The narrower one. -/
def narrowTree : TypeTree := TypeTree.ofExpr (.app "F" [.app "Integer" [], .app "G" [.app "Int" []]])

theorem grade_swap_narrowTree :
    Mirrored objectAboveInteger ∧
      grade objectAboveInteger broadTree.root narrowTree.root = .leftBroader ∧
      grade objectAboveInteger narrowTree.root broadTree.root = .rightBroader := by
  have hgrade : grade objectAboveInteger broadTree.root narrowTree.root = .leftBroader := by cbv
  refine ⟨mirrored_objectAboveInteger, hgrade, ?_⟩
  rw [grade_swap mirrored_objectAboveInteger broadTree.root narrowTree.root, hgrade]
  rfl

end TypeGrading.Compare
