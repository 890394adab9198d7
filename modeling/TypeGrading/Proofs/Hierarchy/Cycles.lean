import TypeGrading.Proofs.Hierarchy.Edits
import TypeGrading.Proofs.Hierarchy.Writing

/-!
# Closing cycles

What is said of a new supertype before it is added, against what descends from what afterwards.

* `climbs_of_climbs_addInheritance`: no chain up to a name needs the supertypes added to it;
* `isDerivedFrom_addInheritance_iff`: so a new supertype descends from the name it was added to
  exactly if it lay below it before, known or not;
* `detectsCycle_iff`: what is said before asks, in addition, that it was known;
* `detectsCycle_iff_isDerivedFrom_addInheritance`: the two differ for a root that is given an unknown
  supertype, and nowhere else.
-/

namespace TypeGrading.Hierarchy

section Adding

variable {g : Hierarchy} {name child parent : String} {names : List String}

theorem climbs_addInheritance (h : g.Climbs name parent) :
    (g.addInheritance child names).Climbs name parent := by
  have hkept : g.Direct ≤ (g.addInheritance child names).Direct :=
    fun _ _ hdirect => direct_addInheritance_iff.2 (Or.inl hdirect)
  exact Relation.TransGen.mono hkept name parent h

/-- A chain up to `child` passes the new edges, if it does, only behind `child` itself. -/
theorem climbs_of_climbs_addInheritance (h : (g.addInheritance child names).Climbs name child) :
    name = child ∨ g.Climbs name child := by
  induction h using Relation.TransGen.head_induction_on with
  | single hdirect =>
    rcases direct_addInheritance_iff.1 hdirect with hold | ⟨heq, -⟩
    · exact Or.inr (.single hold)
    · exact Or.inl heq
  | head hdirect _ ih =>
    rcases direct_addInheritance_iff.1 hdirect with hold | ⟨heq, -⟩
    · refine Or.inr ?_
      rcases ih with rfl | hclimb
      · exact .single hold
      · exact .head hold hclimb
    · exact Or.inl heq

/-- A new supertype is an ancestor of the name it was added to. -/
theorem isDerivedFrom_addInheritance_self (hne : child ≠ parent) :
    (g.addInheritance child [parent]).isDerivedFrom child parent = true := by
  refine isDerivedFrom_iff.2 ⟨hne, contains_addInheritance_iff.2 (Or.inl rfl), Or.inr ?_⟩
  exact .single (direct_addInheritance_iff.2 (Or.inr ⟨rfl, List.mem_singleton.2 rfl⟩))

/-- A new supertype descends from the name it was added to exactly if it lay below it before. -/
theorem isDerivedFrom_addInheritance_iff (hne : child ≠ parent) :
    (g.addInheritance child [parent]).isDerivedFrom parent child = true ↔
      g.LiesBelow parent child := by
  rw [isDerivedFrom_iff, LiesBelow, LiesBelow, root_addInheritance]
  constructor
  · rintro ⟨-, -, hbelow⟩
    exact hbelow.imp_right fun hclimb =>
      (climbs_of_climbs_addInheritance hclimb).resolve_left (Ne.symm hne)
  · intro hbelow
    have hknown : (g.addInheritance child [parent]).contains parent = true :=
      contains_addInheritance_iff.2 (Or.inr (Or.inr (List.mem_singleton.2 rfl)))
    exact ⟨Ne.symm hne, hknown, hbelow.imp_right climbs_addInheritance⟩

end Adding

section Telling

variable {g : Hierarchy} {child parent : String}

theorem detectsCycle_iff :
    g.detectsCycle child parent = true ↔
      child = parent ∨ g.contains parent = true ∧ g.LiesBelow parent child := by
  by_cases heq : child = parent
  · simp [detectsCycle, heq]
  · simp [detectsCycle, heq, isDerivedFrom_iff, Ne.symm heq]

/-- To lie below a name and not to be known is to lie below the root. -/
theorem contains_and_liesBelow_iff :
    g.contains parent = true ∧ g.LiesBelow parent child ↔
      g.LiesBelow parent child ∧ (g.root = some child → g.contains parent = true) := by
  constructor
  · rintro ⟨hknown, hbelow⟩
    exact ⟨hbelow, fun _ => hknown⟩
  · rintro ⟨hbelow, hroot⟩
    exact ⟨hbelow.elim hroot contains_of_climbs, hbelow⟩

end Telling

/-- **What is said before an edge is added.** After it is added, the parent is an ancestor of the
child. It is said to close a cycle exactly if the two are the same name, or the parent then descends
from the child too; but nothing is said of the root and a parent that is not known yet. -/
theorem detectsCycle_iff_isDerivedFrom_addInheritance (g : Hierarchy) (child parent : String) :
    (child ≠ parent → (g.addInheritance child [parent]).isDerivedFrom child parent = true) ∧
    (g.detectsCycle child parent = true ↔
      child = parent ∨
        (g.addInheritance child [parent]).isDerivedFrom parent child = true ∧
          (g.root = some child → g.contains parent = true)) := by
  refine ⟨isDerivedFrom_addInheritance_self, ?_⟩
  rw [detectsCycle_iff, contains_and_liesBelow_iff]
  by_cases heq : child = parent
  · exact iff_of_true (Or.inl heq) (Or.inl heq)
  · rw [isDerivedFrom_addInheritance_iff heq]

/-- **Not every edge that closes a cycle is told.** The root may be given a supertype that is not
known yet; with the edge it becomes known, and so a descendant of the root. -/
theorem not_detectsCycle_iff_withRoot :
    ¬ ∀ g : Hierarchy, Reached g → ∀ child parent : String,
      g.detectsCycle child parent = true ↔
        child = parent ∨ (g.addInheritance child [parent]).isDerivedFrom parent child = true := by
  intro h
  have hsaid : (withRoot "Object").detectsCycle "Object" "T" = false := by cbv
  have hderived :
      ((withRoot "Object").addInheritance "Object" ["T"]).isDerivedFrom "T" "Object" = true := by cbv
  have htold := (h (withRoot "Object") (.withRoot "Object") "Object" "T").2 (Or.inr hderived)
  rw [hsaid] at htold
  exact Bool.false_ne_true htold

end TypeGrading.Hierarchy
