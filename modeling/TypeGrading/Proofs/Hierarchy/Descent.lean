import TypeGrading.Proofs.Hierarchy.Climbing
import TypeGrading.Proofs.Hierarchy.Edits

/-!
# Descent through a name in between

The root is above all known names, but what lies above the root is not, through it, above them. So
descent goes on through any name but a root that was given supertypes of its own.

* `isDerivedFrom_through_iff`: when two descents make one;
* `not_isDerivedFrom_trans_toppedHierarchy`: that they do not always.
-/

namespace TypeGrading.Hierarchy

/-- **When descent goes on.** Of three names, the first derived from the second and the second from
the third, the first is derived from the third, unless the second is the root and no chain of direct
supertypes leads from the first up to the third. If the root has no supertypes, descent always goes
on. -/
theorem isDerivedFrom_through_iff {g : Hierarchy} {a b c : String} (hne : a ≠ c)
    (hab : g.isDerivedFrom a b = true) (hbc : g.isDerivedFrom b c = true) :
    (g.isDerivedFrom a c = true ↔ (g.root = some b → g.Climbs a c)) ∧
      ((∀ top, g.root = some top → g.parents top = []) → g.isDerivedFrom a c = true) := by
  obtain ⟨-, hknown, hbelow⟩ := isDerivedFrom_iff.1 hab
  obtain ⟨hne', -, hbelow'⟩ := isDerivedFrom_iff.1 hbc
  have hthrough : g.isDerivedFrom a c = true ↔ (g.root = some b → g.Climbs a c) := by
    rw [isDerivedFrom_iff, ← liesBelow_trans_iff hne' hbelow hbelow']
    exact ⟨fun h => h.2.2, fun h => ⟨hne, hknown, h⟩⟩
  refine ⟨hthrough, fun hhighest => hthrough.2 fun hroot => ?_⟩
  exact absurd (eq_of_root_liesBelow hroot (hhighest b hroot) hbelow') hne'

/-- A root with a supertype of its own, and beside it a type that extends another one. -/
def toppedHierarchy : Hierarchy :=
  ((withRoot "Object").addInheritance "Object" ["Top"]).addInheritance "B" ["A"]

theorem reached_toppedHierarchy : Reached toppedHierarchy :=
  ((Reached.withRoot "Object").perform (.addInheritance "Object" ["Top"])).perform
    (.addInheritance "B" ["A"])

theorem isDerivedFrom_through_toppedHierarchy :
    (toppedHierarchy.isDerivedFrom "B" "A" = true ∧
      toppedHierarchy.isDerivedFrom "A" "Object" = true ∧
      toppedHierarchy.isDerivedFrom "B" "Object" = true) ∧
    (toppedHierarchy.isDerivedFrom "B" "Object" = true ∧
      toppedHierarchy.isDerivedFrom "Object" "Top" = true ∧
      ¬ toppedHierarchy.isDerivedFrom "B" "Top" = true) := by
  have hba : toppedHierarchy.isDerivedFrom "B" "A" = true := by cbv
  have hao : toppedHierarchy.isDerivedFrom "A" "Object" = true := by cbv
  have hot : toppedHierarchy.isDerivedFrom "Object" "Top" = true := by cbv
  have hroot : toppedHierarchy.root = some "Object" := by cbv
  have hunreached : toppedHierarchy.reaches "B" "Top" = false := by cbv
  have hbo : toppedHierarchy.isDerivedFrom "B" "Object" = true := by
    refine (isDerivedFrom_through_iff (by decide) hba hao).1.2 fun h => ?_
    rw [hroot] at h
    exact absurd h (by decide)
  refine ⟨⟨hba, hao, hbo⟩, hbo, hot, fun hbt => ?_⟩
  have hclimb := (isDerivedFrom_through_iff (by decide) hbo hot).1.1 hbt hroot
  rw [← reaches_iff, hunreached] at hclimb
  exact Bool.false_ne_true hclimb

/-- **Descent does not always go on**: the supertype of a root is not above the names that have the
root above them. -/
theorem not_isDerivedFrom_trans_toppedHierarchy :
    ¬ ∀ g : Hierarchy, Reached g → ∀ a b c : String, a ≠ c → g.isDerivedFrom a b = true →
      g.isDerivedFrom b c = true → g.isDerivedFrom a c = true := by
  intro h
  have hgoes := h toppedHierarchy reached_toppedHierarchy "A" "Object" "Top" (by decide) (by cbv)
    (by cbv)
  have hstops : toppedHierarchy.isDerivedFrom "A" "Top" = false := by cbv
  rw [hstops] at hgoes
  exact Bool.false_ne_true hgoes

end TypeGrading.Hierarchy
