import TypeGrading.Proofs.Compare.Mirror
import TypeGrading.Proofs.Hierarchy.Edits
import TypeGrading.Proofs.Hierarchy.Order

/-!
# Relations from both sides

A hierarchy says the same of two known names from either side, as long as they do not lie below each
other. Cycles are not refused, and the root may be given supertypes; of two names on such a loop each
is an ancestor of the other, and the descent that is looked at first is reported from both sides.

* `Looped`: two names that lie below each other;
* `relate_swap`: what is said of the swapped pair, on a loop and off it;
* `not_relate_swap_loopedHierarchy`: that it is not always the same fact;
* `Ordered.mirrored`: an ordered hierarchy says the same from both sides, whatever the names.
-/

namespace TypeGrading.Hierarchy

open TypeGrading.Compare

/-- Two different names, each of which lies below the other: direct supertypes lead from each to the
other, or one is the root and they lead up from it to the other. -/
def Looped (g : Hierarchy) (left right : String) : Prop :=
  left ≠ right ∧ g.LiesBelow left right ∧ g.LiesBelow right left

section Pairs

variable {g : Hierarchy} {left right : String}

theorem looped_iff (hleft : g.contains left = true) (hright : g.contains right = true) :
    g.Looped left right ↔
      g.isDerivedFrom left right = true ∧ g.isDerivedFrom right left = true := by
  rw [isDerivedFrom_iff, isDerivedFrom_iff]
  constructor
  · rintro ⟨hne, hbelow, hbelow'⟩
    exact ⟨⟨hne, hleft, hbelow⟩, hne.symm, hright, hbelow'⟩
  · rintro ⟨⟨hne, -, hbelow⟩, -, -, hbelow'⟩
    exact ⟨hne, hbelow, hbelow'⟩

theorem Looped.symm (h : g.Looped left right) : g.Looped right left :=
  ⟨h.1.symm, h.2.2, h.2.1⟩

/-- On a loop the left name is an ancestor of the right one, from whichever side. -/
theorem relate_of_looped (hleft : g.contains left = true) (hright : g.contains right = true)
    (h : g.Looped left right) : g.relate left right = .ok .leftAncestorOfRight :=
  relate_eq_left_iff.2 ⟨hleft, ((looped_iff hleft hright).1 h).2⟩

/-- Off a loop at most one of the two descents holds, and the swapped pair tells the same one. -/
theorem relate_of_not_looped (hleft : g.contains left = true) (hright : g.contains right = true)
    (h : ¬ g.Looped left right) :
    g.relate right left = (g.relate left right).map Relation.flip := by
  by_cases hne : left = right
  · subst hne
    rw [relate_eq_equal_iff.2 rfl]
    rfl
  · rw [looped_iff hleft hright, not_and] at h
    rw [relate_of_contains hne hleft hright, relate_of_contains (Ne.symm hne) hright hleft]
    by_cases hderived : g.isDerivedFrom left right = true
    · have hnot := h hderived
      simp [hderived, hnot, Except.map, Relation.flip]
    · by_cases hderived' : g.isDerivedFrom right left = true
      · simp [hderived, hderived', Except.map, Relation.flip]
      · simp [hderived, hderived', Except.map, Relation.flip]

end Pairs

/-- **The swapped pair.** Two known names that do not lie below each other are related from the
right by the same fact as from the left; two that do are each reported as the ancestor of the other
one when they come first. -/
theorem relate_swap (g : Hierarchy) {left right : String} (hleft : g.contains left = true)
    (hright : g.contains right = true) :
    (¬ g.Looped left right → g.relate right left = (g.relate left right).map Relation.flip) ∧
    (g.Looped left right → g.relate left right = .ok .leftAncestorOfRight ∧
      g.relate right left = .ok .leftAncestorOfRight) :=
  ⟨relate_of_not_looped hleft hright, fun h =>
    ⟨relate_of_looped hleft hright h, relate_of_looped hright hleft h.symm⟩⟩

/-- A root, and below it two types that extend each other. -/
def loopedHierarchy : Hierarchy :=
  ((withRoot "Object").addInheritance "A" ["B"]).addInheritance "B" ["A"]

theorem reached_loopedHierarchy : Reached loopedHierarchy :=
  ((Reached.withRoot "Object").perform (.addInheritance "A" ["B"])).perform
    (.addInheritance "B" ["A"])

theorem relate_swap_loopedHierarchy :
    (loopedHierarchy.contains "Object" = true ∧ loopedHierarchy.contains "A" = true ∧
      loopedHierarchy.contains "B" = true) ∧
    (¬ loopedHierarchy.Looped "Object" "A" ∧
      loopedHierarchy.relate "A" "Object" = .ok .rightAncestorOfLeft) ∧
    loopedHierarchy.Looped "A" "B" ∧
      loopedHierarchy.relate "B" "A" = .ok .leftAncestorOfRight := by
  have hobject : loopedHierarchy.contains "Object" = true := by cbv
  have ha : loopedHierarchy.contains "A" = true := by cbv
  have hb : loopedHierarchy.contains "B" = true := by cbv
  have hroot : loopedHierarchy.isDerivedFrom "Object" "A" = false := by cbv
  have hoff : ¬ loopedHierarchy.Looped "Object" "A" := by
    rw [looped_iff hobject ha, hroot]
    exact fun h => Bool.false_ne_true h.1
  have hon : loopedHierarchy.Looped "A" "B" := (looped_iff ha hb).2 ⟨by cbv, by cbv⟩
  refine ⟨⟨hobject, ha, hb⟩, ⟨hoff, ?_⟩, hon, ((relate_swap _ ha hb).2 hon).2⟩
  rw [(relate_swap _ hobject ha).1 hoff]
  cbv

/-- **Not every pair is related by the same fact from both sides.** -/
theorem not_relate_swap_loopedHierarchy :
    ¬ ∀ g : Hierarchy, Reached g → ∀ left right : String, g.contains left = true →
      g.contains right = true → g.relate right left = (g.relate left right).map Relation.flip := by
  intro h
  have hswap := h loopedHierarchy reached_loopedHierarchy "A" "B" (by cbv) (by cbv)
  have hleft : loopedHierarchy.relate "A" "B" = .ok .leftAncestorOfRight := by cbv
  have hright : loopedHierarchy.relate "B" "A" = .ok .leftAncestorOfRight := by cbv
  rw [hleft, hright] at hswap
  cases hswap

/-! ### Ordered hierarchies -/

/-- **An ordered hierarchy says the same from both sides.** A name that is not known is unrelated
to all others, from either side. -/
theorem Ordered.mirrored {g : Hierarchy} (hg : g.Ordered) : Mirrored g.relate := by
  intro left right
  by_cases hne : left = right
  · subst hne
    rw [settled, relate_eq_equal_iff.2 rfl]
    rfl
  · by_cases hknown : g.contains left = true ∧ g.contains right = true
    · have hoff : ¬ g.Looped left right := fun h => h.1 (hg.eq_of_liesBelow h.2.1 h.2.2)
      rw [settled, settled, relate_of_not_looped hknown.1 hknown.2 hoff]
      cases g.relate left right <;> rfl
    · obtain ⟨e, he⟩ := exists_relate_eq_error hne hknown
      obtain ⟨e', he'⟩ := exists_relate_eq_error (Ne.symm hne) (fun h => hknown h.symm)
      rw [settled, settled, he, he']
      rfl

end TypeGrading.Hierarchy
