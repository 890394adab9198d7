import TypeGrading.Proofs.Hierarchy.Climbing

/-!
# Ordered hierarchies

In a hierarchy without cycles, whose root has no supertypes, descent is a strict order.

* `Ordered`: no name lies above itself, and none above the root;
* `Ordered.not_isDerivedFrom`, `Ordered.isDerivedFrom_trans`: descent is asymmetric and transitive;
* `ordered_iff`: the known names and the root decide whether a hierarchy is ordered;
* `relate_eq_equal_iff`, `relate_eq_left_iff`: what a relation says of two names.
-/

namespace TypeGrading.Hierarchy

/-- No chain of direct supertypes leads back to where it started, and the root has no supertypes. -/
structure Ordered (g : Hierarchy) : Prop where
  acyclic : ∀ name, ¬ g.Climbs name name
  root_highest : ∀ name, g.root = some name → g.parents name = []

variable {g : Hierarchy} {a b c left right : String}

namespace Ordered

/-- Nothing else lies above the root. -/
theorem eq_of_root (hg : g.Ordered) (hroot : g.root = some a) (h : g.LiesBelow a b) : a = b :=
  eq_of_root_liesBelow hroot (hg.root_highest a hroot) h

/-- Of two names that lie below each other, both would be the root. -/
theorem eq_of_liesBelow (hg : g.Ordered) (hab : g.LiesBelow a b) (hba : g.LiesBelow b a) :
    a = b := by
  rcases hab with hroot | hclimb
  · exact (hg.eq_of_root hroot hba).symm
  · rcases hba with hroot | hclimb'
    · exact hg.eq_of_root hroot (Or.inr hclimb)
    · exact absurd (hclimb.trans hclimb') (hg.acyclic a)

/-- **Descent has one direction.** -/
theorem not_isDerivedFrom (hg : g.Ordered) (h : g.isDerivedFrom a b = true) :
    ¬ g.isDerivedFrom b a = true := by
  intro h'
  obtain ⟨hne, -, hbelow⟩ := isDerivedFrom_iff.1 h
  obtain ⟨-, -, hbelow'⟩ := isDerivedFrom_iff.1 h'
  exact hne (hg.eq_of_liesBelow hbelow hbelow')

/-- **Descent goes on.** -/
theorem isDerivedFrom_trans (hg : g.Ordered) (hab : g.isDerivedFrom a b = true)
    (hbc : g.isDerivedFrom b c = true) : g.isDerivedFrom a c = true := by
  have hne : a ≠ c := by
    rintro rfl
    exact hg.not_isDerivedFrom hab hbc
  obtain ⟨-, hknown, hbelow⟩ := isDerivedFrom_iff.1 hab
  obtain ⟨hne', -, hbelow'⟩ := isDerivedFrom_iff.1 hbc
  have hroot : ¬ g.root = some b := fun hroot => hne' (hg.eq_of_root hroot hbelow')
  exact isDerivedFrom_iff.2 ⟨hne, hknown,
    (liesBelow_trans_iff hne' hbelow hbelow').2 fun h => absurd h hroot⟩

end Ordered

/-- Only known names can be on a cycle. -/
theorem ordered_iff : g.Ordered ↔
    (∀ name ∈ g.supertypes.keys, ¬ g.reaches name name = true) ∧
      ∀ name ∈ g.root, g.parents name = [] := by
  constructor
  · exact fun hg => ⟨fun name _ h => hg.acyclic name (reaches_iff.1 h), hg.root_highest⟩
  · rintro ⟨hkeys, hroot⟩
    refine ⟨fun name hclimb => ?_, hroot⟩
    exact hkeys name (Table.contains_iff.1 (contains_of_climbs hclimb)) (reaches_iff.2 hclimb)

instance (g : Hierarchy) : Decidable g.Ordered := decidable_of_iff _ ordered_iff.symm

/-! ### Relations -/

theorem contains_of_isDerivedFrom (h : g.isDerivedFrom a b = true) : g.contains a = true :=
  (isDerivedFrom_iff.1 h).2.1

/-- Two different known names: descent of the right one is looked at first. -/
theorem relate_of_contains (hne : left ≠ right) (hleft : g.contains left = true)
    (hright : g.contains right = true) :
    g.relate left right = .ok (
      if g.isDerivedFrom right left then .leftAncestorOfRight
      else if g.isDerivedFrom left right then .rightAncestorOfLeft
      else .unrelated) := by
  simp only [relate, hne, hleft, hright, not_true, if_false]
  split_ifs <;> rfl

/-- Two different names have to be known both. -/
theorem exists_relate_eq_error (hne : left ≠ right)
    (hunknown : ¬ (g.contains left = true ∧ g.contains right = true)) :
    ∃ e, g.relate left right = .error e := by
  by_cases hleft : g.contains left = true
  · have hright : ¬ g.contains right = true := fun h => hunknown ⟨hleft, h⟩
    exact ⟨.unresolvableName right, by simp [relate, hne, hleft, hright]⟩
  · exact ⟨.unresolvableName left, by simp [relate, hne, hleft]⟩

/-- No hierarchy says of two different names that they are the same type. -/
theorem relate_eq_equal_iff : g.relate left right = .ok .equal ↔ left = right := by
  constructor
  · intro h
    by_contra hne
    simp only [relate, hne, if_false] at h
    split_ifs at h <;> cases h
  · rintro rfl
    simp [relate]

theorem relate_eq_left_iff : g.relate left right = .ok .leftAncestorOfRight ↔
    g.contains left = true ∧ g.isDerivedFrom right left = true := by
  constructor
  · intro h
    have hne : left ≠ right := by
      rintro rfl
      simp [relate] at h
    have hknown : g.contains left = true ∧ g.contains right = true := by
      by_contra hunknown
      obtain ⟨e, he⟩ := exists_relate_eq_error hne hunknown
      cases he.symm.trans h
    rw [relate_of_contains hne hknown.1 hknown.2] at h
    refine ⟨hknown.1, ?_⟩
    by_contra hderived
    rw [if_neg hderived] at h
    split_ifs at h <;> cases h
  · rintro ⟨hleft, hderived⟩
    have hne : left ≠ right := (isDerivedFrom_iff.1 hderived).1.symm
    rw [relate_of_contains hne hleft (contains_of_isDerivedFrom hderived), if_pos hderived]

end TypeGrading.Hierarchy
