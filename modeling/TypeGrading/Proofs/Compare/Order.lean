import TypeGrading.Proofs.Compare.Explanation
import TypeGrading.Proofs.Hierarchy.Order
import TypeGrading.Proofs.Tree.Growing

/-!
# Broader trees

One tree is at least as broad as another if wherever they differ the left name is an ancestor of the
right one. Over an ordered hierarchy this is a partial order.

* `AtLeastAsBroad`: the two grades that say so;
* `atLeastAsBroad_iff`: either the names decide, or they match and every parameter is at least as
  broad as the one at its position;
* `atLeastAsBroad_relate_iff`: what that comes to when a hierarchy is asked;
* `broader_is_partial_order`: reflexivity, transitivity and antisymmetry.
-/

namespace TypeGrading.Compare

open TypeGrading.Tree

/-- The two trees are the same, or the left one is broader. -/
def AtLeastAsBroad (r : Resolver) (a b : Node) : Prop :=
  grade r a b = .identical ∨ grade r a b = .leftBroader

/-! ### One level -/

section Levels

variable {r : Resolver} {a b : Node}

theorem atLeastAsBroad_iff_occurs :
    AtLeastAsBroad r a b ↔ ∀ k, Occurs r a b k → k = .leftBroader := by
  constructor
  · rintro (hidentical | hleft) k hk
    · exact absurd hk (grade_eq_iff.1 hidentical k)
    · obtain ⟨hunrelated, harity, -, hright⟩ := grade_eq_iff.1 hleft
      cases k with
      | leftBroader => rfl
      | rightBroader => exact absurd hk hright
      | unrelated => exact absurd hk hunrelated
      | arity => exact absurd hk harity
  · intro h
    have hnone : ∀ k, k ≠ .leftBroader → ¬ Occurs r a b k := fun k hk hoccurs => hk (h k hoccurs)
    by_cases hleft : Occurs r a b .leftBroader
    · exact Or.inr (grade_eq_iff.2 ⟨hnone .unrelated (by decide), hnone .arity (by decide), hleft,
        hnone .rightBroader (by decide)⟩)
    · refine Or.inl (grade_eq_iff.2 fun k hoccurs => ?_)
      exact hleft (h k hoccurs ▸ hoccurs)

/-- **One level.** The left name is an ancestor of the right one; or the names match, and the
parameters of one are at least as broad as those of the other, position by position. -/
theorem atLeastAsBroad_iff : AtLeastAsBroad r a b ↔
    Kind.leftBroader.Holds r a b ∨
      Matching r a b ∧ List.Forall₂ (AtLeastAsBroad r) a.children b.children := by
  rw [List.forall₂_iff_zip, Node.length_children, Node.length_children]
  constructor
  · intro h
    by_cases hmatch : Matching r a b
    · have hcount : a.childIds.length = b.childIds.length := by
        by_contra hcount
        cases atLeastAsBroad_iff_occurs.1 h .arity (occurs_iff.2 (Or.inl ⟨hmatch, hcount⟩))
      refine Or.inr ⟨hmatch, hcount, fun {x y} hxy => atLeastAsBroad_iff_occurs.2 fun k hk => ?_⟩
      exact atLeastAsBroad_iff_occurs.1 h k
        (occurs_iff.2 (Or.inr ⟨⟨hmatch, hcount⟩, (x, y), hxy, hk⟩))
    · rw [matching_iff] at hmatch
      rw [AtLeastAsBroad, grade_of_names hmatch] at h
      refine Or.inl (holds_iff.2 ?_)
      cases hrelation : nameRelation r a.name b.name with
      | equal => exact absurd hrelation hmatch
      | leftAncestorOfRight => rfl
      | rightAncestorOfLeft => simp [hrelation, Grade.ofRelation] at h
      | unrelated => simp [hrelation, Grade.ofRelation] at h
  · rintro (hholds | ⟨hmatch, hcount, hchildren⟩)
    · exact Or.inr (grade_of_holds hholds)
    · refine atLeastAsBroad_iff_occurs.2 fun k hk => ?_
      obtain ⟨-, ⟨x, y⟩, hxy, hbelow⟩ :=
        (occurs_iff.1 hk).resolve_left (not_holds_of_pair ⟨hmatch, hcount⟩)
      exact atLeastAsBroad_iff_occurs.1 (hchildren hxy) k hbelow

end Levels

/-! ### Lists of parameters -/

section Lists

variable {α β : Type} {R : α → α → Prop} {l m n : List α}

theorem forall₂_trans (h : ∀ x ∈ l, ∀ y z, R x y → R y z → R x z) (hlm : List.Forall₂ R l m)
    (hmn : List.Forall₂ R m n) : List.Forall₂ R l n := by
  induction hlm generalizing n with
  | nil => exact hmn
  | cons hxy _ ih =>
    cases hmn with
    | cons hyz hmn =>
      exact .cons (h _ List.mem_cons_self _ _ hxy hyz)
        (ih (fun x hx => h x (List.mem_cons_of_mem _ hx)) hmn)

theorem map_eq_of_forall₂ {f : α → β} (h : ∀ x ∈ l, ∀ y, R x y → R y x → f x = f y)
    (hlm : List.Forall₂ R l m) (hml : List.Forall₂ R m l) : l.map f = m.map f := by
  induction hlm with
  | nil => rfl
  | cons hxy _ ih =>
    cases hml with
    | cons hyx hml =>
      rw [List.map_cons, List.map_cons, h _ List.mem_cons_self _ hxy hyx,
        ih (fun x hx => h x (List.mem_cons_of_mem _ hx)) hml]

end Lists

/-! ### Over a hierarchy -/

section Hierarchies

variable {g : Hierarchy} {a b c : Node}

/-- Over a hierarchy, different names are to be known, the right one derived from the left one. -/
theorem atLeastAsBroad_relate_iff : AtLeastAsBroad g.relate a b ↔
    (g.contains a.name = true ∧ g.isDerivedFrom b.name a.name = true) ∨
      a.name = b.name ∧ List.Forall₂ (AtLeastAsBroad g.relate) a.children b.children := by
  have hmatch : Matching g.relate a b ↔ a.name = b.name := by
    rw [Matching, Hierarchy.relate_eq_equal_iff, or_self]
  have hholds : Kind.leftBroader.Holds g.relate a b ↔
      g.contains a.name = true ∧ g.isDerivedFrom b.name a.name = true := by
    rw [Kind.Holds, Hierarchy.relate_eq_left_iff, and_iff_right_iff_imp]
    exact fun h => (Hierarchy.isDerivedFrom_iff.1 h.2).1.symm
  rw [atLeastAsBroad_iff, hmatch, hholds]

theorem atLeastAsBroad_refl (g : Hierarchy) (a : Node) : AtLeastAsBroad g.relate a a := by
  induction a using Node.induct with
  | node a ih => exact atLeastAsBroad_relate_iff.2 (Or.inr ⟨rfl, List.forall₂_same.2 ih⟩)

theorem atLeastAsBroad_trans (hg : g.Ordered) (hab : AtLeastAsBroad g.relate a b)
    (hbc : AtLeastAsBroad g.relate b c) : AtLeastAsBroad g.relate a c := by
  -- names that differ hide their parameters, so the three trees need match to no common depth
  induction a using Node.induct generalizing b c with
  | node a ih =>
    rw [atLeastAsBroad_relate_iff] at hab hbc ⊢
    rcases hab with ⟨hknown, hba⟩ | ⟨hab, habs⟩
    · rcases hbc with ⟨-, hcb⟩ | ⟨hbc, -⟩
      · exact Or.inl ⟨hknown, hg.isDerivedFrom_trans hcb hba⟩
      · exact Or.inl ⟨hknown, hbc ▸ hba⟩
    · rcases hbc with ⟨hknown, hcb⟩ | ⟨hbc, hbcs⟩
      · exact Or.inl ⟨hab ▸ hknown, hab ▸ hcb⟩
      · exact Or.inr ⟨hab.trans hbc, forall₂_trans (fun x hx _ _ => ih x hx) habs hbcs⟩

theorem toExpr_eq_of_atLeastAsBroad (hg : g.Ordered) (hab : AtLeastAsBroad g.relate a b)
    (hba : AtLeastAsBroad g.relate b a) : a.toExpr = b.toExpr := by
  induction a using Node.induct generalizing b with
  | node a ih =>
    rw [atLeastAsBroad_relate_iff] at hab hba
    rcases hab with ⟨-, hderived⟩ | ⟨hname, habs⟩
    · rcases hba with ⟨-, hderived'⟩ | ⟨hname, -⟩
      · exact absurd hderived' (hg.not_isDerivedFrom hderived)
      · exact absurd hname (Hierarchy.isDerivedFrom_iff.1 hderived).1
    · rcases hba with ⟨-, hderived⟩ | ⟨-, hbas⟩
      · exact absurd hname (Hierarchy.isDerivedFrom_iff.1 hderived).1
      · rw [Node.toExpr_eq, Node.toExpr_eq, hname,
          map_eq_of_forall₂ (fun x hx _ => ih x hx) habs hbas]

/-- **Broader trees are ordered.** Over an ordered hierarchy, for trees of any names, known or not:
a tree is at least as broad as itself; what is at least as broad as a tree is at least as broad as
any that this one is at least as broad as; and two trees that are at least as broad as each other
have the same expression. -/
theorem broader_is_partial_order (hg : g.Ordered) :
    (∀ a, AtLeastAsBroad g.relate a a) ∧
    (∀ a b c, AtLeastAsBroad g.relate a b → AtLeastAsBroad g.relate b c →
      AtLeastAsBroad g.relate a c) ∧
    (∀ a b, AtLeastAsBroad g.relate a b → AtLeastAsBroad g.relate b a → a.toExpr = b.toExpr) :=
  ⟨atLeastAsBroad_refl g, fun _ _ _ => atLeastAsBroad_trans hg,
    fun _ _ => toExpr_eq_of_atLeastAsBroad hg⟩

end Hierarchies

/-- `Integer` is a `Number`, and `Object` is above both. -/
def numberHierarchy : Hierarchy := (Hierarchy.withRoot "Object").addInheritance "Integer" ["Number"]

theorem ordered_numberHierarchy : numberHierarchy.Ordered := of_decide_eq_true (by cbv)

/-- A parameter of the given name, beside one whose name no hierarchy here knows. -/
def besideUnknown (name : String) : TypeTree := TypeTree.ofExpr (.app "F" [.app name [], .app "T" []])

theorem broader_is_partial_order_besideUnknown :
    numberHierarchy.Ordered ∧
      AtLeastAsBroad numberHierarchy.relate (besideUnknown "Object").root
        (besideUnknown "Number").root ∧
      AtLeastAsBroad numberHierarchy.relate (besideUnknown "Number").root
        (besideUnknown "Integer").root ∧
      AtLeastAsBroad numberHierarchy.relate (besideUnknown "Object").root
        (besideUnknown "Integer").root ∧
      ¬ AtLeastAsBroad numberHierarchy.relate (besideUnknown "Integer").root
        (besideUnknown "Number").root := by
  obtain ⟨-, htrans, hantisymm⟩ := broader_is_partial_order ordered_numberHierarchy
  have hobject : AtLeastAsBroad numberHierarchy.relate (besideUnknown "Object").root
      (besideUnknown "Number").root := Or.inr (by cbv)
  have hnumber : AtLeastAsBroad numberHierarchy.relate (besideUnknown "Number").root
      (besideUnknown "Integer").root := Or.inr (by cbv)
  refine ⟨ordered_numberHierarchy, hobject, hnumber, htrans _ _ _ hobject hnumber, fun hinteger => ?_⟩
  have hexpr := hantisymm _ _ hinteger hnumber
  simp [besideUnknown] at hexpr

end TypeGrading.Compare
