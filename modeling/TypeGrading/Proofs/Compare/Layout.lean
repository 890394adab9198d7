import Mathlib
import TypeGrading.Proofs.Descriptor.Edits
import TypeGrading.Proofs.Tree.Expressions
import TypeGrading.Divergence

/-!
# Layouts

The records of one type expression may lie in an arena in many orders. What is read off a node does
not tell them apart: every walk goes by links, and the links of two nodes with one expression run
through nodes that again have one expression.

* `Node.toExpr_getElem_children`, `toExpr_childPairs`: the children of such nodes, position by
  position;
* `gradePair_of_toExpr_eq`, `descend_of_toExpr_eq`: comparisons of such nodes are the same
  dialogue;
* `Dialogue.Alike`: dialogues that no resolver tells apart;
* `layout_unobservable`: comparisons, texts and the choice of a child do not depend on the layout.
-/

namespace TypeGrading

open TypeGrading.Tree

/-! ### What one node reads -/

namespace Tree.Node

variable {n m c : Node}

theorem toExpr_eq_toExpr_iff :
    n.toExpr = m.toExpr ↔ n.name = m.name ∧ n.children.map toExpr = m.children.map toExpr := by
  rw [toExpr_eq, toExpr_eq, TypeExpr.app.injEq]

theorem name_of_toExpr_eq (h : n.toExpr = m.toExpr) : n.name = m.name :=
  (toExpr_eq_toExpr_iff.1 h).1

theorem length_childIds_of_toExpr_eq (h : n.toExpr = m.toExpr) :
    n.childIds.length = m.childIds.length := by
  simpa using congrArg List.length (toExpr_eq_toExpr_iff.1 h).2

theorem toExpr_getElem_children (h : n.toExpr = m.toExpr) {i : Nat} (hn : i < n.children.length)
    (hm : i < m.children.length) : n.children[i].toExpr = m.children[i].toExpr := by
  have hmap := List.getElem_of_eq (toExpr_eq_toExpr_iff.1 h).2 (by simpa using hn)
  rwa [List.getElem_map, List.getElem_map] at hmap

/-- The first child that passes a test stands at the same position in both. -/
theorem exists_childAt_of_firstChild (h : n.toExpr = m.toExpr) {test : String → Bool}
    (hc : n.firstChild test = some c) :
    ∃ i d, n.childAt i = .ok c ∧ m.childAt i = .ok d ∧ m.firstChild test = some d := by
  obtain ⟨htest, i, hi, rfl, hbefore⟩ := List.find?_eq_some_iff_getElem.1 hc
  have hlength : n.children.length = m.children.length := by
    rw [length_children, length_children, length_childIds_of_toExpr_eq h]
  have hname : ∀ j (hj : j < n.children.length), m.children[j].name = n.children[j].name :=
    fun j hj => (name_of_toExpr_eq (toExpr_getElem_children h hj (hlength ▸ hj))).symm
  have him : i < m.children.length := hlength ▸ hi
  refine ⟨i, m.children[i], childAt_eq_ok_iff.2 (List.getElem?_eq_getElem hi),
    childAt_eq_ok_iff.2 (List.getElem?_eq_getElem him), ?_⟩
  refine List.find?_eq_some_iff_getElem.2 ⟨by rwa [hname i hi], i, him, rfl, fun j hj => ?_⟩
  rw [hname j (hj.trans hi)]
  exact hbefore j hj

end Tree.Node

/-! ### What a comparison of two nodes reads -/

/-- Two dialogues that no resolver tells apart: they ask the same questions, in the same order, and
come to the same result. -/
def Dialogue.Alike {α : Type} (d e : Dialogue α) : Prop :=
  ∀ r : Resolver, d.answer r = e.answer r ∧ d.queries r = e.queries r

theorem Dialogue.Alike.of_eq {α : Type} {d e : Dialogue α} (h : d = e) : d.Alike e :=
  fun _ => h ▸ ⟨rfl, rfl⟩

namespace Compare

variable {x x' y y' : Node}

theorem length_childPairs_of_toExpr_eq (hx : x.toExpr = x'.toExpr) (hy : y.toExpr = y'.toExpr) :
    (childPairs x y).length = (childPairs x' y').length := by
  simp [childPairs, Node.length_childIds_of_toExpr_eq hx, Node.length_childIds_of_toExpr_eq hy]

/-- Pairs of children at the same position have the same expressions. -/
theorem toExpr_childPairs (hx : x.toExpr = x'.toExpr) (hy : y.toExpr = y'.toExpr) {i : Nat}
    (h : i < (childPairs x y).length) (h' : i < (childPairs x' y').length) :
    (childPairs x y)[i].1.toExpr = (childPairs x' y')[i].1.toExpr ∧
      (childPairs x y)[i].2.toExpr = (childPairs x' y')[i].2.toExpr := by
  simp only [childPairs, List.getElem_zip]
  exact ⟨Node.toExpr_getElem_children hx _ _, Node.toExpr_getElem_children hy _ _⟩

/-- **Grading.** The comparison of two nodes is the same dialogue for all nodes with their
expressions. -/
theorem gradePair_of_toExpr_eq (hx : x.toExpr = x'.toExpr) (hy : y.toExpr = y'.toExpr) :
    gradePair x y = gradePair x' y' := by
  induction x using Node.induct generalizing x' y y' with
  | node x ih =>
    have hpairs : ((childPairs x y).attach.map fun p => gradePair p.1.1 p.1.2) =
        (childPairs x' y').attach.map fun p => gradePair p.1.1 p.1.2 := by
      apply List.ext_getElem (by simp [length_childPairs_of_toExpr_eq hx hy])
      intro i hi hi'
      simp only [List.length_map, List.length_attach] at hi hi'
      obtain ⟨hleft, hright⟩ := toExpr_childPairs hx hy hi hi'
      simp only [List.getElem_map, List.getElem_attach]
      exact ih _ (List.of_mem_zip (List.getElem_mem hi)).1 hleft hright
    rw [gradePair, gradePair, hpairs, Node.name_of_toExpr_eq hx, Node.name_of_toExpr_eq hy,
      Node.length_childIds_of_toExpr_eq hx, Node.length_childIds_of_toExpr_eq hy]

/-- **Descending.** So is the descent to their first difference. -/
theorem descend_of_toExpr_eq (hx : x.toExpr = x'.toExpr) (hy : y.toExpr = y'.toExpr) (g : Grade)
    (path : List Nat) : descend x y g path = descend x' y' g path := by
  induction x using Node.induct generalizing x' y y' g path with
  | node x ih =>
    have hpairs : ((childPairs x y).attach.mapIdx fun i p =>
          (gradePair p.1.1 p.1.2, fun g => descend p.1.1 p.1.2 g (path ++ [i]))) =
        (childPairs x' y').attach.mapIdx fun i p =>
          (gradePair p.1.1 p.1.2, fun g => descend p.1.1 p.1.2 g (path ++ [i])) := by
      apply List.ext_getElem (by simp [length_childPairs_of_toExpr_eq hx hy])
      intro i hi hi'
      simp only [List.length_mapIdx, List.length_attach] at hi hi'
      obtain ⟨hleft, hright⟩ := toExpr_childPairs hx hy hi hi'
      simp only [List.getElem_mapIdx, List.getElem_attach]
      refine Prod.ext (gradePair_of_toExpr_eq hleft hright) (funext fun g => ?_)
      exact ih _ (List.of_mem_zip (List.getElem_mem hi)).1 hleft hright g _
    rw [descend, descend, hpairs, Node.name_of_toExpr_eq hx, Node.name_of_toExpr_eq hy]

theorem explain_of_toExpr_eq (hx : x.toExpr = x'.toExpr) (hy : y.toExpr = y'.toExpr) :
    explain x y = explain x' y' := by
  simp only [explain, gradePair_of_toExpr_eq hx hy, descend_of_toExpr_eq hx hy]

theorem strict_of_toExpr_eq (hx : x.toExpr = x'.toExpr) (hy : y.toExpr = y'.toExpr) :
    strict x (some y) = strict x' (some y') := by
  simp only [strict, gradePair_of_toExpr_eq hx hy, explain_of_toExpr_eq hx hy,
    Node.name_of_toExpr_eq hx, Node.name_of_toExpr_eq hy]

/-- **The layout is not observed.** Take nodes with the same expressions, in any arenas: grading,
demanding identity and explaining ask every resolver the same questions and come to the same
result; the nodes have the same text; and the first child that passes a test, if there is one,
stands at the same position. -/
theorem layout_unobservable (hx : x.toExpr = x'.toExpr) (hy : y.toExpr = y'.toExpr) :
    (gradePair x y).Alike (gradePair x' y') ∧
    (strict x (some y)).Alike (strict x' (some y')) ∧ (strict x none).Alike (strict x' none) ∧
    (explain x y).Alike (explain x' y') ∧
    x.canonical = x'.canonical ∧
    ∀ test : String → Bool, x.firstChild test = none ∧ x'.firstChild test = none ∨
      ∃ i c c', x.childAt i = .ok c ∧ x'.childAt i = .ok c' ∧
        x.firstChild test = some c ∧ x'.firstChild test = some c' := by
  refine ⟨.of_eq (gradePair_of_toExpr_eq hx hy), .of_eq (strict_of_toExpr_eq hx hy), .of_eq ?missing,
    .of_eq (explain_of_toExpr_eq hx hy), ?text, fun test => ?child⟩
  case missing => simp only [strict, Node.name_of_toExpr_eq hx]
  case text => rw [← Node.canonical_toExpr, hx, Node.canonical_toExpr]
  case child =>
    cases hc : x.firstChild test with
    | some c =>
      obtain ⟨i, c', hi, hi', hc'⟩ := Node.exists_childAt_of_firstChild hx hc
      exact Or.inr ⟨i, c, c', hi, hi', rfl, hc'⟩
    | none =>
      refine Or.inl ⟨rfl, Option.eq_none_iff_forall_ne_some.2 fun c' hc' => ?_⟩
      obtain ⟨i, c, -, -, hc''⟩ := Node.exists_childAt_of_firstChild hx.symm hc'
      cases hc.symm.trans hc''

/-- The arena of `A<B<T>, C>` with its records in the order in which they are read. -/
def readArena (innermost : String) : Arena :=
  (Descriptor.Edit.perform Arena.empty (.read ("A<B<" ++ innermost ++ ">, C>") none)).2

/-- The same with the records level by level. -/
def levelArena (innermost : String) : Arena :=
  [Descriptor.Edit.addRoot "A", .add 0 "B", .add 0 "C", .add 1 innermost].foldl
    (fun a e => (e.perform a).2) Arena.empty

theorem layout_unobservable_levelArena :
    ∃ x x' y y' : Node,
      (x.arena = readArena "T" ∧ y.arena = readArena "U" ∧ x'.arena = levelArena "T" ∧
        y'.arena = levelArena "U" ∧ readArena "T" ≠ levelArena "T") ∧
      x.toExpr = x'.toExpr ∧ y.toExpr = y'.toExpr ∧
      (explain x y).answer Resolver.exact = some ⟨"T", "U", .unrelated, [0, 0]⟩ ∧
      (explain x' y').answer Resolver.exact = some ⟨"T", "U", .unrelated, [0, 0]⟩ ∧
      (gradePair x' y').queries Resolver.exact = [("T", "U")] ∧
      x'.canonical = "A<B<T>, C>" ∧
      (∃ i c c', x.childAt i = .ok c ∧ x'.childAt i = .ok c' ∧ c.id = 3 ∧ c'.id = 2 ∧
        x.firstChild (· == "C") = some c ∧ x'.firstChild (· == "C") = some c') ∧
      x'.firstChild (· == "T") = none := by
  have hx : Node.toExpr ⟨readArena "T", 0, by decide +kernel⟩ =
      Node.toExpr ⟨levelArena "T", 0, by decide +kernel⟩ := by cbv
  have hy : Node.toExpr ⟨readArena "U", 0, by decide +kernel⟩ =
      Node.toExpr ⟨levelArena "U", 0, by decide +kernel⟩ := by cbv
  obtain ⟨hgrade, -, -, hexplain, htext, hchild⟩ := layout_unobservable hx hy
  have hdivergence : (explain ⟨readArena "T", 0, by decide +kernel⟩
      ⟨readArena "U", 0, by decide +kernel⟩).answer Resolver.exact =
        some ⟨"T", "U", .unrelated, [0, 0]⟩ := by cbv
  have hqueries : (gradePair ⟨readArena "T", 0, by decide +kernel⟩
      ⟨readArena "U", 0, by decide +kernel⟩).queries Resolver.exact = [("T", "U")] := by cbv
  refine ⟨_, _, _, _, ⟨rfl, rfl, rfl, rfl, by decide +kernel⟩, hx, hy, hdivergence,
    (hexplain _).1 ▸ hdivergence, (hgrade _).2 ▸ hqueries, htext ▸ by cbv, ?_, ?_⟩
  · have hid : (Node.firstChild ⟨readArena "T", 0, by decide +kernel⟩ (· == "C")).map Node.id =
        some 3 := by cbv
    have hid' : (Node.firstChild ⟨levelArena "T", 0, by decide +kernel⟩ (· == "C")).map Node.id =
        some 2 := by cbv
    rcases hchild (· == "C") with ⟨hnone, -⟩ | ⟨i, c, c', hi, hi', hc, hc'⟩
    · rw [hnone] at hid
      cases hid
    · rw [hc] at hid
      rw [hc'] at hid'
      exact ⟨i, c, c', hi, hi', Option.some.inj hid, Option.some.inj hid', hc, hc'⟩
  · -- a grandchild is no child, in either layout
    have hnone : Node.firstChild ⟨readArena "T", 0, by decide +kernel⟩ (· == "T") = none := by cbv
    rcases hchild (· == "T") with ⟨-, hnone'⟩ | ⟨i, c, c', -, -, hc, -⟩
    · exact hnone'
    · cases hnone.symm.trans hc

end Compare

end TypeGrading
