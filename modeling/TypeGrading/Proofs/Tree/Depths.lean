import TypeGrading.Proofs.Recursion
import TypeGrading.Proofs.Tree.Paths

/-!
# Depths and names below a node

* `Node.depth_child`, `Node.depth_walk`: each step down is one deeper;
* `Node.height_toExpr_add_depth_le`: no expression reaches below `maxDepth`;
* `Node.all_isName_toExpr`: every name of an expression is one;
* `Node.exprBody`, `Node.canonicalBody`: what one call does for the expression and the text of a
  node;
* `Node.unrolled_exprBody`, `Node.unrolled_canonicalBody`: how many levels of calls they need.
-/

namespace TypeGrading.Tree

namespace Node

variable {n m c : Node}

theorem depth_child (h : n.arena.WellFormed) (hc : c ∈ n.children) : c.depth = n.depth + 1 := by
  obtain ⟨harena, hid⟩ := mem_children_iff.1 hc
  have hrecord : n.arena.records[c.id]? = some c.record := harena ▸ c.getElem?_id
  obtain ⟨q, hq, hparent⟩ := h.child n.id n.record c.id n.getElem?_id hid
  obtain rfl : c.record = q := record_eq (harena ▸ hq)
  have hpos : 0 < c.id := Nat.zero_lt_of_lt (Arena.child_bounds n.getElem?_id hid).1
  obtain ⟨p, s, hp, -, hs, -, hdepth, -⟩ := h.parent c.id c.record hrecord hpos
  obtain rfl : n.id = p := Option.some.inj (hparent.symm.trans hp)
  obtain rfl : n.record = s := record_eq hs
  exact hdepth

/-- A path leads as many levels down as it has steps. -/
theorem depth_walk {path : List Nat} (h : n.arena.WellFormed) (hm : n.walk path = .ok m) :
    m.depth = n.depth + path.length := by
  induction path generalizing n with
  | nil => rw [← walk_nil_eq_ok_iff.1 hm, List.length_nil, Nat.add_zero]
  | cons k path ih =>
    obtain ⟨c, hc, hwalk⟩ := walk_cons_eq_ok_iff.1 hm
    have harena : c.arena = n.arena := (getElem?_children_eq_some_iff.1 hc).1
    rw [ih (harena ▸ h) hwalk, depth_child h (List.mem_of_getElem? hc), List.length_cons]
    omega

theorem depth_le (h : n.arena.WellFormed) : n.depth ≤ maxDepth :=
  h.depth_le n.getElem?_id

/-- The innermost name below a node is as deep as the node, and one more for each list. -/
theorem height_toExpr_add_depth_le (h : n.arena.WellFormed) :
    n.toExpr.height + n.depth ≤ maxDepth := by
  induction n using Node.induct with
  | node n ih =>
    have hdepth := depth_le h
    have hheight : n.toExpr.height ≤ maxDepth - n.depth := by
      rw [toExpr_eq, TypeExpr.height_app_le_iff, List.forall_mem_map]
      intro c hc
      have harena : c.arena = n.arena := (mem_children_iff.1 hc).1
      have := ih c hc (harena ▸ h)
      rw [depth_child h hc] at this
      omega
    omega

theorem all_isName_toExpr (h : n.arena.WellFormed) : n.toExpr.All IsName := by
  induction n using Node.induct with
  | node n ih =>
    rw [toExpr_eq]
    refine TypeExpr.All.app (h.name n.id n.record n.getElem?_id) ?_
    rw [List.forall_mem_map]
    intro c hc
    have harena : c.arena = n.arena := (mem_children_iff.1 hc).1
    exact ih c hc (harena ▸ h)

/-! ### Levels of calls -/

/-- No way down from the node has more nodes than this, itself counted. -/
def levels (n : Node) : Nat := maxDepth + 1 - n.depth

theorem levels_pos (h : n.arena.WellFormed) : 0 < n.levels :=
  Nat.sub_pos_of_lt (Nat.lt_succ_of_le (depth_le h))

theorem levels_child_lt (h : n.arena.WellFormed) (hc : c ∈ n.children) : c.levels < n.levels := by
  have hdepth := depth_le h
  rw [levels, levels, depth_child h hc]
  omega

/-- Calls for the children are given the levels below those of the node. -/
theorem map_children_congr {β : Type} {f g : Node → β} (h : n.arena.WellFormed)
    (hfg : ∀ c : Node, c.arena.WellFormed → c.levels < n.levels → f c = g c) :
    n.children.map f = n.children.map g := by
  refine List.map_congr_left fun c hc => hfg c ?_ (levels_child_lt h hc)
  rwa [(mem_children_iff.1 hc).1]

/-- The expression of a node, given those of other nodes. -/
def exprBody (nested : Node → TypeExpr) (n : Node) : TypeExpr :=
  .app n.name (n.children.map nested)

/-- The canonical text of a node, given those of other nodes. -/
def canonicalBody (nested : Node → String) (n : Node) : String :=
  if n.isLeaf then n.name
  else n.name ++ "<" ++ ", ".intercalate (n.children.map nested) ++ ">"

theorem unrolled_exprBody (h : n.arena.WellFormed) (beyond : Node → TypeExpr) {k : Nat}
    (hk : n.levels ≤ k) : unrolled exprBody beyond k n = n.toExpr := by
  refine unrolled_eq toExpr (fun m => m.arena.WellFormed) levels (fun m hm => levels_pos hm) ?_
    beyond h hk
  intro m nested hm hnested
  rw [exprBody, toExpr_eq, map_children_congr hm hnested]

theorem unrolled_canonicalBody (h : n.arena.WellFormed) (beyond : Node → String) {k : Nat}
    (hk : n.levels ≤ k) : unrolled canonicalBody beyond k n = n.canonical := by
  refine unrolled_eq canonical (fun m => m.arena.WellFormed) levels (fun m hm => levels_pos hm) ?_
    beyond h hk
  intro m nested hm hnested
  rw [canonicalBody, canonical, map_children_congr hm hnested]
  simp

end Node

end TypeGrading.Tree
