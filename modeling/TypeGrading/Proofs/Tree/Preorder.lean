import TypeGrading.Proofs.Tree.Growing

/-!
# Preorder

The records of a tree that was grown from an expression lie in the order in which the expression is
written: each name before its parameters, and these from left to right.

* `TypeExpr.outline`: the names of an expression in preorder, with their depths;
* `Arena.outline`: the names of an arena in the order of its records, with their depths;
* `outline_ofExpr`: the two are the same for a grown tree.
-/

namespace TypeGrading.Tree

namespace TypeExpr

/-- The names of an expression in preorder, each with its depth below `depth`, that of the outermost
name. -/
def outline (depth : Nat) : TypeExpr → List (String × Nat)
  | .app name params => (name, depth) :: params.flatMap (outline (depth + 1))

theorem outline_append_singleton (name : String) (params : List TypeExpr) (e : TypeExpr)
    (depth : Nat) : (app name (params ++ [e])).outline depth =
      (app name params).outline depth ++ e.outline (depth + 1) := by
  simp [outline]

/-- One level further down, every depth is greater by one. -/
theorem outline_succ (e : TypeExpr) (depth : Nat) :
    e.outline (depth + 1) = (e.outline depth).map fun p => (p.1, p.2 + 1) := by
  induction e generalizing depth with
  | app name params ih =>
    rw [outline, outline, List.map_cons, List.map_flatMap]
    congr 1
    exact List.flatMap_congr fun e he => ih e he (depth + 1)

end TypeExpr

/-- The names of an arena in the order of its records, each with its depth. -/
def Arena.outline (a : Arena) : List (String × Nat) :=
  a.records.toList.map fun r => (r.name, r.depth)

/-- A copy comes behind all other records, each of its names as many levels further down. -/
theorem Arena.outline_attach (a b : Arena) (parent depth : Nat) (inside : parent < a.size)
    (rooted : 0 < b.size) : (a.attach b parent depth inside rooted).outline =
      a.outline ++ b.outline.map fun p => (p.1, p.2 + depth) := by
  have hlength : a.outline.length = a.size := by simp [outline, size]
  apply List.ext_getElem?
  intro i
  rw [List.getElem?_append, hlength]
  simp only [outline, List.getElem?_map, Array.getElem?_toList, getElem?_attach]
  by_cases hi : i < a.size
  · simp only [hi, if_true, Option.map_map]
    congr 1
    funext r
    by_cases hp : i = parent <;> simp [hp, Record.addChild]
  · simp only [hi, if_false, Option.map_map]
    rfl

/-- **Records in preorder.** -/
theorem TypeTree.outline_ofExpr (e : TypeExpr) : (ofExpr e).arena.outline = e.outline 0 := by
  induction e using ofExpr_induction with
  | leaf name => simp [single, Arena.leaf, Arena.outline, TypeExpr.outline]
  | grow name params e ihp ih =>
    rw [ofExpr_append_singleton, grow, Arena.outline_attach, ihp, ih,
      TypeExpr.outline_append_singleton, TypeExpr.outline_succ]

end TypeGrading.Tree
