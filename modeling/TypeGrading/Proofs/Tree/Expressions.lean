import TypeGrading.Proofs.Tree.Links
import TypeGrading.Text.Blank

/-!
# Measures of type expressions

* `TypeExpr.induct`: a property passes from the parameters of an expression to the whole;
* `TypeExpr.size`, `TypeExpr.height`: how many names, and how many lists around the innermost one;
* `TypeExpr.trimmed`: the expression with the blanks around every name cut off;
* `TypeExpr.All`: every name has a property;
* `TypeExpr.canonical`: the canonical text, which is that of any node with this expression.
-/

namespace TypeGrading.Tree

namespace TypeExpr

/-- Induction over the parameters. -/
@[elab_as_elim, induction_eliminator]
theorem induct {motive : TypeExpr → Prop}
    (app : ∀ name params, (∀ e ∈ params, motive e) → motive (.app name params)) :
    ∀ e, motive e
  | .app name params => app name params fun e _ => induct app e

/-- The number of names. -/
def size : TypeExpr → Nat
  | .app _ params => 1 + (params.map size).sum

/-- The number of parameter lists around the innermost name. -/
def height : TypeExpr → Nat
  | .app _ params => (params.map fun e => e.height + 1).foldr max 0

/-- The expression with every name changed. -/
def mapNames (f : String → String) : TypeExpr → TypeExpr
  | .app name params => .app (f name) (params.map (mapNames f))

/-- The expression with the blanks around every name cut off. -/
def trimmed (e : TypeExpr) : TypeExpr :=
  e.mapNames fun name => String.ofList (Text.trim name.toList)

/-- Every name in the expression has a property. -/
inductive All (P : String → Prop) : TypeExpr → Prop
  | app {name : String} {params : List TypeExpr} (hname : P name)
      (hparams : ∀ e ∈ params, All P e) : All P (.app name params)

/-- The canonical text of an expression. -/
def canonical : TypeExpr → String
  | .app name params =>
    if params.isEmpty then name
    else name ++ "<" ++ ", ".intercalate (params.map canonical) ++ ">"

theorem foldr_max_le_iff {l : List Nat} {k : Nat} : l.foldr max 0 ≤ k ↔ ∀ n ∈ l, n ≤ k := by
  induction l with
  | nil => simp
  | cons n l ih => simp [ih]

theorem height_app_le_iff {name : String} {params : List TypeExpr} {k : Nat} :
    (app name params).height ≤ k ↔ ∀ e ∈ params, e.height + 1 ≤ k := by
  rw [height, foldr_max_le_iff]
  simp

@[simp] theorem height_leaf (name : String) : (app name []).height = 0 := by simp [height]

/-- More parameters make an expression no lower. -/
theorem height_le_height_append (name : String) (params more : List TypeExpr) :
    (app name params).height ≤ (app name (params ++ more)).height := by
  rw [height_app_le_iff]
  intro e he
  exact height_app_le_iff.1 le_rfl e (List.mem_append_left _ he)

theorem height_append_singleton (name : String) (params : List TypeExpr) (e : TypeExpr) :
    (app name (params ++ [e])).height = max (app name params).height (e.height + 1) := by
  apply Nat.le_antisymm
  · rw [height_app_le_iff]
    intro d hd
    rcases List.mem_append.1 hd with hd | hd
    · exact le_max_of_le_left (height_app_le_iff.1 le_rfl d hd)
    · rw [List.mem_singleton.1 hd]; exact le_max_right _ _
  · refine max_le (height_le_height_append name params [e]) ?_
    exact height_app_le_iff.1 le_rfl e (by simp)

theorem trimmed_app (name : String) (params : List TypeExpr) :
    (app name params).trimmed =
      .app (String.ofList (Text.trim name.toList)) (params.map trimmed) := by
  simp [trimmed, mapNames]

/-- Cutting off blanks changes no parameter list. -/
theorem height_trimmed (e : TypeExpr) : e.trimmed.height = e.height := by
  induction e with
  | app name params ih =>
    rw [trimmed_app, height, height, List.map_map]
    congr 1
    exact List.map_congr_left fun e he => congrArg (· + 1) (ih e he)

end TypeExpr

namespace Node

/-- The canonical text of a node is that of its expression. -/
theorem canonical_toExpr (n : Node) : n.toExpr.canonical = n.canonical := by
  induction n using Node.induct with
  | node n ih =>
    have hmap : (n.children.map toExpr).map TypeExpr.canonical = n.children.map canonical := by
      rw [List.map_map]
      exact List.map_congr_left ih
    have hempty : (n.children.map toExpr).isEmpty = n.isLeaf := by
      rw [isLeaf, List.isEmpty_map, Bool.eq_iff_iff, List.isEmpty_iff_length_eq_zero,
        List.isEmpty_iff_length_eq_zero, length_children]
    rw [toExpr_eq, TypeExpr.canonical, canonical, hmap, hempty]
    simp

end Node

end TypeGrading.Tree
