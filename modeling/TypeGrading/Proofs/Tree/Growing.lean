import TypeGrading.Proofs.Tree.Expressions
import TypeGrading.Tree.Build

/-!
# Trees grown from expressions

Every type expression has a tree: its name alone, with the trees of its parameters hung under it
one after the other. This is the tree that reading the expression leaves behind.

* `TypeTree.single`, `TypeTree.grow`, `TypeTree.ofExpr`: one name, one more child, and the whole tree;
* `toExpr_ofExpr`: the expression is read back from the tree;
* `deepest_ofExpr`: the depth of the tree is the height of the expression;
* `attach_grow`: hanging a grown tree is hanging the tree first and the new child afterwards.
-/

namespace TypeGrading.Tree

namespace TypeTree

/-- The tree of one name. -/
def single (name : String) : TypeTree := ⟨Arena.leaf name, Nat.zero_lt_one⟩

/-- The tree with a copy of another one as the last child of its root. -/
def grow (t u : TypeTree) : TypeTree :=
  ⟨t.arena.attach u.arena 0 1 t.rooted u.rooted, by
    rw [Arena.size_attach]; exact Nat.add_pos_left t.rooted _⟩

/-- The tree of an expression, its records in preorder. -/
def ofExpr : TypeExpr → TypeTree
  | .app name params => (params.map ofExpr).foldl grow (single name)

@[simp] theorem ofExpr_leaf (name : String) : ofExpr (.app name []) = single name := by
  simp [ofExpr]

theorem ofExpr_append_singleton (name : String) (params : List TypeExpr) (e : TypeExpr) :
    ofExpr (.app name (params ++ [e])) = (ofExpr (.app name params)).grow (ofExpr e) := by
  simp [ofExpr]

/-- Induction along the growth of a tree. -/
theorem ofExpr_induction {motive : TypeExpr → Prop} (leaf : ∀ name, motive (.app name []))
    (grow : ∀ name params e, motive (.app name params) → motive e →
      motive (.app name (params ++ [e]))) (e : TypeExpr) : motive e := by
  induction e with
  | app name params ih =>
    induction params using List.reverseRecOn with
    | nil => exact leaf name
    | append_singleton params e ihp =>
      exact grow name params e (ihp fun d hd => ih d (by simp [hd])) (ih e (by simp))

/-! ### Records of a grown tree -/

section Grow

variable {t u : TypeTree} {i : Nat} {r : Record}

theorem size_grow (t u : TypeTree) : (t.grow u).arena.size = t.arena.size + u.arena.size :=
  Arena.size_attach t.arena u.arena 0 1 t.rooted u.rooted

theorem root_grow (t u : TypeTree) : (t.grow u).root.record = t.root.record.addChild t.size :=
  Node.record_eq (Arena.getElem?_attach_parent t.rooted u.rooted t.root.getElem?_id)

theorem getElem?_grow_old (hr : t.arena.records[i]? = some r) (hi : 0 < i) :
    (t.grow u).arena.records[i]? = some r :=
  Arena.getElem?_attach_of_ne t.rooted u.rooted hr (Nat.ne_of_gt hi)

theorem getElem?_grow_new (hr : u.arena.records[i]? = some r) :
    (t.grow u).arena.records[i + t.size]? = some (r.moved t.size 0 1) :=
  Arena.getElem?_attach_moved t.rooted u.rooted hr

end Grow

/-- The root of a grown tree is marked as such. -/
theorem root_ofExpr (e : TypeExpr) :
    (ofExpr e).root.record.parent = none ∧ (ofExpr e).root.record.depth = 0 := by
  induction e using ofExpr_induction with
  | leaf name => simp [single, Arena.leaf, root, Node.record]
  | grow name params e ihp _ =>
    rw [ofExpr_append_singleton, root_grow]
    exact ihp

end TypeTree

/-! ### Expressions -/

/-- The expression below a position. -/
def Arena.exprAt (a : Arena) (i : Nat) : TypeExpr :=
  if h : i < a.size then Node.toExpr ⟨a, i, h⟩ else default

theorem Node.toExpr_eq_exprAt (n : Node) : n.toExpr = n.arena.exprAt n.id := by
  simp [Arena.exprAt, n.inside]

namespace TypeTree

theorem toExpr_grow_old {t u : TypeTree} {c : Node} (harena : c.arena = t.arena) (hpos : 0 < c.id) :
    c.toExpr = (t.grow u).arena.exprAt c.id := by
  have hin : c.id < (t.grow u).arena.size := by
    have := harena ▸ c.inside
    rw [size_grow]
    omega
  rw [Node.toExpr_eq_of_hom (m := ⟨(t.grow u).arena, c.id, hin⟩) id (0 < ·) ?_ harena rfl hpos rfl]
  · exact Node.toExpr_eq_exprAt _
  · intro i r hi hr
    refine ⟨⟨r, getElem?_grow_old hr hi, rfl, by simp⟩, ?_⟩
    exact fun d hd => hi.trans (Arena.child_bounds hr hd).1

theorem toExpr_grow_new {t u : TypeTree} : u.root.toExpr = (t.grow u).arena.exprAt t.size := by
  have hin : t.size < (t.grow u).arena.size := by
    have := u.rooted
    rw [size_grow, size]
    omega
  rw [Node.toExpr_eq_of_hom (m := ⟨(t.grow u).arena, t.size, hin⟩) (· + t.size) (fun _ => True) ?_
    rfl rfl trivial (by simp [root])]
  · exact Node.toExpr_eq_exprAt _
  · intro i r _ hr
    exact ⟨⟨_, getElem?_grow_new hr, rfl, rfl⟩, fun _ _ => trivial⟩

/-- Growing a tree adds a parameter to its expression. -/
theorem toExpr_grow (t u : TypeTree) :
    (t.grow u).root.toExpr =
      .app t.root.name (t.root.children.map Node.toExpr ++ [u.root.toExpr]) := by
  have hids : (t.grow u).root.childIds = t.root.childIds ++ [t.size] :=
    congrArg Record.children (root_grow t u)
  have hname : (t.grow u).root.name = t.root.name := by
    simp [Node.name, root_grow, Record.addChild]
  have old : t.root.children.map Node.toExpr = t.root.childIds.map (t.grow u).arena.exprAt := by
    refine Node.map_children _ fun c hc => ?_
    obtain ⟨harena, hid⟩ := Node.mem_children_iff.1 hc
    exact toExpr_grow_old harena (Arena.child_bounds t.root.getElem?_id hid).1
  rw [Node.toExpr_eq, hname, Node.map_children _ fun c hc => ?_, hids, List.map_append, ← old,
    toExpr_grow_new (t := t) (u := u)]
  · rfl
  · rw [Node.toExpr_eq_exprAt c, (Node.mem_children_iff.1 hc).1]
    rfl

/-- **An expression is read back from its tree.** -/
@[simp] theorem toExpr_ofExpr (e : TypeExpr) : (ofExpr e).root.toExpr = e := by
  induction e using ofExpr_induction with
  | leaf name => simp [single, Arena.leaf, root, Node.toExpr_eq, Node.name, Node.record,
      Node.children, Node.childIds]
  | grow name params e ihp ih =>
    rw [Node.toExpr_eq] at ihp
    obtain ⟨hname, hparams⟩ := TypeExpr.app.inj ihp
    rw [ofExpr_append_singleton, toExpr_grow, hname, hparams, ih]

end TypeTree

/-! ### Depth -/

namespace Arena

theorem deepest_le_iff {a : Arena} {k : Nat} :
    a.deepest ≤ k ↔ ∀ (i : Nat) (r : Record), a.records[i]? = some r → r.depth ≤ k := by
  have fold : ∀ (l : List Record) (d : Nat),
      l.foldl (fun d (r : Record) => max d r.depth) d ≤ k ↔ d ≤ k ∧ ∀ r ∈ l, r.depth ≤ k := by
    intro l
    induction l with
    | nil => simp
    | cons r l ih => intro d; simp [ih, and_assoc]
  rw [deepest, ← Array.foldl_toList, fold]
  simp only [Nat.zero_le, true_and, Array.mem_toList_iff, Array.mem_iff_getElem?]
  constructor
  · exact fun h i r hr => h r ⟨i, hr⟩
  · exact fun h r ⟨i, hr⟩ => h i r hr

theorem deepest_attach (a b : Arena) (parent depth : Nat) (inside : parent < a.size)
    (rooted : 0 < b.size) :
    (a.attach b parent depth inside rooted).deepest = max a.deepest (b.deepest + depth) := by
  apply Nat.le_antisymm
  · rw [deepest_le_iff]
    intro i r hr
    rcases cases_getElem?_attach hr with ⟨hr, -⟩ | ⟨q, hq, -, rfl⟩ | ⟨j, q, -, hq, rfl⟩
    · exact le_max_of_le_left (deepest_le_iff.1 le_rfl i r hr)
    · exact le_max_of_le_left (deepest_le_iff.1 le_rfl i q hq)
    · exact le_max_of_le_right (Nat.add_le_add_right (deepest_le_iff.1 le_rfl j q hq) depth)
  · have hall := deepest_le_iff.1 (le_refl (a.attach b parent depth inside rooted).deepest)
    refine max_le (deepest_le_iff.2 fun i r hr => ?_) ?_
    · by_cases hi : i = parent
      · subst hi
        have h : (r.addChild a.size).depth ≤ _ := hall _ _ (getElem?_attach_parent inside rooted hr)
        exact h
      · exact hall _ _ (getElem?_attach_of_ne inside rooted hr hi)
    · obtain ⟨q, hq⟩ := exists_getElem?_iff.2 rooted
      have hroot := hall _ _ (getElem?_attach_moved inside rooted hq)
      have hdeep : b.deepest ≤ (a.attach b parent depth inside rooted).deepest - depth := by
        rw [deepest_le_iff]
        intro i r hr
        exact Nat.le_sub_of_add_le (hall _ _ (getElem?_attach_moved inside rooted hr))
      simp only [Record.moved] at hroot
      omega

end Arena

/-- The tree of an expression is as deep as the expression is high. -/
@[simp] theorem TypeTree.deepest_ofExpr (e : TypeExpr) : (TypeTree.ofExpr e).arena.deepest = e.height := by
  induction e using TypeTree.ofExpr_induction with
  | leaf name => simp [TypeTree.single, Arena.leaf, Arena.deepest]
  | grow name params e ihp ih =>
    rw [TypeTree.ofExpr_append_singleton, TypeTree.grow, Arena.deepest_attach, ihp, ih,
      TypeExpr.height_append_singleton]

/-! ### Hanging a grown tree -/

theorem Record.moved_moved (r : Record) (offset offset' parent depth : Nat) :
    (r.moved offset 0 1).moved offset' parent depth =
      r.moved (offset' + offset) offset' (depth + 1) := by
  cases r with
  | mk name up children deep =>
    simp only [Record.moved, List.map_map, Record.mk.injEq, true_and]
    refine ⟨?_, ?_, by omega⟩
    · cases up <;> simp only [Option.some.injEq] <;> omega
    · exact List.map_congr_left fun c _ => by simp only [Function.comp_apply]; omega

theorem Record.moved_addChild (r : Record) (child offset parent depth : Nat) :
    (r.addChild child).moved offset parent depth =
      (r.moved offset parent depth).addChild (offset + child) := by
  simp [Record.moved, Record.addChild, Nat.add_comm]

/-- Hanging a grown tree is hanging the tree, and the new child under the copy of its root. -/
theorem Arena.attach_grow (a : Arena) (t u : TypeTree) (parent depth : Nat) (inside : parent < a.size)
    (rooted : 0 < (t.grow u).arena.size)
    (inside' : a.size < (a.attach t.arena parent depth inside t.rooted).size) :
    a.attach (t.grow u).arena parent depth inside rooted =
      (a.attach t.arena parent depth inside t.rooted).attach u.arena a.size (depth + 1) inside'
        u.rooted := by
  apply Arena.ext
  apply Array.ext_getElem?
  intro i
  simp only [getElem?_attach, TypeTree.grow, size_attach]
  -- a position in `a`, one in the copy of `t`, or one in the copy of `u`, which is moved twice
  by_cases h₁ : i < a.size
  · have hi : i ≠ a.size := Nat.ne_of_lt h₁
    simp only [h₁, hi, Nat.lt_add_right t.arena.size h₁, if_true, if_false, Option.map_map]
    rfl
  by_cases h₂ : i < a.size + t.arena.size
  · have h₃ : i - a.size < t.arena.size := by omega
    have h₄ : i - a.size = 0 ↔ i = a.size := by omega
    simp only [h₁, h₂, h₃, h₄, if_true, if_false, Option.map_map]
    congr 1
    funext r
    by_cases hi : i = a.size
    · simp [hi, Record.moved_addChild]
    · simp [hi]
  · have h₃ : ¬ i - a.size < t.arena.size := by omega
    simp only [h₁, h₂, h₃, if_false, Option.map_map, ← Nat.sub_sub]
    congr 1
    funext r
    exact Record.moved_moved r t.arena.size a.size parent depth

end TypeGrading.Tree
