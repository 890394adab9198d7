import TypeGrading.Proofs.Tree.WellFormed

/-!
# Paths

A path of child positions leads from a node to at most one other. In a well-formed arena it leads
from the root to every record, along one path each.

* `Node.walk_cons_eq_ok_iff`, `Node.walk_concat_eq_ok_iff`: the first and the last step of a path;
* `existsUnique_path`: every record of a tree is at the end of exactly one path;
* `size_toExpr`: the expression of a tree has as many names as the tree has records.
-/

namespace TypeGrading.Tree

/-! ### Steps of a path -/

namespace Node

variable {n m : Node} {k : Nat} {path : List Nat}

theorem childAt_eq_ok_iff : n.childAt k = .ok m ↔ n.children[k]? = some m := by
  unfold childAt
  cases n.children[k]? with
  | none => simp
  | some c => simp

@[simp] theorem walk_nil_eq_ok_iff : n.walk [] = .ok m ↔ n = m := by
  rw [walk, Except.ok.injEq]

theorem walk_cons_eq_ok_iff :
    n.walk (k :: path) = .ok m ↔ ∃ c, n.children[k]? = some c ∧ c.walk path = .ok m := by
  simp only [← childAt_eq_ok_iff, walk]
  cases n.childAt k with
  | error e =>
    constructor
    · intro h; cases h
    · rintro ⟨c, hc, -⟩; cases hc
  | ok c =>
    constructor
    · exact fun h => ⟨c, rfl, h⟩
    · rintro ⟨d, hd, h⟩
      cases hd
      exact h

theorem walk_concat_eq_ok_iff :
    n.walk (path ++ [k]) = .ok m ↔ ∃ l, n.walk path = .ok l ∧ l.children[k]? = some m := by
  induction path generalizing n with
  | nil => simp [walk_cons_eq_ok_iff]
  | cons i path ih =>
    rw [List.cons_append, walk_cons_eq_ok_iff]
    simp only [ih, walk_cons_eq_ok_iff]
    constructor
    · rintro ⟨c, hc, l, hl, hm⟩
      exact ⟨l, ⟨c, hc, hl⟩, hm⟩
    · rintro ⟨l, ⟨c, hc, hl⟩, hm⟩
      exact ⟨c, hc, l, hl, hm⟩

theorem getElem?_children_eq_some_iff :
    n.children[k]? = some m ↔ m.arena = n.arena ∧ n.childIds[k]? = some m.id := by
  simp only [List.getElem?_eq_some_iff]
  constructor
  · rintro ⟨hk, rfl⟩
    have hlen : k < n.childIds.length := by simpa using hk
    obtain ⟨harena, hid⟩ := n.getElem_children k hk hlen
    exact ⟨harena, hlen, hid.symm⟩
  · rintro ⟨harena, hk, hid⟩
    have hlen : k < n.children.length := by simpa using hk
    obtain ⟨hca, hci⟩ := n.getElem_children k hlen hk
    exact ⟨hlen, ext_id (hca.trans harena.symm) (hci.trans hid)⟩

/-- A walk stays in its arena. -/
theorem arena_of_walk (h : n.walk path = .ok m) : m.arena = n.arena := by
  induction path generalizing n with
  | nil => rw [walk_nil_eq_ok_iff.1 h]
  | cons k path ih =>
    obtain ⟨c, hc, hm⟩ := walk_cons_eq_ok_iff.1 h
    exact (ih hm).trans (getElem?_children_eq_some_iff.1 hc).1

end Node

/-! ### One path to each record -/

section Unique

variable {t : TypeTree} {n : Node} {path path' : List Nat}

theorem exists_path (h : t.arena.WellFormed) (hn : n.arena = t.arena) :
    ∃ path, t.root.walk path = .ok n := by
  -- parents come before their children
  induction hi : n.id using Nat.strong_induction_on generalizing n with
  | _ i ih =>
    rcases Nat.eq_zero_or_pos i with rfl | hpos
    · exact ⟨[], Node.walk_nil_eq_ok_iff.2 (Node.ext_id hn.symm hi.symm)⟩
    · have hrecord : t.arena.records[i]? = some n.record := by
        rw [← hi, ← hn]
        exact n.getElem?_id
      obtain ⟨p, q, -, hlt, hq, hmem, -, -⟩ := h.parent i n.record hrecord hpos
      obtain ⟨k, hk⟩ := List.getElem?_of_mem hmem
      -- the walk to the parent goes on to its child number `k`
      obtain ⟨path, hpath⟩ := ih p hlt (n := ⟨t.arena, p, Arena.lt_size_of_getElem? hq⟩) rfl rfl
      refine ⟨path ++ [k], Node.walk_concat_eq_ok_iff.2 ⟨_, hpath, ?_⟩⟩
      rw [Node.getElem?_children_eq_some_iff]
      refine ⟨hn, ?_⟩
      rw [Node.childIds, Node.record_eq hq, hk, hi]

theorem path_unique (h : t.arena.WellFormed) (hpath : t.root.walk path = .ok n)
    (hpath' : t.root.walk path' = .ok n) : path = path' := by
  have positive : ∀ {l m : Node} {k : Nat}, l.children[k]? = some m → 0 < m.id := by
    intro l m k hm
    obtain ⟨-, hid⟩ := Node.getElem?_children_eq_some_iff.1 hm
    exact Nat.zero_lt_of_lt (Arena.child_bounds l.getElem?_id (List.mem_of_getElem? hid)).1
  -- the last steps lead to the same child, so they start from its one parent
  induction path using List.reverseRecOn generalizing path' n with
  | nil =>
    obtain rfl := Node.walk_nil_eq_ok_iff.1 hpath
    rcases List.eq_nil_or_concat' path' with rfl | ⟨front, k, rfl⟩
    · rfl
    · obtain ⟨l, -, hl⟩ := Node.walk_concat_eq_ok_iff.1 hpath'
      exact absurd rfl (Nat.ne_of_lt (positive hl))
  | append_singleton front k ih =>
    obtain ⟨l, hfront, hl⟩ := Node.walk_concat_eq_ok_iff.1 hpath
    rcases List.eq_nil_or_concat' path' with rfl | ⟨front', k', rfl⟩
    · obtain rfl := Node.walk_nil_eq_ok_iff.1 hpath'
      exact absurd rfl (Nat.ne_of_lt (positive hl))
    · obtain ⟨l', hfront', hl'⟩ := Node.walk_concat_eq_ok_iff.1 hpath'
      obtain ⟨-, hk⟩ := Node.getElem?_children_eq_some_iff.1 hl
      obtain ⟨-, hk'⟩ := Node.getElem?_children_eq_some_iff.1 hl'
      have ha : l.arena = t.arena := Node.arena_of_walk hfront
      have ha' : l'.arena = t.arena := Node.arena_of_walk hfront'
      have hrecord : t.arena.records[l.id]? = some l.record := ha ▸ l.getElem?_id
      have hrecord' : t.arena.records[l'.id]? = some l'.record := ha' ▸ l'.getElem?_id
      obtain ⟨q, hq, hparent⟩ := h.child _ _ _ hrecord (List.mem_of_getElem? hk)
      obtain rfl : l' = l := Node.ext_id (ha'.trans ha.symm)
        (h.eq_parent_of_mem hq hparent hrecord' (List.mem_of_getElem? hk'))
      obtain rfl := ih hfront hfront'
      obtain rfl : k = k' := by
        have hlt := (List.getElem?_eq_some_iff.1 hk).1
        exact (List.getElem?_inj hlt (h.nodup_children hrecord)).1 (hk.trans hk'.symm)
      rfl

/-- **One path to each record.** -/
theorem existsUnique_path (h : t.arena.WellFormed) (hn : n.arena = t.arena) :
    ∃! path, t.root.walk path = .ok n := by
  obtain ⟨path, hpath⟩ := exists_path h hn
  exact ⟨path, hpath, fun _ hother => path_unique h hother hpath⟩

end Unique

/-! ### As many names as records -/

namespace Arena

/-- The child list of a record, empty where there is no record. -/
def childrenAt (a : Arena) (i : Nat) : List Nat := (a.records[i]?.map Record.children).getD []

theorem childrenAt_eq {a : Arena} {i : Nat} {r : Record} (h : a.records[i]? = some r) :
    a.childrenAt i = r.children := by
  simp [childrenAt, h]

theorem mem_childrenAt_iff {a : Arena} {i c : Nat} :
    c ∈ a.childrenAt i ↔ ∃ r : Record, a.records[i]? = some r ∧ c ∈ r.children := by
  unfold childrenAt
  cases a.records[i]? with
  | none => simp
  | some r => simp

/-- The number of names in the expression below a position. -/
def sizeAt (a : Arena) (i : Nat) : Nat := (a.exprAt i).size

theorem sizeAt_eq {a : Arena} {i : Nat} (h : i < a.size) :
    a.sizeAt i = 1 + ((a.childrenAt i).map a.sizeAt).sum := by
  have hmap : (Node.children ⟨a, i, h⟩).map Node.toExpr = (a.childrenAt i).map a.exprAt := by
    rw [childrenAt_eq (Node.getElem?_id ⟨a, i, h⟩)]
    exact Node.map_children _ fun c hc => by
      rw [Node.toExpr_eq_exprAt c, (Node.mem_children_iff.1 hc).1]
  rw [sizeAt, ← Node.toExpr_eq_exprAt ⟨a, i, h⟩, Node.toExpr_eq, TypeExpr.size, hmap, List.map_map]
  rfl

/-- All child lists together hold every position but that of the root, once. -/
theorem WellFormed.perm_children {a : Arena} (h : a.WellFormed) :
    ((List.range a.size).flatMap a.childrenAt).Perm (List.range' 1 (a.size - 1)) := by
  -- no position is in two of the lists, since it has one parent
  refine (List.perm_ext_iff_of_nodup ?_ (List.nodup_range')).2 fun c => ?_
  · rw [List.nodup_flatMap]
    refine ⟨fun i hi => ?_, List.Nodup.pairwise_of_forall_ne List.nodup_range fun i _ j _ hne => ?_⟩
    · obtain ⟨r, hr⟩ := exists_getElem?_iff.2 (List.mem_range.1 hi)
      rw [childrenAt_eq hr]
      exact h.nodup_children hr
    · intro c hc hc'
      obtain ⟨r, hr, hmem⟩ := mem_childrenAt_iff.1 hc
      obtain ⟨s, hs, hmem'⟩ := mem_childrenAt_iff.1 hc'
      obtain ⟨q, hq, hparent⟩ := h.child i r c hr hmem
      exact hne (h.eq_parent_of_mem hq hparent hs hmem').symm
  · rw [List.mem_flatMap, List.mem_range'_1]
    constructor
    · rintro ⟨i, -, hc⟩
      obtain ⟨r, hr, hmem⟩ := mem_childrenAt_iff.1 hc
      have := child_bounds hr hmem
      omega
    · rintro ⟨hpos, hlt⟩
      obtain ⟨r, hr⟩ := exists_getElem?_iff.2 (show c < a.size by omega)
      obtain ⟨p, q, -, -, hq, hmem, -, -⟩ := h.parent c r hr hpos
      exact ⟨p, List.mem_range.2 (lt_size_of_getElem? hq), mem_childrenAt_iff.2 ⟨q, hq, hmem⟩⟩

end Arena

/-- **As many names as records.** -/
theorem size_toExpr {t : TypeTree} (h : t.arena.WellFormed) : t.root.toExpr.size = t.size := by
  -- the sizes below all records, summed in two ways
  have hsum : ((List.range t.size).map t.arena.sizeAt).sum =
      t.size + ((List.range' 1 (t.size - 1)).map t.arena.sizeAt).sum := by
    calc ((List.range t.size).map t.arena.sizeAt).sum
        = ((List.range t.size).map fun i =>
            1 + ((t.arena.childrenAt i).map t.arena.sizeAt).sum).sum := by
          congr 1
          exact List.map_congr_left fun i hi => Arena.sizeAt_eq (List.mem_range.1 hi)
      _ = t.size + (((List.range t.size).flatMap t.arena.childrenAt).map t.arena.sizeAt).sum := by
          rw [List.sum_map_add, List.map_flatMap, List.flatMap, List.sum_flatten, List.map_map]
          simp [Function.comp_def]
      _ = t.size + ((List.range' 1 (t.size - 1)).map t.arena.sizeAt).sum :=
          congrArg (t.size + ·) (h.perm_children.map t.arena.sizeAt).sum_eq
  have hrange : List.range t.size = 0 :: List.range' 1 (t.size - 1) := by
    have hpos : t.size = (t.size - 1) + 1 := (Nat.sub_add_cancel t.rooted).symm
    rw [List.range_eq_range', hpos, List.range'_succ]
    simp
  rw [hrange, List.map_cons, List.sum_cons] at hsum
  rw [Node.toExpr_eq_exprAt]
  exact Nat.add_right_cancel hsum

end TypeGrading.Tree
