import TypeGrading.Proofs.Tree.Placing

/-!
# Well-formed arenas

What the links, depths and names of an arena satisfy after any edits.

* `Arena.WellFormed`: the invariant, one clause for each kind of link;
* `count_children`, `eq_parent_of_mem`: a record occurs once in the child list of its parent and in
  no other one;
* `WellFormed.attach`, `WellFormed.truncate`: attaching a well-formed copy and forgetting the last
  records keep the invariant;
* `WellFormed.graft`, `WellFormed.addUnder`: so do the edits.
-/

namespace TypeGrading.Tree

namespace Arena

/-- The records form a tree with the first one as its root: parents and children agree, children
are listed in the order of their positions, depths count the parents up to `maxDepth`, and every
name is one. -/
structure WellFormed (a : Arena) : Prop where
  root : ∀ r : Record, a.records[0]? = some r → r.parent = none ∧ r.depth = 0
  parent : ∀ (i : Nat) (r : Record), a.records[i]? = some r → 0 < i →
    ∃ (p : Nat) (q : Record), r.parent = some p ∧ p < i ∧ a.records[p]? = some q ∧
      i ∈ q.children ∧ r.depth = q.depth + 1 ∧ r.depth ≤ maxDepth
  child : ∀ (i : Nat) (r : Record) (c : Nat), a.records[i]? = some r → c ∈ r.children →
    ∃ q : Record, a.records[c]? = some q ∧ q.parent = some i
  increasing : ∀ (i : Nat) (r : Record), a.records[i]? = some r → r.children.Pairwise (· < ·)
  name : ∀ (i : Nat) (r : Record), a.records[i]? = some r → IsName r.name

/-! ### One parent, one place -/

section Links

variable {a : Arena} {i j p : Nat} {r s : Record}

/-- A record occurs in no child list but that of its parent. -/
theorem WellFormed.eq_parent_of_mem (h : a.WellFormed) (hi : a.records[i]? = some r)
    (hp : r.parent = some p) (hj : a.records[j]? = some s) (hmem : i ∈ s.children) : j = p := by
  obtain ⟨q, hq, hparent⟩ := h.child j s i hj hmem
  obtain rfl : r = q := Option.some.inj (hi.symm.trans hq)
  exact Option.some.inj (hparent.symm.trans hp)

/-- A record occurs at most once in a child list. -/
theorem WellFormed.nodup_children (h : a.WellFormed) (hi : a.records[i]? = some r) :
    r.children.Nodup :=
  (h.increasing i r hi).imp Nat.ne_of_lt

theorem WellFormed.count_children (h : a.WellFormed) (hi : a.records[i]? = some r)
    (hmem : j ∈ r.children) : r.children.count j = 1 :=
  List.count_eq_one_of_mem (h.nodup_children hi) hmem

theorem WellFormed.depth_le (h : a.WellFormed) (hi : a.records[i]? = some r) :
    r.depth ≤ maxDepth := by
  rcases Nat.eq_zero_or_pos i with rfl | hpos
  · rw [(h.root r hi).2]
    exact Nat.zero_le _
  · obtain ⟨p, q, -, -, -, -, -, hle⟩ := h.parent i r hi hpos
    exact hle

end Links

theorem wellFormed_empty : empty.WellFormed where
  root := by simp [empty]
  parent := by simp [empty]
  child := by simp [empty]
  increasing := by simp [empty]
  name := by simp [empty]

theorem getElem?_leaf {name : String} {i : Nat} {r : Record}
    (h : (leaf name).records[i]? = some r) : i = 0 ∧ r = ⟨name, none, [], 0⟩ := by
  cases i with
  | zero => exact ⟨rfl, (Option.some.inj h).symm⟩
  | succ i => simp [leaf] at h

theorem wellFormed_leaf {name : String} (hname : IsName name) : (leaf name).WellFormed where
  root := by
    intro r hr
    obtain ⟨-, rfl⟩ := getElem?_leaf hr
    exact ⟨rfl, rfl⟩
  parent := by
    intro i r hr hi
    obtain ⟨rfl, -⟩ := getElem?_leaf hr
    omega
  child := by
    intro i r c hr hc
    obtain ⟨-, rfl⟩ := getElem?_leaf hr
    cases hc
  increasing := by
    intro i r hr
    obtain ⟨-, rfl⟩ := getElem?_leaf hr
    exact List.Pairwise.nil
  name := by
    intro i r hr
    obtain ⟨-, rfl⟩ := getElem?_leaf hr
    exact hname

/-! ### Attaching a copy -/

section Attach

variable {a b : Arena} {parent : Nat} {up : Record}

/-- An old record keeps all but its child list, which can only grow. -/
theorem exists_getElem?_attach {depth i : Nat} {r : Record} (inside : parent < a.size)
    (rooted : 0 < b.size) (hr : a.records[i]? = some r) :
    ∃ s : Record, (a.attach b parent depth inside rooted).records[i]? = some s ∧
      s.parent = r.parent ∧ s.depth = r.depth ∧ s.name = r.name ∧
        ∀ c ∈ r.children, c ∈ s.children := by
  by_cases hi : i = parent
  · subst hi
    exact ⟨_, getElem?_attach_parent inside rooted hr, rfl, rfl, rfl,
      fun c hc => List.mem_append_left _ hc⟩
  · exact ⟨r, getElem?_attach_of_ne inside rooted hr hi, rfl, rfl, rfl, fun c hc => hc⟩

variable (ha : a.WellFormed) (hb : b.WellFormed) (hup : a.records[parent]? = some up)
  (rooted : 0 < b.size) (fits : up.depth + 1 + b.deepest ≤ maxDepth)

include ha hup in
theorem parent_attach_old {i : Nat} {r : Record} (hr : a.records[i]? = some r) (hi : 0 < i) :
    ∃ (p : Nat) (q : Record), r.parent = some p ∧ p < i ∧
      (a.attach b parent (up.depth + 1) (lt_size_of_getElem? hup) rooted).records[p]? = some q ∧
      i ∈ q.children ∧ r.depth = q.depth + 1 ∧ r.depth ≤ maxDepth := by
  obtain ⟨p, q, hp, hlt, hq, hmem, hdepth, hle⟩ := ha.parent i r hr hi
  obtain ⟨s, hs, -, hsdepth, -, hsub⟩ :=
    exists_getElem?_attach (lt_size_of_getElem? hup) rooted hq
  exact ⟨p, s, hp, hlt, hs, hsub i hmem, by rw [hdepth, hsdepth], hle⟩

include hb hup fits in
/-- The root of the copy hangs under `parent`; below it the copy is linked as the original. -/
theorem parent_attach_moved {j : Nat} {r : Record} (hr : b.records[j]? = some r) :
    ∃ (p : Nat) (q : Record),
      (r.moved a.size parent (up.depth + 1)).parent = some p ∧ p < j + a.size ∧
      (a.attach b parent (up.depth + 1) (lt_size_of_getElem? hup) rooted).records[p]? = some q ∧
      j + a.size ∈ q.children ∧ r.depth + (up.depth + 1) = q.depth + 1 ∧
      r.depth + (up.depth + 1) ≤ maxDepth := by
  have inside := lt_size_of_getElem? hup
  have hdeep : r.depth ≤ b.deepest := deepest_le_iff.1 le_rfl j r hr
  rcases Nat.eq_zero_or_pos j with rfl | hpos
  · obtain ⟨hnone, hzero⟩ := hb.root r hr
    refine ⟨parent, _, by simp [Record.moved, hnone], by omega,
      getElem?_attach_parent inside rooted hup, ?_, ?_, by omega⟩
    · simp [Record.addChild]
    · simp [Record.addChild, hzero]
  · obtain ⟨p, q, hp, hlt, hq, hmem, hdepth, -⟩ := hb.parent j r hr hpos
    refine ⟨p + a.size, _, by simp [Record.moved, hp], by omega,
      getElem?_attach_moved inside rooted hq, ?_, ?_, by omega⟩
    · exact List.mem_map_of_mem hmem
    · simp only [Record.moved]
      omega

include ha hb hup in
theorem child_attach {i c : Nat} {r : Record}
    (hr : (a.attach b parent (up.depth + 1) (lt_size_of_getElem? hup) rooted).records[i]? = some r)
    (hc : c ∈ r.children) :
    ∃ q : Record, q.parent = some i ∧
      (a.attach b parent (up.depth + 1) (lt_size_of_getElem? hup) rooted).records[c]? = some q := by
  have inside := lt_size_of_getElem? hup
  -- the children that a record had before still name it as their parent
  have old : ∀ (j : Nat) (s : Record), a.records[j]? = some s → c ∈ s.children →
      ∃ q : Record, q.parent = some j ∧
        (a.attach b parent (up.depth + 1) inside rooted).records[c]? = some q := by
    intro j s hs hmem
    obtain ⟨q, hq, hparent⟩ := ha.child j s c hs hmem
    obtain ⟨q', hq', hparent', -⟩ := exists_getElem?_attach inside rooted hq
    exact ⟨q', hparent'.trans hparent, hq'⟩
  rcases cases_getElem?_attach hr with ⟨hold, -⟩ | ⟨q, hq, rfl, rfl⟩ | ⟨j, q, rfl, hq, rfl⟩
  · exact old i r hold hc
  · rcases List.mem_append.1 hc with hc | hc
    · exact old i q hq hc
    · obtain rfl := List.mem_singleton.1 hc
      obtain ⟨root, hroot⟩ := exists_getElem?_iff.2 rooted
      exact ⟨_, by simp [Record.moved, (hb.root root hroot).1],
        getElem?_attach_root inside rooted hroot⟩
  · obtain ⟨d, hd, rfl⟩ := List.mem_map.1 hc
    obtain ⟨s, hs, hparent⟩ := hb.child j q d hq hd
    exact ⟨_, by simp [Record.moved, hparent], getElem?_attach_moved inside rooted hs⟩

include ha hb hup fits in
/-- **Attaching keeps the invariant.** A well-formed copy goes under a record that lies high
enough. -/
theorem WellFormed.attach :
    (a.attach b parent (up.depth + 1) (lt_size_of_getElem? hup) rooted).WellFormed where
  root := by
    intro r hr
    have hpos : 0 < a.size := Nat.zero_lt_of_lt (lt_size_of_getElem? hup)
    rcases cases_getElem?_attach hr with ⟨hold, -⟩ | ⟨q, hq, -, rfl⟩ | ⟨j, q, hj, -, rfl⟩
    · exact ha.root r hold
    · exact ha.root q hq
    · omega
  parent := by
    intro i r hr hi
    rcases cases_getElem?_attach hr with ⟨hold, -⟩ | ⟨q, hq, -, rfl⟩ | ⟨j, q, rfl, hq, rfl⟩
    · exact parent_attach_old ha hup rooted hold hi
    · exact parent_attach_old (r := q) ha hup rooted hq hi
    · exact parent_attach_moved hb hup rooted fits hq
  child := by
    intro i r c hr hc
    obtain ⟨q, hparent, hq⟩ := child_attach ha hb hup rooted hr hc
    exact ⟨q, hq, hparent⟩
  increasing := by
    intro i r hr
    rcases cases_getElem?_attach hr with ⟨hold, -⟩ | ⟨q, hq, -, rfl⟩ | ⟨j, q, -, hq, rfl⟩
    · exact ha.increasing i r hold
    · refine List.pairwise_append.2 ⟨ha.increasing i q hq, List.pairwise_singleton _ _, ?_⟩
      intro c hc d hd
      rw [List.mem_singleton.1 hd]
      exact (child_bounds hq hc).2
    · exact List.pairwise_map.2 ((hb.increasing j q hq).imp fun h => Nat.add_lt_add_right h _)
  name := by
    intro i r hr
    rcases cases_getElem?_attach hr with ⟨hold, -⟩ | ⟨q, hq, -, rfl⟩ | ⟨j, q, -, hq, rfl⟩
    · exact ha.name i r hold
    · exact ha.name i q hq
    · exact hb.name j q hq

end Attach

/-! ### Forgetting the last records -/

theorem exists_getElem?_truncate {a : Arena} {n i : Nat} {r : Record}
    (h : (a.truncate n).records[i]? = some r) :
    i < n ∧ ∃ q, a.records[i]? = some q ∧ r = q.keepBelow n := by
  rw [getElem?_truncate] at h
  split_ifs at h with hi
  obtain ⟨q, hq, rfl⟩ := Option.map_eq_some_iff.1 h
  exact ⟨hi, q, hq, rfl⟩

/-- **Forgetting keeps the invariant.** -/
theorem WellFormed.truncate {a : Arena} (h : a.WellFormed) (n : Nat) :
    (a.truncate n).WellFormed where
  root := by
    intro r hr
    obtain ⟨-, q, hq, rfl⟩ := exists_getElem?_truncate hr
    exact h.root q hq
  parent := by
    intro i r hr hi
    obtain ⟨hin, q, hq, rfl⟩ := exists_getElem?_truncate hr
    obtain ⟨p, s, hp, hlt, hs, hmem, hdepth, hle⟩ := h.parent i q hq hi
    refine ⟨p, s.keepBelow n, hp, hlt, ?_, ?_, hdepth, hle⟩
    · rw [getElem?_truncate, if_pos (hlt.trans hin), hs, Option.map_some]
    · exact List.mem_filter.2 ⟨hmem, by simpa using hin⟩
  child := by
    intro i r c hr hc
    obtain ⟨-, q, hq, rfl⟩ := exists_getElem?_truncate hr
    obtain ⟨hmem, hcn⟩ := List.mem_filter.1 hc
    obtain ⟨s, hs, hparent⟩ := h.child i q c hq hmem
    refine ⟨s.keepBelow n, ?_, hparent⟩
    rw [getElem?_truncate, if_pos (by simpa using hcn), hs, Option.map_some]
  increasing := by
    intro i r hr
    obtain ⟨-, q, hq, rfl⟩ := exists_getElem?_truncate hr
    exact (h.increasing i q hq).filter _
  name := by
    intro i r hr
    obtain ⟨-, q, hq, rfl⟩ := exists_getElem?_truncate hr
    exact h.name i q hq

/-! ### Edits -/

theorem WellFormed.graft {a b : Arena} {parent id : Nat} {t : TypeTree}
    (ha : a.WellFormed) (ht : t.arena.WellFormed) (h : a.graft parent t = .ok (id, b)) :
    b.WellFormed := by
  obtain ⟨up, hup, fits, -, rfl⟩ := exists_attach_of_graft h
  exact WellFormed.attach ha ht hup t.rooted fits

theorem addRoot_eq_ok {a b : Arena} {name : String} {id : Nat}
    (h : a.addRoot name = .ok (id, b)) :
    a.size = 0 ∧ IsName name ∧ id = 0 ∧ b = leaf name := by
  unfold addRoot at h
  split_ifs at h with hroot hname
  obtain ⟨rfl, rfl⟩ := Prod.mk.inj (Except.ok.inj h)
  exact ⟨by simpa [hasRoot] using hroot, hname, rfl, rfl⟩

theorem add_eq_ok {a b : Arena} {parent id : Nat} {name : String}
    (h : a.add parent name = .ok (id, b)) :
    IsName name ∧ a.graft parent (TypeTree.single name) = .ok (id, b) := by
  by_cases hname : IsName name
  · exact ⟨hname, (a.add_eq_graft parent hname).symm.trans h⟩
  · rw [add] at h
    rcases hdepth : a.childDepth parent with e | ⟨depth, inside⟩
    · rw [hdepth] at h
      cases h
    · rw [hdepth] at h
      cases (if_neg hname).symm.trans h

theorem WellFormed.addUnder {a b : Arena} {parent : Option Nat} {name : String} {id : Nat}
    (ha : a.WellFormed) (h : a.addUnder parent name = .ok (id, b)) : b.WellFormed := by
  cases parent with
  | none =>
    obtain ⟨-, hname, -, rfl⟩ := addRoot_eq_ok h
    exact wellFormed_leaf hname
  | some p =>
    obtain ⟨hname, hgraft⟩ := add_eq_ok h
    exact ha.graft (wellFormed_leaf hname) hgraft

end Arena

end TypeGrading.Tree
