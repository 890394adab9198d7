import Mathlib.Tactic
import TypeGrading.Tree.Node

/-!
# Links between records

What the edits of an arena do to the record at a position, and how a node reads its children.

* `getElem?_attach`, `getElem?_truncate`: the record at a position after an edit;
* `getElem_children`, `mem_children_iff`, `firstChild_eq_some_iff`: the children of a node;
* `Node.induct`: induction from the children of a node to the node;
* `toExpr_eq_of_hom`: a map between two arenas that keeps names and carries children to children
  keeps the type expression below a node.
-/

namespace TypeGrading.Tree

/-! ### Records after an edit -/

namespace Arena

/-- A record exists exactly at the positions below the size. -/
theorem exists_getElem?_iff {a : Arena} {i : Nat} :
    (∃ r, a.records[i]? = some r) ↔ i < a.size := by
  rw [← Option.isSome_iff_exists, isSome_getElem?]
  rfl

theorem lt_size_of_getElem? {a : Arena} {i : Nat} {r : Record} (h : a.records[i]? = some r) :
    i < a.size :=
  exists_getElem?_iff.1 ⟨r, h⟩

/-- Children lie further on, and inside. -/
theorem child_bounds {a : Arena} {i c : Nat} {r : Record} (h : a.records[i]? = some r)
    (hc : c ∈ r.children) : i < c ∧ c < a.size := by
  obtain ⟨hi, rfl⟩ := Array.getElem?_eq_some_iff.1 h
  exact a.forward i hi c hc

section Attach

variable {a b : Arena} {parent depth : Nat} (inside : parent < a.size) (rooted : 0 < b.size)

theorem getElem?_attach (i : Nat) :
    (a.attach b parent depth inside rooted).records[i]? =
      if i < a.size then a.records[i]?.map fun r => if i = parent then r.addChild a.size else r
      else b.records[i - a.size]?.map (Record.moved a.size parent depth) := by
  simp only [attach, attachedRecords, Array.getElem?_modify]
  by_cases h : i < a.size
  · have h' : i < a.records.size := h
    rw [Array.getElem?_append_left h', if_pos h]
    by_cases hp : parent = i
    · subst hp; simp
    · simp [hp, Ne.symm hp]
  · have hp : parent ≠ i := by omega
    rw [Array.getElem?_append_right (Nat.not_lt.1 h), if_neg h, if_neg hp, Array.getElem?_map]
    rfl

variable {i : Nat} {r : Record}

theorem getElem?_attach_parent (hr : a.records[parent]? = some r) :
    (a.attach b parent depth inside rooted).records[parent]? = some (r.addChild a.size) := by
  rw [getElem?_attach, if_pos inside, hr]
  simp

theorem getElem?_attach_of_ne (hr : a.records[i]? = some r) (hi : i ≠ parent) :
    (a.attach b parent depth inside rooted).records[i]? = some r := by
  rw [getElem?_attach, if_pos (lt_size_of_getElem? hr), hr]
  simp [hi]

theorem getElem?_attach_moved (hr : b.records[i]? = some r) :
    (a.attach b parent depth inside rooted).records[i + a.size]? =
      some (r.moved a.size parent depth) := by
  rw [getElem?_attach, if_neg (by omega), Nat.add_sub_cancel, hr]
  rfl

/-- The root of a copy comes first in it. -/
theorem getElem?_attach_root (hr : b.records[0]? = some r) :
    (a.attach b parent depth inside rooted).records[a.size]? =
      some (r.moved a.size parent depth) := by
  rw [← getElem?_attach_moved inside rooted hr, Nat.zero_add]

/-- A record after an attachment is an old one, the parent with one more child, or a moved one. -/
theorem cases_getElem?_attach {inside : parent < a.size} {rooted : 0 < b.size}
    (h : (a.attach b parent depth inside rooted).records[i]? = some r) :
    (a.records[i]? = some r ∧ i ≠ parent) ∨
    (∃ q, a.records[i]? = some q ∧ i = parent ∧ r = q.addChild a.size) ∨
    (∃ j q, i = j + a.size ∧ b.records[j]? = some q ∧ r = q.moved a.size parent depth) := by
  rw [getElem?_attach] at h
  by_cases hi : i < a.size
  · rw [if_pos hi] at h
    obtain ⟨q, hq, rfl⟩ := Option.map_eq_some_iff.1 h
    by_cases hp : i = parent
    · exact Or.inr (Or.inl ⟨q, hq, hp, if_pos hp⟩)
    · exact Or.inl ⟨by rw [if_neg hp]; exact hq, hp⟩
  · rw [if_neg hi] at h
    obtain ⟨q, hq, rfl⟩ := Option.map_eq_some_iff.1 h
    exact Or.inr (Or.inr ⟨i - a.size, q, by omega, hq, rfl⟩)

end Attach

theorem getElem?_truncate (a : Arena) (n i : Nat) :
    (a.truncate n).records[i]? =
      if i < n then a.records[i]?.map (Record.keepBelow n) else none := by
  simp only [truncate, Array.getElem?_map, Array.take_eq_extract, Array.getElem?_extract,
    Nat.zero_add, Nat.sub_zero]
  split_ifs with h₁ h₂ h₂
  · rfl
  · omega
  · rw [Array.getElem?_eq_none (by omega)]
  · rfl

end Arena

/-! ### Nodes -/

namespace Node

theorem ext_id {n m : Node} (ha : n.arena = m.arena) (hi : n.id = m.id) : n = m := by
  cases n; cases m; cases ha; cases hi; rfl

theorem getElem?_id (n : Node) : n.arena.records[n.id]? = some n.record :=
  Array.getElem?_eq_getElem _

theorem record_eq {n : Node} {r : Record} (h : n.arena.records[n.id]? = some r) : n.record = r :=
  Option.some.inj (n.getElem?_id.symm.trans h)

theorem getElem_children (n : Node) (i : Nat) (h : i < n.children.length)
    (hi : i < n.childIds.length) :
    n.children[i].arena = n.arena ∧ n.children[i].id = n.childIds[i] := by
  simp [children]

theorem mem_children_iff {n c : Node} :
    c ∈ n.children ↔ c.arena = n.arena ∧ c.id ∈ n.childIds := by
  constructor
  · intro h
    obtain ⟨i, hi, rfl⟩ := List.getElem_of_mem h
    obtain ⟨harena, hid⟩ := n.getElem_children i hi (by simpa using hi)
    exact ⟨harena, hid ▸ List.getElem_mem _⟩
  · rintro ⟨harena, hid⟩
    obtain ⟨i, hi, hci⟩ := List.getElem_of_mem hid
    have hlen : i < n.children.length := by simpa using hi
    have hc : n.children[i] = c :=
      ext_id ((n.getElem_children i hlen hi).1.trans harena.symm)
        ((n.getElem_children i hlen hi).2.trans hci)
    exact hc ▸ List.getElem_mem _

/-- The first child that passes a test is in front of every other one that does. -/
theorem firstChild_eq_some_iff {n c : Node} {test : String → Bool} :
    n.firstChild test = some c ↔ ∃ k : Nat, n.children[k]? = some c ∧ test c.name = true ∧
      ∀ j < k, ∀ d, n.children[j]? = some d → test d.name = false := by
  rw [firstChild, List.find?_eq_some_iff_getElem]
  constructor
  · rintro ⟨htest, k, hk, rfl, hbefore⟩
    refine ⟨k, List.getElem?_eq_getElem hk, htest, fun j hj d hd => ?_⟩
    obtain ⟨hlt, rfl⟩ := List.getElem?_eq_some_iff.1 hd
    simpa using hbefore j hj
  · rintro ⟨k, hk, htest, hbefore⟩
    obtain ⟨hlt, rfl⟩ := List.getElem?_eq_some_iff.1 hk
    refine ⟨htest, k, hlt, rfl, fun j hj => ?_⟩
    simpa using hbefore j hj _ (List.getElem?_eq_getElem (hj.trans hlt))

theorem toExpr_eq (n : Node) : n.toExpr = .app n.name (n.children.map toExpr) := by
  rw [toExpr]
  simp

/-- What passes from the children of a node to the node holds of every node. -/
@[elab_as_elim]
theorem induct {motive : Node → Prop} (node : ∀ n, (∀ c ∈ n.children, motive c) → motive n)
    (n : Node) : motive n := by
  induction hk : n.below using Nat.strong_induction_on generalizing n with
  | _ k ih => exact node n fun c hc => ih _ (hk ▸ below_lt_of_mem hc) c rfl

theorem map_children {β : Type} (n : Node) {g : Node → β} {h : Nat → β}
    (hgh : ∀ c ∈ n.children, g c = h c.id) : n.children.map g = n.childIds.map h := by
  apply List.ext_getElem (by simp)
  intro i hi _
  simp only [List.length_map] at hi
  rw [List.getElem_map, List.getElem_map, hgh _ (List.getElem_mem hi),
    (n.getElem_children i hi (by simpa using hi)).2]

/-- **Expressions follow the links.** If a map between the positions of two arenas keeps names and
carries children to children, on a set of positions closed under children, then corresponding nodes
have the same expression. -/
theorem toExpr_eq_of_hom {a b : Arena} (f : Nat → Nat) (closed : Nat → Prop)
    (hom : ∀ i r, closed i → a.records[i]? = some r →
      (∃ q, b.records[f i]? = some q ∧ q.name = r.name ∧ q.children = r.children.map f) ∧
        ∀ c ∈ r.children, closed c)
    {n m : Node} (hn : n.arena = a) (hm : m.arena = b) (hc : closed n.id) (hid : m.id = f n.id) :
    n.toExpr = m.toExpr := by
  -- the map need not be increasing, so the descent is bounded in the first arena
  induction hk : n.below using Nat.strong_induction_on generalizing n m with
  | _ k ih =>
    obtain ⟨⟨q, hq, hname, hchildren⟩, hclosed⟩ := hom n.id n.record hc (hn ▸ n.getElem?_id)
    obtain rfl : m.record = q := record_eq (by rw [hm, hid, hq])
    have hids : m.childIds = n.childIds.map f := hchildren
    rw [toExpr_eq, toExpr_eq, show n.name = m.name from hname.symm]
    congr 1
    apply List.ext_getElem (by simp [hids])
    intro i hi _
    simp only [List.getElem_map]
    simp only [List.length_map] at hi
    have hin : i < n.childIds.length := by simpa using hi
    have him : i < m.children.length := by simpa [hids] using hin
    obtain ⟨hna, hni⟩ := n.getElem_children i hi hin
    obtain ⟨hma, hmi⟩ := m.getElem_children i him (by simpa using him)
    have hlt := below_lt_of_mem (List.getElem_mem hi)
    refine ih _ (hk ▸ hlt) (hna.trans hn) (hma.trans hm) ?_ ?_ rfl
    · exact hni ▸ hclosed _ (List.getElem_mem hin)
    · simp [hmi, hni, hids]

end Node

end TypeGrading.Tree
