import TypeGrading.Proofs.Tree.WellFormed

/-!
# Forgetting what was added

Edits add records behind the old ones and links to them behind the old links, so forgetting the new
records gives the old arena back.

* `truncate_size`, `truncate_truncate`, `truncate_attach`: what is left after forgetting;
* `Extends`: an arena goes on from another one, which is left when the later records are forgotten;
* `extends_graft`, `extends_addUnder`: the edits go on from the arena they are made in.
-/

namespace TypeGrading.Tree

/-! ### What is left -/

theorem Record.keepBelow_addChild (r : Record) {child n : Nat} (h : n ≤ child) :
    (r.addChild child).keepBelow n = r.keepBelow n := by
  simp [keepBelow, addChild, List.filter_append, h]

theorem Record.keepBelow_keepBelow (r : Record) {m n : Nat} (h : m ≤ n) :
    (r.keepBelow n).keepBelow m = r.keepBelow m := by
  simp only [keepBelow, List.filter_filter, Record.mk.injEq, true_and, and_true]
  refine List.filter_congr fun c _ => ?_
  by_cases hc : c < m
  · simp [hc, Nat.lt_of_lt_of_le hc h]
  · simp [hc]

namespace Arena

/-- No record links further than the arena reaches. -/
theorem truncate_size (a : Arena) : a.truncate a.size = a := by
  apply Arena.ext
  apply Array.ext_getElem?
  intro i
  rw [getElem?_truncate]
  split_ifs with hi
  · obtain ⟨r, hr⟩ := exists_getElem?_iff.2 hi
    have hkeep : r.children.filter (· < a.size) = r.children :=
      List.filter_eq_self.2 fun c hc => decide_eq_true (child_bounds hr hc).2
    rw [hr, Option.map_some, Record.keepBelow, hkeep]
  · exact (Array.getElem?_eq_none (Nat.not_lt.1 hi)).symm

theorem truncate_truncate (a : Arena) {m n : Nat} (h : m ≤ n) :
    (a.truncate n).truncate m = a.truncate m := by
  apply Arena.ext
  apply Array.ext_getElem?
  intro i
  rw [getElem?_truncate, getElem?_truncate, getElem?_truncate]
  split_ifs with hm hn
  · rw [Option.map_map]
    congr 1
    funext r
    exact Record.keepBelow_keepBelow r h
  · omega
  · rfl

/-- What is attached is forgotten as a whole, with the link to it. -/
theorem truncate_attach {a b : Arena} {parent depth n : Nat} (inside : parent < a.size)
    (rooted : 0 < b.size) (h : n ≤ a.size) :
    (a.attach b parent depth inside rooted).truncate n = a.truncate n := by
  apply Arena.ext
  apply Array.ext_getElem?
  intro i
  rw [getElem?_truncate, getElem?_truncate]
  split_ifs with hi
  · rw [getElem?_attach, if_pos (Nat.lt_of_lt_of_le hi h), Option.map_map]
    congr 1
    funext r
    by_cases hp : i = parent
    · simp [hp, Record.keepBelow_addChild r h]
    · simp [hp]
  · rfl

/-! ### Going on from an arena -/

/-- The arena `b` goes on from `a`: when the records behind those of `a` are forgotten, `a` is
left. -/
def Extends (a b : Arena) : Prop := a.size ≤ b.size ∧ b.truncate a.size = a

theorem Extends.refl (a : Arena) : Extends a a := ⟨le_rfl, truncate_size a⟩

theorem Extends.trans {a b c : Arena} (hab : Extends a b) (hbc : Extends b c) : Extends a c := by
  refine ⟨hab.1.trans hbc.1, ?_⟩
  calc c.truncate a.size
      = (c.truncate b.size).truncate a.size := (truncate_truncate c hab.1).symm
    _ = b.truncate a.size := by rw [hbc.2]
    _ = a := hab.2

theorem eq_empty_of_size {a : Arena} (h : a.size = 0) : a = empty :=
  Arena.ext (Array.eq_empty_of_size_eq_zero h)

theorem extends_empty (b : Arena) : Extends empty b :=
  ⟨Nat.zero_le _, eq_empty_of_size ((size_truncate b 0).trans (Nat.zero_min _))⟩

theorem extends_attach (a b : Arena) {parent depth : Nat} (inside : parent < a.size)
    (rooted : 0 < b.size) : Extends a (a.attach b parent depth inside rooted) := by
  constructor
  · rw [size_attach]
    exact Nat.le_add_right _ _
  · rw [truncate_attach inside rooted le_rfl, truncate_size]

theorem extends_graft {a b : Arena} {parent id : Nat} {t : TypeTree}
    (h : a.graft parent t = .ok (id, b)) : Extends a b := by
  obtain ⟨up, hup, -, -, rfl⟩ := exists_attach_of_graft h
  exact extends_attach a t.arena (lt_size_of_getElem? hup) t.rooted

theorem extends_addUnder {a b : Arena} {parent : Option Nat} {name : String} {id : Nat}
    (h : a.addUnder parent name = .ok (id, b)) : Extends a b := by
  cases parent with
  | none =>
    obtain ⟨hsize, -, -, -⟩ := addRoot_eq_ok h
    rw [eq_empty_of_size hsize]
    exact extends_empty b
  | some p =>
    obtain ⟨-, hgraft⟩ := add_eq_ok h
    exact extends_graft hgraft

end Arena

end TypeGrading.Tree
