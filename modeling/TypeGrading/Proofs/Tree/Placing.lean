import TypeGrading.Proofs.Tree.Growing

/-!
# Placing trees

A tree goes into an arena the way a name does: as the last child of a parent, or as the root of an
empty arena.

* `Arena.place`, `Arena.HasRoom`: placing a tree, and when there is a place for one of some depth;
* `childDepth_eq_ok` and so on: what is asked of a parent;
* `graft_cases`, `exists_attach_of_graft`: how a graft ends;
* `place_single`: placing one name is adding it;
* `place_eq_error_of_le`, `cause_of_place`: why a tree cannot be placed;
* `hasRoom_of_place`, `size_of_place`, `id_of_place`: what a tree that is placed needs, what it
  brings, and where it starts;
* `place_grow`: placing a grown tree is placing the tree, and the new child under its copy.
-/

namespace TypeGrading.Tree

namespace Arena

/-- Hang a tree under a parent, or make it the root where no parent is given. -/
def place (a : Arena) (parent : Option Nat) (t : TypeTree) : Except EditError (Nat × Arena) :=
  match parent with
  | none => if a.hasRoot then .error .rootAlreadySet else .ok (0, t.arena)
  | some p => a.graft p t

@[simp] theorem place_some (a : Arena) (parent : Nat) (t : TypeTree) :
    a.place (some parent) t = a.graft parent t := rfl

/-- A tree of some depth can be placed: the arena is empty, or the parent is known and lies high
enough. -/
def HasRoom (a : Arena) (parent : Option Nat) (depth : Nat) : Prop :=
  match parent with
  | none => a.size = 0 ∧ depth ≤ maxDepth
  | some p => ∃ r, a.records[p]? = some r ∧ r.depth + 1 + depth ≤ maxDepth

theorem HasRoom.mono {a : Arena} {parent : Option Nat} {d e : Nat} (h : a.HasRoom parent e)
    (hde : d ≤ e) : a.HasRoom parent d := by
  cases parent with
  | none => exact ⟨h.1, hde.trans h.2⟩
  | some p =>
    obtain ⟨r, hr, hd⟩ := h
    exact ⟨r, hr, by omega⟩

/-! ### Parents -/

theorem childDepth_eq_ok {a : Arena} {parent : Nat} {r : Record}
    (hr : a.records[parent]? = some r) (fits : r.depth + 1 ≤ maxDepth) :
    a.childDepth parent = .ok ⟨r.depth + 1, lt_size_of_getElem? hr⟩ := by
  obtain ⟨inside, rfl⟩ := Array.getElem?_eq_some_iff.1 hr
  have inside' : parent < a.size := inside
  rw [childDepth, dif_pos inside']
  exact if_neg (Nat.not_lt.2 fits)

theorem childDepth_eq_unknownNode {a : Arena} {parent : Nat} (outside : a.size ≤ parent) :
    a.childDepth parent = .error (.unknownNode parent) :=
  dif_neg (Nat.not_lt.2 outside)

theorem childDepth_eq_depthExceeded {a : Arena} {parent : Nat} {r : Record}
    (hr : a.records[parent]? = some r) (deep : maxDepth < r.depth + 1) :
    a.childDepth parent = .error (.depthExceeded maxDepth) := by
  obtain ⟨inside, rfl⟩ := Array.getElem?_eq_some_iff.1 hr
  have inside' : parent < a.size := inside
  rw [childDepth, dif_pos inside']
  exact if_pos deep

/-! ### Grafts -/

theorem graft_eq_ok {a : Arena} {parent : Nat} {t : TypeTree} {r : Record}
    (hr : a.records[parent]? = some r) (fits : r.depth + 1 + t.arena.deepest ≤ maxDepth) :
    a.graft parent t =
      .ok (a.size, a.attach t.arena parent (r.depth + 1) (lt_size_of_getElem? hr) t.rooted) := by
  rw [graft, childDepth_eq_ok hr (Nat.le_of_add_right_le fits)]
  exact if_neg (Nat.not_lt.2 fits)

theorem graft_eq_unknownNode {a : Arena} {parent : Nat} (t : TypeTree) (outside : a.size ≤ parent) :
    a.graft parent t = .error (.unknownNode parent) := by
  rw [graft, childDepth_eq_unknownNode outside]
  rfl

theorem graft_eq_depthExceeded {a : Arena} {parent : Nat} {t : TypeTree} {r : Record}
    (hr : a.records[parent]? = some r) (deep : maxDepth < r.depth + 1 + t.arena.deepest) :
    a.graft parent t = .error (.depthExceeded maxDepth) := by
  rcases Nat.lt_or_ge maxDepth (r.depth + 1) with high | fits
  · rw [graft, childDepth_eq_depthExceeded hr high]
    rfl
  · rw [graft, childDepth_eq_ok hr fits]
    exact if_pos deep

/-- The three ways a graft ends: the parent is unknown, the copy would lie too deep, or it is
attached. -/
theorem graft_cases (a : Arena) (parent : Nat) (t : TypeTree) :
    (a.size ≤ parent ∧ a.graft parent t = .error (.unknownNode parent)) ∨
    (∃ r, a.records[parent]? = some r ∧ maxDepth < r.depth + 1 + t.arena.deepest ∧
      a.graft parent t = .error (.depthExceeded maxDepth)) ∨
    (∃ r, ∃ hr : a.records[parent]? = some r, r.depth + 1 + t.arena.deepest ≤ maxDepth ∧
      a.graft parent t =
        .ok (a.size, a.attach t.arena parent (r.depth + 1) (lt_size_of_getElem? hr) t.rooted)) := by
  rcases Nat.lt_or_ge parent a.size with inside | outside
  · obtain ⟨r, hr⟩ := exists_getElem?_iff.2 inside
    rcases Nat.lt_or_ge maxDepth (r.depth + 1 + t.arena.deepest) with deep | fits
    · exact Or.inr (Or.inl ⟨r, hr, deep, graft_eq_depthExceeded hr deep⟩)
    · exact Or.inr (Or.inr ⟨r, hr, fits, graft_eq_ok hr fits⟩)
  · exact Or.inl ⟨outside, graft_eq_unknownNode t outside⟩

/-- What a successful graft has checked, and what it gives. -/
theorem exists_attach_of_graft {a b : Arena} {parent id : Nat} {t : TypeTree}
    (h : a.graft parent t = .ok (id, b)) :
    ∃ (up : Record) (hup : a.records[parent]? = some up),
      up.depth + 1 + t.arena.deepest ≤ maxDepth ∧ id = a.size ∧
      b = a.attach t.arena parent (up.depth + 1) (lt_size_of_getElem? hup) t.rooted := by
  rcases a.graft_cases parent t with ⟨-, hg⟩ | ⟨r, -, -, hg⟩ | ⟨r, hr, fits, hg⟩
  · cases hg.symm.trans h
  · cases hg.symm.trans h
  · obtain ⟨rfl, rfl⟩ := Prod.mk.inj (Except.ok.inj (hg.symm.trans h))
    exact ⟨r, hr, fits, rfl, rfl⟩

/-- Adding a name is grafting the tree of this name. -/
theorem add_eq_graft (a : Arena) (parent : Nat) {name : String} (h : IsName name) :
    a.add parent name = a.graft parent (TypeTree.single name) := by
  rcases Nat.lt_or_ge parent a.size with inside | outside
  · obtain ⟨r, hr⟩ := exists_getElem?_iff.2 inside
    rcases Nat.lt_or_ge maxDepth (r.depth + 1) with deep | fits
    · rw [add, graft, childDepth_eq_depthExceeded hr deep]
      rfl
    · have hsingle : r.depth + 1 + (TypeTree.single name).arena.deepest ≤ maxDepth := fits
      rw [add, childDepth_eq_ok hr fits, graft_eq_ok hr hsingle]
      exact if_pos h
  · rw [add, graft, childDepth_eq_unknownNode outside]
    rfl

theorem place_single {a : Arena} {parent : Option Nat} {name : String} (h : IsName name) :
    a.place parent (TypeTree.single name) = a.addUnder parent name := by
  cases parent with
  | none => simp [place, addUnder, addRoot, h, TypeTree.single]
  | some p => exact (a.add_eq_graft p h).symm

theorem place_ok {a : Arena} {parent : Option Nat} {t : TypeTree}
    (room : a.HasRoom parent t.arena.deepest) : ∃ b, a.place parent t = .ok (a.size, b) := by
  cases parent with
  | none => exact ⟨t.arena, by simp [place, hasRoot, room.1]⟩
  | some p =>
    obtain ⟨r, hr, fits⟩ := room
    exact ⟨_, graft_eq_ok hr fits⟩

/-! ### Trees that cannot be placed -/

/-- A tree that is no higher than another one is not refused where the other one is placed. -/
theorem place_eq_error_of_le {a : Arena} {parent : Option Nat} {t u : TypeTree} {e : EditError}
    (h : a.place parent t = .error e) (hdeep : t.arena.deepest ≤ u.arena.deepest) :
    a.place parent u = .error e := by
  cases parent with
  | none =>
    by_cases hroot : a.hasRoot
    · simp only [place, hroot, if_true] at h ⊢
      exact h
    · simp [place, hroot] at h
  | some p =>
    rw [place_some] at h ⊢
    rcases a.graft_cases p t with ⟨outside, ht⟩ | ⟨r, hr, deep, ht⟩ | ⟨r, hr, -, ht⟩
    · exact (graft_eq_unknownNode u outside).trans (ht.symm.trans h)
    · exact (graft_eq_depthExceeded hr (by omega)).trans (ht.symm.trans h)
    · cases ht.symm.trans h

/-- Where one tree is placed and another one is not, the parent is known and lies too deep for the
other one. -/
theorem cause_of_place {a b : Arena} {parent : Option Nat} {t u : TypeTree} {id : Nat} {e : EditError}
    (ht : a.place parent t = .ok (id, b)) (hu : a.place parent u = .error e) :
    e = .depthExceeded maxDepth ∧ ∃ p r, parent = some p ∧ a.records[p]? = some r ∧
      r.depth + 1 + t.arena.deepest ≤ maxDepth ∧ maxDepth < r.depth + 1 + u.arena.deepest := by
  cases parent with
  | none =>
    by_cases hroot : a.hasRoot
    · simp [place, hroot] at ht
    · simp [place, hroot] at hu
  | some p =>
    rw [place_some] at ht hu
    obtain ⟨r, hr, fits, -, -⟩ := exists_attach_of_graft ht
    rcases a.graft_cases p u with ⟨outside, -⟩ | ⟨r', hr', deep, hu'⟩ | ⟨r', hr', -, hu'⟩
    · exact absurd (lt_size_of_getElem? hr) (Nat.not_lt.2 outside)
    · obtain rfl := Option.some.inj (hr.symm.trans hr')
      exact ⟨Except.error.inj (hu.symm.trans hu'), p, r, rfl, hr, fits, deep⟩
    · cases hu.symm.trans hu'

/-- There is room for a tree that is placed. -/
theorem hasRoom_of_place {a b : Arena} {parent : Option Nat} {t : TypeTree} {id : Nat}
    (h : a.place parent t = .ok (id, b)) (hdeep : t.arena.deepest ≤ maxDepth) :
    a.HasRoom parent t.arena.deepest := by
  cases parent with
  | none =>
    refine ⟨?_, hdeep⟩
    by_cases hroot : a.hasRoot
    · simp [place, hroot] at h
    · simpa [hasRoot] using hroot
  | some p =>
    obtain ⟨r, hr, fits, -, -⟩ := exists_attach_of_graft h
    exact ⟨r, hr, fits⟩

/-- A tree that becomes the root is all there is. -/
theorem place_none_eq_ok {a b : Arena} {t : TypeTree} {id : Nat} (h : a.place none t = .ok (id, b)) :
    a.size = 0 ∧ id = 0 ∧ b = t.arena := by
  by_cases hroot : a.hasRoot
  · simp [place, hroot] at h
  · have hempty : a.size = 0 := by simpa [hasRoot] using hroot
    obtain ⟨rfl, rfl⟩ : 0 = id ∧ t.arena = b := by simpa [place, hroot] using h
    exact ⟨hempty, rfl, rfl⟩

/-- A tree that is placed brings its own records. -/
theorem size_of_place {a b : Arena} {parent : Option Nat} {t : TypeTree} {id : Nat}
    (h : a.place parent t = .ok (id, b)) : b.size = a.size + t.arena.size := by
  cases parent with
  | none =>
    obtain ⟨hempty, -, rfl⟩ := place_none_eq_ok h
    rw [hempty, Nat.zero_add]
  | some p =>
    obtain ⟨r, hr, -, -, rfl⟩ := exists_attach_of_graft h
    exact size_attach ..

/-- A tree is placed behind what was there. -/
theorem id_of_place {a b : Arena} {parent : Option Nat} {t : TypeTree} {id : Nat}
    (h : a.place parent t = .ok (id, b)) : id = a.size := by
  cases parent with
  | none =>
    obtain ⟨hempty, rfl, -⟩ := place_none_eq_ok h
    exact hempty.symm
  | some p =>
    obtain ⟨r, hr, -, hid, -⟩ := exists_attach_of_graft h
    exact hid

theorem id_lt_size_of_place {a b : Arena} {parent : Option Nat} {t : TypeTree} {id : Nat}
    (h : a.place parent t = .ok (id, b)) : id < b.size := by
  rw [id_of_place h, size_of_place h]
  exact Nat.lt_add_of_pos_right t.rooted

/-- The root of a copy lies one below its parent. -/
theorem depth_of_graft {a b : Arena} {p id : Nat} {t : TypeTree} {up : Record}
    (hup : a.records[p]? = some up) (hroot : t.root.record.depth = 0)
    (h : a.graft p t = .ok (id, b)) :
    ∃ r, b.records[a.size]? = some r ∧ r.depth = up.depth + 1 := by
  obtain ⟨up', hup', -, -, rfl⟩ := exists_attach_of_graft h
  obtain rfl := Option.some.inj (hup.symm.trans hup')
  exact ⟨_, getElem?_attach_root _ _ t.root.getElem?_id, by simp [Record.moved, hroot]⟩

/-! ### Placing a grown tree -/

/-- **Placing a grown tree.** Where there is room for the whole, the tree is placed first, and the
new child then goes under the copy of its root. -/
theorem place_grow {a : Arena} {parent : Option Nat} {t u : TypeTree}
    (root : t.root.record.depth = 0) (room : a.HasRoom parent (t.grow u).arena.deepest) :
    ∃ b c, a.place parent t = .ok (a.size, b) ∧ b.HasRoom (some a.size) u.arena.deepest ∧
      b.place (some a.size) u = .ok (b.size, c) ∧ a.place parent (t.grow u) = .ok (a.size, c) := by
  have deep : (t.grow u).arena.deepest = max t.arena.deepest (u.arena.deepest + 1) :=
    deepest_attach t.arena u.arena 0 1 t.rooted u.rooted
  cases parent with
  | none =>
    obtain ⟨hempty, hfits⟩ := room
    have fits : t.root.record.depth + 1 + u.arena.deepest ≤ maxDepth := by omega
    have hroot : t.arena.records[a.size]? = some t.root.record := hempty ▸ t.root.getElem?_id
    have hgraft := graft_eq_ok hroot fits
    refine ⟨t.arena, (t.grow u).arena, ?_, ⟨_, hroot, fits⟩, ?_, ?_⟩
    · simp [place, hasRoot, hempty]
    · simp only [hempty, root] at hgraft ⊢
      exact hgraft
    · simp [place, hasRoot, hempty]
  | some p =>
    obtain ⟨r, hr, hfits⟩ := room
    have inside := lt_size_of_getElem? hr
    have fits : r.depth + 1 + t.arena.deepest ≤ maxDepth := by omega
    have hcopy : (a.attach t.arena p (r.depth + 1) inside t.rooted).records[a.size]? =
        some (t.root.record.moved a.size p (r.depth + 1)) :=
      getElem?_attach_root inside t.rooted t.root.getElem?_id
    have fits' : (t.root.record.moved a.size p (r.depth + 1)).depth + 1 + u.arena.deepest ≤
        maxDepth := by
      simp only [Record.moved, root]
      omega
    refine ⟨_, _, graft_eq_ok hr fits, ⟨_, hcopy, fits'⟩, graft_eq_ok hcopy fits', ?_⟩
    refine (graft_eq_ok hr hfits).trans ?_
    rw [attach_grow a t u p (r.depth + 1) inside _ (lt_size_of_getElem? hcopy)]
    simp [Record.moved, root]

end Arena

end TypeGrading.Tree
