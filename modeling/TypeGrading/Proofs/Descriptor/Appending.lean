import TypeGrading.Proofs.Descriptor.Atomicity

/-!
# Edits only append

An edit puts new records behind the old ones and a new child behind the old children, so that a
position, or a number in a child list, stands for the same node ever after.

* `Record.Persists`, `Arena.Grows`: the records of an arena are in another one, with more children
  behind the old ones;
* `Arena.getElem?_place`, `Arena.exists_path_appended`: the old records and the new ones where a tree
  has been placed;
* `Edit.after`, `grows_after`: an arena grows by each edit, and by a run of them;
* `Arena.Grows.childAt`: a node of an arena that grows keeps its children;
* `edits_only_append`: what one edit under a node does, and what any run of edits leaves.
-/

namespace TypeGrading.Tree

/-! ### Growing arenas -/

/-- A later state of a record: more children may have been added behind the ones it had. -/
structure Record.Persists (r s : Record) : Prop where
  name_eq : s.name = r.name
  parent_eq : s.parent = r.parent
  depth_eq : s.depth = r.depth
  children_prefix : r.children <+: s.children

theorem Record.Persists.refl (r : Record) : r.Persists r := ⟨rfl, rfl, rfl, List.prefix_refl _⟩

theorem Record.Persists.trans {r s u : Record} (hrs : r.Persists s) (hsu : s.Persists u) :
    r.Persists u where
  name_eq := hsu.name_eq.trans hrs.name_eq
  parent_eq := hsu.parent_eq.trans hrs.parent_eq
  depth_eq := hsu.depth_eq.trans hrs.depth_eq
  children_prefix := hrs.children_prefix.trans hsu.children_prefix

theorem Record.persists_addChild (r : Record) (child : Nat) : r.Persists (r.addChild child) :=
  ⟨rfl, rfl, rfl, List.prefix_append _ _⟩

namespace Arena

/-- Every record of `a` persists in `b`, at its position. Other than `Extends`, which tells what
forgetting leaves, this puts the new children of a record behind the old ones. -/
def Grows (a b : Arena) : Prop :=
  ∀ (i : Nat) (r : Record), a.records[i]? = some r → ∃ s, b.records[i]? = some s ∧ r.Persists s

theorem Grows.refl (a : Arena) : Grows a a := fun _ r hr => ⟨r, hr, Record.Persists.refl r⟩

theorem Grows.trans {a b c : Arena} (hab : Grows a b) (hbc : Grows b c) : Grows a c := by
  intro i r hr
  obtain ⟨s, hs, hrs⟩ := hab i r hr
  obtain ⟨u, hu, hsu⟩ := hbc i s hs
  exact ⟨u, hu, hrs.trans hsu⟩

variable {a b : Arena} {p id : Nat} {t : TypeTree}

/-- **The old records.** Where a tree is placed under a node, the node has one more child behind the
others, and no other record changes. -/
theorem getElem?_place (h : a.place (some p) t = .ok (id, b)) {i : Nat} {r : Record}
    (hr : a.records[i]? = some r) :
    b.records[i]? = some (if i = p then r.addChild id else r) := by
  obtain ⟨up, hup, -, rfl, rfl⟩ := exists_attach_of_graft h
  split_ifs with hi
  · subst hi
    exact getElem?_attach_parent _ _ hr
  · exact getElem?_attach_of_ne _ _ hr hi

theorem grows_place {parent : Option Nat} (h : a.place parent t = .ok (id, b)) : Grows a b := by
  intro i r hr
  cases parent with
  | none =>
    obtain ⟨hempty, -, -⟩ := place_none_eq_ok h
    have hlt := lt_size_of_getElem? hr
    omega
  | some p =>
    refine ⟨_, getElem?_place h hr, ?_⟩
    split_ifs
    · exact r.persists_addChild id
    · exact Record.Persists.refl r

/-- The only new child of an old record is the root of the tree. -/
theorem eq_id_of_mem_appended (h : a.place (some p) t = .ok (id, b)) {i c : Nat} {s : Record}
    (hs : b.records[i]? = some s) (hold : i < a.size) (hc : c ∈ s.children) (hnew : a.size ≤ c) :
    c = id := by
  obtain ⟨r, hr⟩ := exists_getElem?_iff.2 hold
  obtain rfl := Option.some.inj ((getElem?_place h hr).symm.trans hs)
  have hchild : c ∈ r.children ∨ c = id := by
    split_ifs at hc
    · simpa [Record.addChild] using hc
    · exact Or.inl hc
  exact hchild.resolve_left fun hmem => absurd (child_bounds hr hmem).2 (Nat.not_lt.2 hnew)

/-- **The new records.** Where a tree is placed under a node, each record that was not there before
lies at the end of a path from the root of the tree. -/
theorem exists_path_appended (h : a.place (some p) t = .ok (id, b)) (hb : b.WellFormed) {n : Node}
    (hn : n.arena = b) (hnew : a.size ≤ n.id) :
    ∃ path, Node.walk ⟨b, id, id_lt_size_of_place h⟩ path = .ok n := by
  have hid := id_of_place h
  -- parents come before their children, and the path does not lead back to the old records
  induction hi : n.id using Nat.strong_induction_on generalizing n with
  | _ i ih =>
    subst hi
    rcases Nat.eq_or_lt_of_le hnew with hroot | hlt
    · exact ⟨[], Node.walk_nil_eq_ok_iff.2 (Node.ext_id hn.symm (hid.trans hroot))⟩
    · have hrecord : b.records[n.id]? = some n.record := hn ▸ n.getElem?_id
      obtain ⟨q, s, -, hqi, hs, hmem, -, -⟩ := hb.parent n.id n.record hrecord (by omega)
      have hq : a.size ≤ q := by
        by_contra hold
        have := eq_id_of_mem_appended h hs (Nat.lt_of_not_le hold) hmem hnew
        omega
      obtain ⟨k, hk⟩ := List.getElem?_of_mem hmem
      obtain ⟨path, hpath⟩ := ih q hqi (n := ⟨b, q, lt_size_of_getElem? hs⟩) rfl hq rfl
      refine ⟨path ++ [k], Node.walk_concat_eq_ok_iff.2 ⟨_, hpath, ?_⟩⟩
      rw [Node.getElem?_children_eq_some_iff, Node.childIds, Node.record_eq hs]
      exact ⟨hn, hk⟩

end Arena

/-! ### Nodes of a growing arena -/

/-- The node stands in another arena where it stood, with its name, parent and depth. -/
structure Node.StaysAs (n m : Node) : Prop where
  id_eq : m.id = n.id
  name_eq : m.name = n.name
  parentId_eq : m.parentId = n.parentId
  depth_eq : m.depth = n.depth

theorem Arena.Grows.exists_staysAs {a b : Arena} (h : Grows a b) {n : Node} (hn : n.arena = a) :
    ∃ m : Node, m.arena = b ∧ n.StaysAs m ∧ n.childIds <+: m.childIds := by
  obtain ⟨s, hs, hpersists⟩ := h n.id n.record (hn ▸ n.getElem?_id)
  let m : Node := ⟨b, n.id, Arena.lt_size_of_getElem? hs⟩
  have hrecord : m.record = s := Node.record_eq hs
  rw [← hrecord] at hpersists
  exact ⟨m, rfl, ⟨rfl, hpersists.name_eq, hpersists.parent_eq, hpersists.depth_eq⟩,
    hpersists.children_prefix⟩

/-- **Child positions are stable.** A number that stands for a child of a node stands for the same
child in an arena that has grown. -/
theorem Arena.Grows.childAt {a b : Arena} (h : Grows a b) {n : Node} (hn : n.arena = a) :
    ∃ m : Node, m.arena = b ∧ n.StaysAs m ∧
      ∀ k c, n.childAt k = .ok c → ∃ d, m.childAt k = .ok d ∧ c.StaysAs d := by
  obtain ⟨m, hm, hstays, hprefix⟩ := h.exists_staysAs hn
  refine ⟨m, hm, hstays, fun k c hc => ?_⟩
  rw [Node.childAt_eq_ok_iff, Node.getElem?_children_eq_some_iff] at hc
  obtain ⟨harena, hk⟩ := hc
  obtain ⟨d, hd, hstays', -⟩ := h.exists_staysAs (harena.trans hn)
  refine ⟨d, ?_, hstays'⟩
  rw [Node.childAt_eq_ok_iff, Node.getElem?_children_eq_some_iff, hstays'.id_eq]
  obtain ⟨hlt, hid⟩ := List.getElem?_eq_some_iff.1 hk
  exact ⟨hd.trans hm.symm, by rw [List.prefix_iff_getElem?.1 hprefix k hlt, hid]⟩

end TypeGrading.Tree

namespace TypeGrading.Descriptor

open TypeGrading.Tree

/-! ### Runs of edits -/

/-- The arena after a run of edits, accepted or refused. -/
def Edit.after (a : Arena) (es : List Edit) : Arena := es.foldl (fun b e => (e.perform b).2) a

/-- **One edit.** An arena grows by an edit, or stays as it was. -/
theorem grows_perform (a : Arena) (e : Edit) : a.Grows (e.perform a).2 := by
  cases hresult : (e.perform a).1 with
  | error x =>
    rw [Edit.refused_keeps hresult]
    exact Arena.Grows.refl a
  | ok id =>
    obtain ⟨t, hplace⟩ := Edit.exists_place_parent hresult
    exact Arena.grows_place hplace

/-- **A run of edits.** -/
theorem grows_after (a : Arena) (es : List Edit) : a.Grows (Edit.after a es) := by
  induction es generalizing a with
  | nil => exact Arena.Grows.refl a
  | cons e es ih => exact (grows_perform a e).trans (ih _)

/-- **Edits only append.** An edit that is accepted under a node of a built arena gives the new
child the first free position and enters it behind the other children of that node; it changes no
other record; and all other new records lie below the new child. So whatever edits follow, accepted
or refused, each node keeps its position, name, parent and depth, and a number that stands for one
of its children stands for the same child ever after. -/
theorem edits_only_append {a : Arena} (ha : Built a) :
    (∀ (e : Edit) (p id : Nat) (b : Arena), (∀ t : TypeTree, e.subtree? = some t → Built t.arena) →
      e.parent? = some p → e.perform a = (.ok id, b) →
      id = a.size ∧ p < a.size ∧
      (∀ (i : Nat) (r : Record), a.records[i]? = some r →
        b.records[i]? = some (if i = p then r.addChild id else r)) ∧
      ∀ n : Node, n.arena = b → a.size ≤ n.id →
        ∃ (m : Node) (path : List Nat), m.arena = b ∧ m.id = id ∧ m.walk path = .ok n) ∧
    ∀ (es : List Edit) (n : Node), n.arena = a →
      ∃ m : Node, m.arena = Edit.after a es ∧ n.StaysAs m ∧
        ∀ k c, n.childAt k = .ok c → ∃ d, m.childAt k = .ok d ∧ c.StaysAs d := by
  refine ⟨?_, fun es n hn => (grows_after a es).childAt hn⟩
  intro e p id b hsub hp hperform
  have hb : b.WellFormed := by
    have := (ha.perform e hsub).wellFormed
    rwa [hperform] at this
  obtain ⟨t, hplace⟩ := Edit.exists_place_parent (congrArg Prod.fst hperform)
  rw [hp, hperform] at hplace
  obtain ⟨up, hup, -, -, -⟩ := Arena.exists_attach_of_graft hplace
  refine ⟨Arena.id_of_place hplace, Arena.lt_size_of_getElem? hup,
    fun i r hr => Arena.getElem?_place hplace hr, fun n hn hnew => ?_⟩
  obtain ⟨path, hpath⟩ := Arena.exists_path_appended hplace hb hn hnew
  exact ⟨_, path, rfl, rfl, hpath⟩

/-- A descriptor that is read under a node with one child, and one that is refused afterwards. -/
theorem edits_only_append_graftedArena :
    (∃ b, Edit.perform graftedArena (.read "F<G>" (some 1)) = (.ok 4, b) ∧
      b.records[1]? = some ⟨"null", some 0, [2, 4], 1⟩) ∧
    ∃ m d : Node, m.arena = Edit.after graftedArena [.read "F<G>" (some 1), .read "H<I" (some 2)] ∧
      m.id = 1 ∧ m.childAt 0 = .ok d ∧ d.id = 2 := by
  obtain ⟨hone, hrun⟩ := edits_only_append built_graftedArena
  have hrecord : graftedArena.records[1]? = some ⟨"null", some 0, [2], 1⟩ := by decide +kernel
  constructor
  · have hid : (Edit.perform graftedArena (.read "F<G>" (some 1))).1 = .ok 4 := by decide +kernel
    have hperform : Edit.perform graftedArena (.read "F<G>" (some 1)) = (.ok 4, _) :=
      Prod.ext hid rfl
    obtain ⟨-, -, hkept, -⟩ := hone _ 1 4 _ (fun _ hgraft => by cases hgraft) rfl hperform
    exact ⟨_, hperform, hkept 1 _ hrecord⟩
  · let n : Node := ⟨graftedArena, 1, Arena.lt_size_of_getElem? hrecord⟩
    let c : Node := ⟨graftedArena, 2, by decide +kernel⟩
    have hchild : n.childAt 0 = .ok c := by
      rw [Node.childAt_eq_ok_iff, Node.getElem?_children_eq_some_iff, Node.childIds,
        Node.record_eq (n := n) hrecord]
      exact ⟨rfl, rfl⟩
    obtain ⟨m, hm, hstays, hchildren⟩ :=
      hrun [.read "F<G>" (some 1), .read "H<I" (some 2)] n rfl
    obtain ⟨d, hd, hstays'⟩ := hchildren 0 c hchild
    exact ⟨m, d, hm, hstays.id_eq, hd, hstays'.id_eq⟩

end TypeGrading.Descriptor
