import TypeGrading.Proofs.Descriptor.Steps
import TypeGrading.Proofs.Tree.Paths

/-!
# Runs of edits

An arena is built by a run of edits, each of which may be refused: a root, one more name, a copy of
a tree that was itself built, a descriptor.

* `Edit`, `Edit.perform`: one edit, and what it does to an arena;
* `Built`, `Obtained`: the arenas that runs of edits reach, and the trees there are;
* `Built.wellFormed`: every one of them is well-formed;
* `built_arena_is_tree`: so its records are those of one tree.
-/

namespace TypeGrading.Descriptor

open TypeGrading.Tree

/-- One edit of an arena. -/
inductive Edit
  | addRoot (name : String)
  | add (parent : Nat) (name : String)
  | graft (parent : Nat) (subtree : TypeTree)
  | read (descriptor : String) (parent : Option Nat)

/-- Why an edit was refused. -/
inductive Refusal
  | edit (error : EditError)
  | descriptor (error : DescriptorError)
  deriving DecidableEq, Repr

namespace Edit

/-- The tree that an edit copies, if it is a graft. -/
def subtree? : Edit → Option TypeTree
  | .graft _ subtree => some subtree
  | _ => none

/-- The node that an edit adds a child to, if it says one. -/
def parent? : Edit → Option Nat
  | .addRoot _ => none
  | .add parent _ => some parent
  | .graft parent _ => some parent
  | .read _ parent => parent

/-- The result of an edit and the arena afterwards; a refused edit leaves the arena as it was. -/
def settle (a : Arena) : Except EditError (Nat × Arena) → Except Refusal Nat × Arena
  | .ok (id, b) => (.ok id, b)
  | .error e => (.error (.edit e), a)

/-- The position that an edit answers with, or why it was refused, and the arena afterwards. -/
def perform (a : Arena) : Edit → Except Refusal Nat × Arena
  | .addRoot name => settle a (a.addRoot name)
  | .add parent name => settle a (a.add parent name)
  | .graft parent subtree => settle a (a.graft parent subtree)
  | .read descriptor parent =>
    ((readUnder a descriptor parent).1.mapError .descriptor, (readUnder a descriptor parent).2)

end Edit

/-- The arenas that runs of edits reach, accepted or refused; what is grafted is reached too. -/
inductive Built : Arena → Prop
  | empty : Built Arena.empty
  | perform {a : Arena} (e : Edit) (ha : Built a)
      (hsub : ∀ t : TypeTree, e.subtree? = some t → Built t.arena) : Built (e.perform a).2

/-- An edit that copies nothing goes on with a run. -/
theorem Built.perform_plain {a : Arena} {e : Edit} (ha : Built a) (he : e.subtree? = none) :
    Built (e.perform a).2 :=
  ha.perform e fun t ht => by rw [he] at ht; cases ht

/-- The trees there are: a built arena with a root, a single name, the reserved name, and what
parsing gives. -/
inductive Obtained : TypeTree → Prop
  | build {a : Arena} {t : TypeTree} (ha : Built a) (h : a.build = .ok t) : Obtained t
  | leaf {name : String} {t : TypeTree} (h : TypeTree.leaf name = .ok t) : Obtained t
  | null : Obtained TypeTree.null
  | parse {descriptor : String} {t : TypeTree} (h : parse descriptor = .ok t) : Obtained t

theorem arena_of_build {a : Arena} {t : TypeTree} (h : a.build = .ok t) : t.arena = a := by
  unfold Arena.build at h
  split_ifs at h
  rw [← Except.ok.inj h]

theorem built_leaf {name : String} {t : TypeTree} (h : TypeTree.leaf name = .ok t) : Built t.arena := by
  unfold TypeTree.leaf at h
  cases hroot : Arena.empty.addRoot name with
  | error e => rw [hroot] at h; cases h
  | ok added =>
    rw [hroot] at h
    have hbuilt := Built.empty.perform_plain (e := .addRoot name) rfl
    rw [Edit.perform, hroot] at hbuilt
    exact arena_of_build h ▸ hbuilt

theorem built_parse {descriptor : String} {t : TypeTree} (h : parse descriptor = .ok t) :
    Built t.arena := by
  have hbuilt := Built.empty.perform_plain (e := .read descriptor none) rfl
  rw [Edit.perform] at hbuilt
  rcases hread : readUnder Arena.empty descriptor none with ⟨e | node, b⟩
  · rw [parse, hread] at h; cases h
  · rw [parse, hread] at h
    rw [hread] at hbuilt
    have harena : t.arena = b := by
      cases hbuild : b.build with
      | error e => simp only [hbuild] at h; cases h
      | ok u =>
        simp only [hbuild] at h
        rw [← Except.ok.inj h]
        exact arena_of_build hbuild
    exact harena ▸ hbuilt

/-- Every tree there is comes from a run of edits. -/
theorem Obtained.built {t : TypeTree} (h : Obtained t) : Built t.arena := by
  cases h with
  | build ha h => exact arena_of_build h ▸ ha
  | leaf h => exact built_leaf h
  | null => exact Built.empty.perform_plain (e := .addRoot nullName) rfl
  | parse h => exact built_parse h

/-! ### The invariant along a run -/

theorem settle_keeps {motive : Arena → Prop} {a : Arena} {x : Except EditError (Nat × Arena)}
    (ha : motive a) (hx : ∀ id b, x = .ok (id, b) → motive b) : motive (Edit.settle a x).2 := by
  cases x with
  | ok added => exact hx added.1 added.2 rfl
  | error e => exact ha

/-- **One edit.** An edit keeps the invariant, whether it is accepted or refused. -/
theorem wellFormed_perform {a : Arena} {e : Edit} (ha : a.WellFormed)
    (hsub : ∀ t : TypeTree, e.subtree? = some t → t.arena.WellFormed) :
    (e.perform a).2.WellFormed := by
  cases e with
  | addRoot name =>
    exact settle_keeps ha fun id b h => ha.addUnder (show a.addUnder none name = .ok (id, b) from h)
  | add parent name =>
    exact settle_keeps ha fun id b h =>
      ha.addUnder (show a.addUnder (some parent) name = .ok (id, b) from h)
  | graft parent subtree => exact settle_keeps ha fun id b h => ha.graft (hsub subtree rfl) h
  | read descriptor parent =>
    show (readUnder a descriptor parent).2.WellFormed
    rcases readUnder_cases (fun _ _ _ _ _ h hadd => h.addUnder hadd) ha descriptor parent with
      ⟨id, b, hread, hb⟩ | ⟨e, b, hread, hb⟩
    · rw [hread]
      exact hb
    · rw [hread]
      exact hb.truncate a.size

/-- **A whole run.** Every arena that edits reach is well-formed. -/
theorem Built.wellFormed {a : Arena} (h : Built a) : a.WellFormed := by
  induction h with
  | empty => exact Arena.wellFormed_empty
  | perform e _ _ ih ihsub => exact wellFormed_perform ih ihsub

/-- **Built arenas are trees.** After any run of edits: the first record is the root; every other
record lies one below its parent, at depth 256 at most, and occurs once in the child list of its
parent and in no other; child lists increase and hold known positions; every name is one. So each
record is at the end of exactly one path from the root, and the expression of the root has as many
names as there are records. -/
theorem built_arena_is_tree {a : Arena} (h : Built a) :
    (∀ (i : Nat) (r : Record), a.records[i]? = some r →
      (i = 0 → r.parent = none ∧ r.depth = 0) ∧
      (i ≠ 0 → ∃ (p : Nat) (q : Record), r.parent = some p ∧ p < i ∧ a.records[p]? = some q ∧
        r.depth = q.depth + 1 ∧ r.depth ≤ 256 ∧ q.children.count i = 1 ∧
        ∀ (j : Nat) (s : Record), a.records[j]? = some s → i ∈ s.children → j = p) ∧
      r.children.Pairwise (· < ·) ∧ (∀ c ∈ r.children, c < a.size) ∧ IsName r.name) ∧
    ∀ t : TypeTree, t.arena = a →
      (∀ n : Node, n.arena = a → ∃! path, t.root.walk path = .ok n) ∧
      t.root.toExpr.size = a.size := by
  have hw := h.wellFormed
  constructor
  · intro i r hr
    refine ⟨?root, ?parent, hw.increasing i r hr, fun c hc => (Arena.child_bounds hr hc).2,
      hw.name i r hr⟩
    case root =>
      rintro rfl
      exact hw.root r hr
    case parent =>
      intro hi
      obtain ⟨p, q, hp, hlt, hq, hmem, hdepth, hle⟩ := hw.parent i r hr (Nat.pos_of_ne_zero hi)
      exact ⟨p, q, hp, hlt, hq, hdepth, hle, hw.count_children hq hmem,
        fun j s hs hmem' => hw.eq_parent_of_mem hr hp hs hmem'⟩
  · rintro t rfl
    exact ⟨fun n hn => existsUnique_path hw hn, size_toExpr hw⟩

/-- An arena with a graft, and with a descriptor that was refused after two names. -/
def graftedArena : Arena :=
  (Edit.perform (Edit.perform (Edit.perform (Edit.perform Arena.empty (.addRoot "A")).2
    (.graft 0 TypeTree.null)).2 (.read "B<C>" (some 1))).2 (.read "D<E" (some 0))).2

theorem built_graftedArena : Built graftedArena := by
  have hroot : Built (Edit.perform Arena.empty (.addRoot "A")).2 := Built.empty.perform_plain rfl
  have hgraft : Built (Edit.perform (Edit.perform Arena.empty (.addRoot "A")).2
      (.graft 0 TypeTree.null)).2 := by
    refine hroot.perform _ fun t ht => ?_
    obtain rfl : TypeTree.null = t := Option.some.inj ht
    exact Obtained.null.built
  exact (hgraft.perform_plain rfl).perform_plain rfl

theorem graftedArena_is_tree :
    graftedArena.size = 4 ∧ ∀ t : TypeTree, t.arena = graftedArena → t.root.toExpr.size = 4 := by
  have hsize : graftedArena.size = 4 := by decide +kernel
  refine ⟨hsize, fun t ht => ?_⟩
  obtain ⟨-, hnames⟩ := (built_arena_is_tree built_graftedArena).2 t ht
  rw [hnames, hsize]

end TypeGrading.Descriptor
