import Mathlib.Tactic
import TypeGrading.Hierarchy

/-!
# Climbing a hierarchy

What the breadth-first search finds, on any hierarchy, cyclic or not.

* `Direct`, `Climbs`: direct supertypes, and chains of them;
* `Explored`: where a search stands; `Explored.pass` for one round, `Explored.search_iff` for all;
* `LiesBelow`, `isDerivedFrom_iff`: descendants, with the root above all known names;
* `liesBelow_trans_iff`: descent through a name in between, which may be the root;
* `isDerivedFrom_iff_exists_between`: descendants by the names in between.
-/

namespace TypeGrading.Hierarchy

/-- `parent` is a direct supertype of `child`. -/
def Direct (g : Hierarchy) (child parent : String) : Prop := parent ∈ g.parents child

/-- A chain of direct supertypes leads up from `child` to `ancestor`. -/
def Climbs (g : Hierarchy) : String → String → Prop := Relation.TransGen g.Direct

/-- `ancestor` is the root, or a chain of direct supertypes leads up to it from `child`. -/
def LiesBelow (g : Hierarchy) (child ancestor : String) : Prop :=
  g.root = some ancestor ∨ g.Climbs child ancestor

variable {g : Hierarchy} {name child ancestor : String} {met queue : List String}

/-! ### One search -/

/-- Where a search from `child` stands. The names met are `child` and names above it, those in the
queue among them; of the names met that have left the queue, all direct supertypes are met, and none
is the name searched for. -/
structure Explored (g : Hierarchy) (child ancestor : String) (met queue : List String) : Prop where
  start : child ∈ met
  queued : ∀ name ∈ queue, name ∈ met
  above : ∀ name ∈ met, Relation.ReflTransGen g.Direct child name
  passed : ∀ name ∈ met, name ∈ queue ∨
    ∀ parent, g.Direct name parent → parent ∈ met ∧ parent ≠ ancestor

theorem explored_start (g : Hierarchy) (child ancestor : String) :
    g.Explored child ancestor [child] [child] where
  start := List.mem_singleton.2 rfl
  queued := fun _ h => h
  above := fun _ h => List.mem_singleton.1 h ▸ .refl
  passed := fun _ h => Or.inl h

namespace Explored

/-- **One round.** The first name of the queue is passed, and its fresh supertypes are met and join
the queue. -/
theorem pass {rest : List String} (h : g.Explored child ancestor met (name :: rest))
    (hnot : ¬ g.Direct name ancestor) :
    g.Explored child ancestor (met ++ g.fresh met name) (rest ++ g.fresh met name) where
  start := List.mem_append_left _ h.start
  queued := by
    intro waiting hwaiting
    rcases List.mem_append.1 hwaiting with hrest | hfresh
    · exact List.mem_append_left _ (h.queued _ (List.mem_cons_of_mem _ hrest))
    · exact List.mem_append_right _ hfresh
  above := by
    intro seen hseen
    rcases List.mem_append.1 hseen with hmet | hfresh
    · exact h.above seen hmet
    · exact (h.above name (h.queued _ List.mem_cons_self)).tail (mem_fresh_iff.1 hfresh).1
  passed := by
    have hgrown : ∀ parent, parent ∈ met → parent ∈ met ++ g.fresh met name :=
      fun _ => List.mem_append_left _
    -- a supertype of `name` that is not fresh was met before
    have hname : ∀ parent, g.Direct name parent →
        parent ∈ met ++ g.fresh met name ∧ parent ≠ ancestor := by
      intro parent hdirect
      refine ⟨?_, fun heq => hnot (heq ▸ hdirect)⟩
      by_cases hmet : parent ∈ met
      · exact hgrown parent hmet
      · exact List.mem_append_right _ (mem_fresh_iff.2 ⟨hdirect, hmet⟩)
    intro seen hseen
    rcases List.mem_append.1 hseen with hmet | hfresh
    · rcases h.passed seen hmet with hqueue | hpassed
      · rcases List.mem_cons.1 hqueue with rfl | hrest
        · exact Or.inr hname
        · exact Or.inl (List.mem_append_left _ hrest)
      · exact Or.inr fun parent hdirect => (hpassed parent hdirect).imp_left (hgrown parent)
    · exact Or.inl (List.mem_append_right _ hfresh)

/-- When the queue is empty, the names met are all that lie above `child`. -/
theorem not_climbs (h : g.Explored child ancestor met []) : ¬ g.Climbs child ancestor := by
  have hpassed : ∀ seen ∈ met, ∀ parent, g.Direct seen parent → parent ∈ met ∧ parent ≠ ancestor :=
    fun seen hseen => (h.passed seen hseen).resolve_left List.not_mem_nil
  intro hclimb
  obtain ⟨last, hpath, hdirect⟩ := Relation.TransGen.tail'_iff.1 hclimb
  have hlast : last ∈ met := by
    clear hdirect
    induction hpath with
    | refl => exact h.start
    | tail _ hdirect ih => exact (hpassed _ ih _ hdirect).1
  exact (hpassed last hlast ancestor hdirect).2 rfl

/-- **The whole search.** It succeeds exactly if a chain leads up to the name searched for. -/
theorem search_iff (h : g.Explored child ancestor met queue) :
    g.search ancestor met queue = true ↔ g.Climbs child ancestor := by
  fun_induction search g ancestor met queue with
  | case1 met => exact iff_of_false Bool.false_ne_true h.not_climbs
  | case2 met name rest hdirect =>
    have hpath := h.above name (h.queued name List.mem_cons_self)
    exact iff_of_true rfl (Relation.TransGen.tail' hpath hdirect)
  | case3 met name rest hnot ih => exact ih (h.pass hnot)

end Explored

/-- **A search finds what chains lead up to**, on any hierarchy, cyclic or not. -/
theorem reaches_iff : g.reaches child ancestor = true ↔ g.Climbs child ancestor :=
  (explored_start g child ancestor).search_iff

/-! ### Descendants -/

/-- A chain of supertypes starts at a name that has some. -/
theorem not_climbs_of_parents_eq_nil (h : g.parents child = []) : ¬ g.Climbs child ancestor := by
  intro hclimb
  obtain ⟨parent, hdirect, -⟩ := Relation.TransGen.head'_iff.1 hclimb
  rw [Direct, h] at hdirect
  exact List.not_mem_nil hdirect

/-- A chain of supertypes starts at a known name. -/
theorem contains_of_climbs (h : g.Climbs child ancestor) : g.contains child = true := by
  by_contra hunknown
  have hkeys : child ∉ g.supertypes.keys := fun hmem => hunknown (Table.contains_iff.2 hmem)
  exact not_climbs_of_parents_eq_nil (parents_eq_nil hkeys) h

/-- **Descendants.** A name is derived from another one exactly if it is known and lies below it. -/
theorem isDerivedFrom_iff :
    g.isDerivedFrom child ancestor = true ↔
      child ≠ ancestor ∧ g.contains child = true ∧ g.LiesBelow child ancestor := by
  simp only [isDerivedFrom, LiesBelow, Bool.and_eq_true, Bool.or_eq_true, decide_eq_true_eq,
    reaches_iff, and_assoc]

/-- Nothing else lies above a root without supertypes. -/
theorem eq_of_root_liesBelow (hroot : g.root = some child) (hnone : g.parents child = [])
    (h : g.LiesBelow child ancestor) : child = ancestor := by
  rcases h with hroot' | hclimb
  · exact Option.some.inj (hroot.symm.trans hroot')
  · exact absurd hclimb (not_climbs_of_parents_eq_nil hnone)

/-- Two descents make one, unless they only meet in the root: it is above all known names, but what
lies above it need not be. -/
theorem liesBelow_trans_iff {a b c : String} (hne : b ≠ c) (hab : g.LiesBelow a b)
    (hbc : g.LiesBelow b c) : g.LiesBelow a c ↔ (g.root = some b → g.Climbs a c) := by
  constructor
  · rintro (hroot | hclimb) hroot'
    · exact absurd (Option.some.inj (hroot'.symm.trans hroot)) hne
    · exact hclimb
  · intro hthrough
    rcases hab with hroot | hclimb
    · exact Or.inr (hthrough hroot)
    · exact hbc.imp_right hclimb.trans

/-- A chain of supertypes, by the names in between. -/
theorem climbs_iff_exists_between :
    g.Climbs child ancestor ↔
      ∃ between : List String, List.IsChain g.Direct (child :: (between ++ [ancestor])) := by
  constructor
  · intro h
    induction h using Relation.TransGen.head_induction_on with
    | single hdirect => exact ⟨[], by simpa using hdirect⟩
    | head hdirect _ ih =>
      obtain ⟨between, hchain⟩ := ih
      exact ⟨_ :: between, List.isChain_cons_cons.2 ⟨hdirect, hchain⟩⟩
  · rintro ⟨between, hchain⟩
    induction between generalizing child with
    | nil => exact .single (by simpa using hchain)
    | cons next between ih =>
      obtain ⟨hdirect, hrest⟩ := List.isChain_cons_cons.1 hchain
      exact .head hdirect (ih hrest)

/-- **Descent is reachability.** On any hierarchy, whatever its edits, its cycles and its repeated
edges, the search ends, and it tells that a name is derived from another one exactly if the two are
different, the first is known, and the second is the root or is reached from the first by one or
more steps, each to a direct supertype. -/
theorem isDerivedFrom_iff_exists_between (g : Hierarchy) (child ancestor : String) :
    g.isDerivedFrom child ancestor = true ↔
      child ≠ ancestor ∧ g.contains child = true ∧
        (g.root = some ancestor ∨
          ∃ between : List String, List.IsChain g.Direct (child :: (between ++ [ancestor]))) := by
  rw [isDerivedFrom_iff, LiesBelow, climbs_iff_exists_between]

end TypeGrading.Hierarchy
