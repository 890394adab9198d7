import TypeGrading.Proofs.Compare.Explanation
import TypeGrading.Proofs.Descriptor.Descending
import TypeGrading.Proofs.Tree.Depths

/-!
# Levels of recursion

Every recursion goes down a tree, or down the lists of a descriptor, and neither is deeper than 256.

* `pairLevels`: how many levels of calls there is room for from a pair of nodes on;
* `pairBody`, `roundBody`: what one call does for the grade of a pair, and what one round of an
  explanation does;
* `unrolled_pairBody`, `unrolled_roundBody`: as many levels are enough;
* `length_path_explain_le`: how long the path of an explanation is;
* `recursion_bounded`: all recursions together.
-/

namespace TypeGrading.Compare

open TypeGrading.Tree

/-! ### Pairs -/

/-- The levels of calls there is room for from a pair of nodes on. -/
def pairLevels (p : Node × Node) : Nat := maxDepth + 1 - max p.1.depth p.2.depth

/-- Both nodes lie in well-formed arenas. -/
def PairFormed (p : Node × Node) : Prop := p.1.arena.WellFormed ∧ p.2.arena.WellFormed

section Pairs

variable {p q : Node × Node}

theorem pairLevels_pos (h : PairFormed p) : 0 < pairLevels p :=
  Nat.sub_pos_of_lt (Nat.lt_succ_of_le (max_le (Node.depth_le h.1) (Node.depth_le h.2)))

theorem PairFormed.child (h : PairFormed p) (hq : q ∈ childPairs p.1 p.2) :
    PairFormed q ∧ pairLevels q < pairLevels p := by
  obtain ⟨hleft, hright⟩ := List.of_mem_zip hq
  have hdepth := Node.depth_le h.1
  have hdepth' := Node.depth_le h.2
  refine ⟨⟨(Node.mem_children_iff.1 hleft).1 ▸ h.1, (Node.mem_children_iff.1 hright).1 ▸ h.2⟩, ?_⟩
  rw [pairLevels, pairLevels, Node.depth_child h.1 hleft, Node.depth_child h.2 hright]
  omega

/-- The grade of a pair, given those of other pairs. -/
def pairBody (nested : Node × Node → Dialogue Grade) (p : Node × Node) : Dialogue Grade := do
  match ← nameGrade p.1.name p.2.name with
  | some grade => pure grade
  | none =>
    let left := p.1.childIds.length
    let right := p.2.childIds.length
    if left ≠ right then
      Dialogue.note (.countMismatch p.1.name left right)
      pure .arityMismatch
    else aggregate .none ((childPairs p.1 p.2).map nested)

theorem gradePair_eq_pairBody (p : Node × Node) :
    gradePair p.1 p.2 = pairBody (fun q => gradePair q.1 q.2) p := by
  have hpairs : ((childPairs p.1 p.2).attach.map fun q => gradePair q.1.1 q.1.2) =
      (childPairs p.1 p.2).map fun q => gradePair q.1 q.2 :=
    List.attach_map_val (f := fun q : Node × Node => gradePair q.1 q.2)
  rw [gradePair, hpairs]
  rfl

theorem unrolled_pairBody (h : PairFormed p) (beyond : Node × Node → Dialogue Grade) {k : Nat}
    (hk : pairLevels p ≤ k) : unrolled pairBody beyond k p = gradePair p.1 p.2 := by
  refine unrolled_eq (fun q => gradePair q.1 q.2) PairFormed pairLevels
    (fun q hq => pairLevels_pos hq) ?_ beyond h hk
  intro p nested hp hnested
  have hchildren : (childPairs p.1 p.2).map nested =
      (childPairs p.1 p.2).map fun q => gradePair q.1 q.2 :=
    List.map_congr_left fun q hq => hnested q (hp.child hq).1 (hp.child hq).2
  rw [gradePair_eq_pairBody, pairBody, pairBody, hchildren]

end Pairs

/-! ### Rounds of an explanation -/

/-- Where a round of an explanation begins: a pair, its grade, and the path that led to it. -/
structure Round where
  pair : Node × Node
  grade : Grade
  path : List Nat

/-- One round of an explanation, given what the next ones come to. -/
def roundBody (nested : Round → Dialogue Divergence) (s : Round) : Dialogue Divergence := do
  let here : Divergence := ⟨s.pair.1.name, s.pair.2.name, s.grade, s.path⟩
  let decided ← nameGrade s.pair.1.name s.pair.2.name
  if decided.isSome || s.grade = .arityMismatch then pure here
  else
    firstPassing (follows s.grade) (pure here) <|
      (childPairs s.pair.1 s.pair.2).mapIdx fun i p =>
        (gradePair p.1 p.2, fun g => nested ⟨p, g, s.path ++ [i]⟩)

/-- The explanation from a round on. -/
def Round.descend (s : Round) : Dialogue Divergence :=
  Compare.descend s.pair.1 s.pair.2 s.grade s.path

theorem Round.descend_eq_roundBody (s : Round) : s.descend = roundBody Round.descend s := by
  have hpairs : ((childPairs s.pair.1 s.pair.2).attach.mapIdx fun i p =>
      (gradePair p.1.1 p.1.2, fun g => Compare.descend p.1.1 p.1.2 g (s.path ++ [i]))) =
      (childPairs s.pair.1 s.pair.2).mapIdx fun i p =>
        (gradePair p.1 p.2, fun g => Compare.descend p.1 p.2 g (s.path ++ [i])) := by
    apply List.ext_getElem (by simp)
    intro i _ _
    simp
  rw [Round.descend, Compare.descend, hpairs]
  rfl

theorem unrolled_roundBody {s : Round} (h : PairFormed s.pair)
    (beyond : Round → Dialogue Divergence) {k : Nat} (hk : pairLevels s.pair ≤ k) :
    unrolled roundBody beyond k s = s.descend := by
  refine unrolled_eq Round.descend (fun s => PairFormed s.pair) (fun s => pairLevels s.pair)
    (fun s hs => pairLevels_pos hs) ?_ beyond h hk
  intro s nested hs hnested
  have hchildren : ((childPairs s.pair.1 s.pair.2).mapIdx fun i p =>
      (gradePair p.1 p.2, fun g => nested ⟨p, g, s.path ++ [i]⟩)) =
      (childPairs s.pair.1 s.pair.2).mapIdx fun i p =>
        (gradePair p.1 p.2, fun g => Round.descend ⟨p, g, s.path ++ [i]⟩) := by
    apply List.ext_getElem (by simp)
    intro i hi _
    rw [List.length_mapIdx] at hi
    have hchild := hs.child (List.getElem_mem hi)
    rw [List.getElem_mapIdx, List.getElem_mapIdx]
    exact Prod.ext rfl (funext fun g => hnested _ hchild.1 hchild.2)
  rw [Round.descend_eq_roundBody, roundBody, roundBody, hchildren]

/-- The path of an explanation leads down from both nodes. -/
theorem length_path_explain_le {r : Resolver} {a b : Node} {v : Divergence}
    (h : PairFormed (a, b)) (hv : (explain a b).answer r = some v) :
    v.path.length + max a.depth b.depth ≤ maxDepth := by
  rw [answer_explain] at hv
  by_cases hg : grade r a b = .identical
  · rw [if_pos hg] at hv
    cases hv
  · rw [if_neg hg] at hv
    obtain ⟨w, c, d, k, hreports, hdescend⟩ := answer_descend hg []
    obtain rfl : w = v := by simpa [hdescend] using hv
    obtain ⟨hc, hd, -⟩ := hreports.visited
    have hsource : c.depth = a.depth + w.path.length := Node.depth_walk h.1 hc
    have htarget : d.depth = b.depth + w.path.length := Node.depth_walk h.2 hd
    have hle := Node.depth_le (Node.arena_of_walk hc ▸ h.1)
    have hle' := Node.depth_le (Node.arena_of_walk hd ▸ h.2)
    omega

/-! ### All recursions -/

/-- **Recursion is bounded.** Reading any descriptor into any arena, by calls that each read one
type, needs 257 levels of calls: whatever the calls beyond them did, it ends with what is read, and
never for want of progress. The expression and the text of a node of a built arena need 257 levels
less the depth of the node. So do the grade of two nodes, and the rounds of their explanation, with
the greater one of their depths; and the path of the explanation has at most 256 steps less that
depth. -/
theorem recursion_bounded :
    (∀ (a : Arena) (descriptor : String) (parent : Option Nat)
      (beyond : Descriptor.Call → Except Descriptor.Halted (Nat × Descriptor.Cursor)),
      (∃ id c, Descriptor.readBy beyond 257 a descriptor parent = .ok (id, c) ∧
        Descriptor.readUnder a descriptor parent = (.ok id, c.arena)) ∨
      ∃ f c, Descriptor.readBy beyond 257 a descriptor parent = .error ⟨.fault f, c⟩ ∧
        Descriptor.readUnder a descriptor parent =
          (.error ⟨descriptor, f⟩, c.arena.truncate a.size)) ∧
    (∀ n : Node, Descriptor.Built n.arena →
      (∀ beyond, unrolled Node.exprBody beyond (257 - n.depth) n = n.toExpr) ∧
      ∀ beyond, unrolled Node.canonicalBody beyond (257 - n.depth) n = n.canonical) ∧
    ∀ a b : Node, Descriptor.Built a.arena → Descriptor.Built b.arena →
      (∀ beyond, unrolled pairBody beyond (257 - max a.depth b.depth) (a, b) = gradePair a b) ∧
      (∀ beyond g path, unrolled roundBody beyond (257 - max a.depth b.depth) ⟨(a, b), g, path⟩ =
        descend a b g path) ∧
      ∀ r v, (explain a b).answer r = some v → v.path.length ≤ 256 - max a.depth b.depth := by
  refine ⟨fun a descriptor parent beyond => ?_, fun n hn => ?_, fun a b ha hb => ?_⟩
  · obtain ⟨c, -, ⟨id, hread⟩ | ⟨f, hstop, -, hread⟩⟩ :=
      Descriptor.readBy_agrees beyond (Nat.lt_succ_self Descriptor.maxNesting) a descriptor parent
    · exact Or.inl ⟨id, c, hread⟩
    · exact Or.inr ⟨f, c, hstop, hread⟩
  · have h := hn.wellFormed
    exact ⟨fun beyond => Node.unrolled_exprBody h beyond le_rfl,
      fun beyond => Node.unrolled_canonicalBody h beyond le_rfl⟩
  · have h : PairFormed (a, b) := ⟨ha.wellFormed, hb.wellFormed⟩
    refine ⟨fun beyond => unrolled_pairBody h beyond le_rfl,
      fun beyond g path => unrolled_roundBody h beyond le_rfl, fun r v hv => ?_⟩
    exact Nat.le_sub_of_add_le (length_path_explain_le h hv)

/-- Two nodes of an arena with a graft, one below the other. -/
theorem recursion_bounded_graftedArena :
    ∃ n m : Node, n.arena = Descriptor.graftedArena ∧ m.arena = n.arena ∧
      n.depth = 1 ∧ m.depth = 2 ∧
      (∀ beyond, unrolled Node.canonicalBody beyond 256 n = n.canonical) ∧
      (∀ beyond, unrolled pairBody beyond 255 (n, m) = gradePair n m) ∧
      ∀ r v, (explain n m).answer r = some v → v.path.length ≤ 254 := by
  let n : Node := ⟨Descriptor.graftedArena, 1, by decide +kernel⟩
  let m : Node := ⟨Descriptor.graftedArena, 2, by decide +kernel⟩
  have hn : n.depth = 1 := by decide +kernel
  have hm : m.depth = 2 := by decide +kernel
  have hmax : max n.depth m.depth = 2 := by rw [hn, hm]; rfl
  obtain ⟨-, hnode, hpair⟩ := recursion_bounded
  have hbuilt := Descriptor.built_graftedArena
  have hcanonical := (hnode n hbuilt).2
  obtain ⟨hgrade, -, hpath⟩ := hpair n m hbuilt hbuilt
  rw [hn] at hcanonical
  rw [hmax] at hgrade hpath
  exact ⟨n, m, rfl, rfl, hn, hm, hcanonical, hgrade, hpath⟩

end TypeGrading.Compare
