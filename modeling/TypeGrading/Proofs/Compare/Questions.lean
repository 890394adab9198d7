import TypeGrading.Proofs.Compare.Differences

/-!
# Questions

What a comparison asks, and in which order. It walks the two trees side by side in preorder, asks
about every pair of different names that it meets, and ends with the first answer that makes the
whole unrelated.

* `Visit`, `tour`: the pairs of nodes that are visited, in preorder;
* `mem_tour_iff`, `pairwise_tour`: every visited pair once, in the order of the paths;
* `throughFirst`: a list up to the first member that passes a test;
* `queries_gradePair`: the questions of a comparison;
* `queries_follow_tour`: what is asked, and that nothing else matters.
-/

namespace TypeGrading

/-! ### Resolvers that agree -/

/-- Two resolvers that answer the questions of a dialogue alike are asked the same questions, and it
comes to the same. -/
theorem Dialogue.congr_of_queries {α : Type} {r r' : Resolver} (d : Dialogue α)
    (h : ∀ q ∈ d.queries r, r' q.1 q.2 = r q.1 q.2) :
    d.answer r' = d.answer r ∧ d.queries r' = d.queries r := by
  induction d with
  | done a => exact ⟨rfl, rfl⟩
  | ask left right next ih =>
    have hfirst : r' left right = r left right := h (left, right) List.mem_cons_self
    obtain ⟨hanswer, hqueries⟩ := ih (r left right) fun q hq => h q (List.mem_cons_of_mem _ hq)
    simp only [answer, queries, hfirst]
    exact ⟨hanswer, congrArg _ hqueries⟩
  | tell e next ih => exact ih h

namespace Compare

open TypeGrading.Tree

/-! ### Lists up to a member -/

/-- The list up to the first member that passes the test, which is kept. -/
def throughFirst {α : Type} (test : α → Bool) : List α → List α
  | [] => []
  | x :: xs => if test x then [x] else x :: throughFirst test xs

theorem throughFirst_append {α : Type} (test : α → Bool) (xs ys : List α) :
    throughFirst test (xs ++ ys) =
      throughFirst test xs ++ if xs.any test then [] else throughFirst test ys := by
  induction xs with
  | nil => rfl
  | cons x xs ih =>
    rw [List.cons_append, throughFirst, throughFirst, ih]
    cases hx : test x <;> simp [hx]

/-! ### The walk -/

/-- A pair of nodes with the path that leads to it from two others. -/
@[ext] structure Visit where
  path : List Nat
  left : Node
  right : Node

namespace Visit

/-- The pair as it is reached from the parents, as their children at a position. -/
def below (i : Nat) (v : Visit) : Visit := { v with path := i :: v.path }

/-- The names of the pair, the left one first. -/
def names (v : Visit) : String × String := (v.left.name, v.right.name)

end Visit

instance (r : Resolver) (a b : Node) : Decidable (Matching r a b) :=
  decidable_of_iff _ matching_iff.symm

/-- The pairs met on a walk down two trees side by side, each before those below it. The walk goes
below a pair whose names match and whose numbers of children agree. -/
def tour (r : Resolver) (a b : Node) : List Visit :=
  ⟨[], a, b⟩ ::
    if Matching r a b ∧ a.childIds.length = b.childIds.length then
      ((childPairs a b).attach.mapIdx fun i p => (tour r p.1.1 p.1.2).map (Visit.below i)).flatten
    else []
termination_by a.below
decreasing_by exact below_lt_of_mem_childPairs p.2

section Tour

variable {r : Resolver} {a b : Node}

/-- The walk below a pair. -/
theorem tour_eq (r : Resolver) (a b : Node) :
    tour r a b = ⟨[], a, b⟩ ::
      if Matching r a b ∧ a.childIds.length = b.childIds.length then
        ((childPairs a b).mapIdx fun i p => (tour r p.1 p.2).map (Visit.below i)).flatten
      else [] := by
  have hpairs : ((childPairs a b).attach.mapIdx fun i p =>
        (tour r p.1.1 p.1.2).map (Visit.below i)) =
      (childPairs a b).mapIdx fun i p => (tour r p.1 p.2).map (Visit.below i) := by
    apply List.ext_getElem (by simp)
    intro i _ _
    simp
  rw [tour, hpairs]

theorem mem_tour_below_iff {v : Visit} :
    v ∈ ((childPairs a b).mapIdx fun i p => (tour r p.1 p.2).map (Visit.below i)).flatten ↔
      ∃ i x y w, a.children[i]? = some x ∧ b.children[i]? = some y ∧ w ∈ tour r x y ∧
        v = w.below i := by
  simp only [List.mem_flatten, List.mem_mapIdx]
  constructor
  · rintro ⟨_, ⟨i, hi, rfl⟩, hv⟩
    obtain ⟨w, hw, rfl⟩ := List.mem_map.1 hv
    obtain ⟨hx, hy⟩ := List.getElem?_zip_eq_some.1 (List.getElem?_eq_getElem hi)
    exact ⟨i, _, _, w, hx, hy, hw, rfl⟩
  · rintro ⟨i, x, y, w, hx, hy, hw, rfl⟩
    have hpair : (childPairs a b)[i]? = some (x, y) := List.getElem?_zip_eq_some.2 ⟨hx, hy⟩
    obtain ⟨hi, hpair⟩ := List.getElem?_eq_some_iff.1 hpair
    exact ⟨_, ⟨i, hi, rfl⟩, List.mem_map.2 ⟨w, by rwa [hpair], rfl⟩⟩

/-- **What is met is what is visited.** -/
theorem mem_tour_iff {v : Visit} :
    v ∈ tour r a b ↔ Visited r a b v.path v.left v.right := by
  obtain ⟨path, c, d⟩ := v
  induction path generalizing a b with
  | nil =>
    rw [tour_eq, List.mem_cons, visited_nil_iff]
    constructor
    · rintro (heq | hbelow)
      · cases heq
        exact ⟨rfl, rfl⟩
      · split_ifs at hbelow
        · obtain ⟨i, x, y, w, -, -, -, hv⟩ := mem_tour_below_iff.1 hbelow
          cases hv
        · cases hbelow
    · rintro ⟨rfl, rfl⟩
      exact Or.inl rfl
  | cons i path ih =>
    rw [tour_eq, List.mem_cons, visited_cons_iff]
    constructor
    · rintro (heq | hbelow)
      · cases heq
      · split_ifs at hbelow with hpair
        · obtain ⟨j, x, y, w, hx, hy, hw, hv⟩ := mem_tour_below_iff.1 hbelow
          cases hv
          exact ⟨hpair, x, y, hx, hy, ih.1 hw⟩
        · cases hbelow
    · rintro ⟨hpair, x, y, hx, hy, hvisited⟩
      rw [if_pos hpair]
      exact Or.inr (mem_tour_below_iff.2 ⟨i, x, y, ⟨path, c, d⟩, hx, hy, ih.2 hvisited, rfl⟩)

/-- **The walk is in preorder.** A path comes after its front parts, and after all paths that turn
off to the left of it. -/
theorem pairwise_tour (r : Resolver) (a b : Node) :
    (tour r a b).Pairwise fun v w => List.Lex (· < ·) v.path w.path := by
  induction hk : a.below using Nat.strong_induction_on generalizing a b with
  | _ k ih =>
    rw [tour_eq, List.pairwise_cons]
    split_ifs
    · constructor
      · intro v hv
        obtain ⟨i, _, _, w, -, -, -, rfl⟩ := mem_tour_below_iff.1 hv
        exact List.Lex.nil
      · rw [List.pairwise_flatten]
        constructor
        · intro l hl
          obtain ⟨i, hi, rfl⟩ := List.mem_mapIdx.1 hl
          rw [List.pairwise_map]
          have hlt := below_lt_of_mem_childPairs (List.getElem_mem hi)
          exact (ih _ (hk ▸ hlt) _ _ rfl).imp fun hlex => List.Lex.cons hlex
        · rw [List.pairwise_iff_getElem]
          intro i j hi hj hij v hv w hw
          rw [List.getElem_mapIdx] at hv hw
          obtain ⟨v', -, rfl⟩ := List.mem_map.1 hv
          obtain ⟨w', -, rfl⟩ := List.mem_map.1 hw
          exact List.Lex.rel hij
    · exact ⟨fun v hv => (List.not_mem_nil hv).elim, List.Pairwise.nil⟩

end Tour

/-! ### Pairs of names -/

/-- The pairs of different names among those visited, in order. -/
def differing (visits : List Visit) : List (String × String) :=
  (visits.map Visit.names).filter fun q => q.1 ≠ q.2

/-- The answer about a pair makes the whole unrelated: the names are unrelated, or one of them was
not resolved. -/
def isDecisive (r : Resolver) (q : String × String) : Bool :=
  match r q.1 q.2 with
  | .ok relation => relation = .unrelated
  | .error _ => true

section Asking

variable {r : Resolver} {a b : Node}

theorem isDecisive_iff {q : String × String} : isDecisive r q = true ↔
    r q.1 q.2 = .ok .unrelated ∨ ∃ e, r q.1 q.2 = .error e := by
  unfold isDecisive
  cases r q.1 q.2 <;> simp

theorem mem_differing_iff {visits : List Visit} {q : String × String} :
    q ∈ differing visits ↔ ∃ v ∈ visits, v.names = q ∧ v.left.name ≠ v.right.name := by
  simp only [differing, List.mem_filter, List.mem_map, decide_eq_true_eq]
  constructor
  · rintro ⟨⟨v, hv, rfl⟩, hne⟩
    exact ⟨v, hv, rfl, hne⟩
  · rintro ⟨v, hv, rfl, hne⟩
    exact ⟨⟨v, hv, rfl⟩, hne⟩

/-- Two nodes are unrelated exactly if the answer about some pair on the walk says so. -/
theorem grade_eq_unrelated_iff :
    grade r a b = .unrelated ↔ (differing (tour r a b)).any (isDecisive r) = true := by
  have hoccurs : grade r a b = .unrelated ↔ Occurs r a b .unrelated := grade_eq_iff
  rw [hoccurs, List.any_eq_true]
  constructor
  · rintro ⟨path, c, d, hvisited, hne, hdecisive⟩
    exact ⟨(c.name, d.name), mem_differing_iff.2 ⟨⟨path, c, d⟩, mem_tour_iff.2 hvisited, rfl, hne⟩,
      isDecisive_iff.2 hdecisive⟩
  · rintro ⟨q, hq, hdecisive⟩
    obtain ⟨v, hv, rfl, hne⟩ := mem_differing_iff.1 hq
    exact ⟨v.path, v.left, v.right, mem_tour_iff.1 hv, hne, isDecisive_iff.1 hdecisive⟩

/-- The pairs of different names on a walk: that of the nodes themselves, then those below. -/
theorem differing_tour :
    differing (tour r a b) =
      (if a.name = b.name then [] else [(a.name, b.name)]) ++
        if Matching r a b ∧ a.childIds.length = b.childIds.length then
          (childPairs a b).flatMap fun p => differing (tour r p.1 p.2)
        else [] := by
  have hbelow : differing
        ((childPairs a b).mapIdx fun i p => (tour r p.1 p.2).map (Visit.below i)).flatten =
      (childPairs a b).flatMap fun p => differing (tour r p.1 p.2) := by
    have hnames : ((childPairs a b).mapIdx fun i p =>
          (tour r p.1 p.2).map (Visit.below i)).map (List.map Visit.names) =
        (childPairs a b).map fun p => (tour r p.1 p.2).map Visit.names := by
      apply List.ext_getElem (by simp)
      intro i _ _
      simp [Function.comp_def, Visit.names, Visit.below]
    rw [differing, List.map_flatten, hnames, List.filter_flatten, List.map_map]
    rfl
  have hcons : ∀ (v : Visit) (vs : List Visit), differing (v :: vs) =
      (if v.left.name = v.right.name then [] else [v.names]) ++ differing vs := by
    intro v vs
    by_cases hname : v.left.name = v.right.name <;> simp [differing, Visit.names, hname]
  rw [tour_eq, hcons]
  congr 1
  split_ifs
  · exact hbelow
  · rfl

/-! ### What is asked -/

theorem queries_nameGrade (left right : String) :
    (nameGrade left right).queries r = if left = right then [] else [(left, right)] := by
  by_cases hname : left = right
  · simp [nameGrade, hname, Dialogue.queries]
  · simp only [nameGrade, relateNames, Dialogue.query, hname, if_false, Dialogue.bind_eq,
      Dialogue.bind, Dialogue.queries_bind, Dialogue.queries, List.cons.injEq, true_and]
    rcases r left right with e | relation
    · rfl
    · cases relation <;> rfl

/-- The questions about a list of pairs, if those about each pair are known. -/
theorem queries_aggregate (t : Tally) (pairs : List (Node × Node))
    (h : ∀ p ∈ pairs, (gradePair p.1 p.2).queries r =
      throughFirst (isDecisive r) (differing (tour r p.1 p.2))) :
    (aggregate t (pairs.map fun p => gradePair p.1 p.2)).queries r =
      throughFirst (isDecisive r) (pairs.flatMap fun p => differing (tour r p.1 p.2)) := by
  induction pairs generalizing t with
  | nil => rfl
  | cons p pairs ih =>
    obtain ⟨hfirst, hrest⟩ := List.forall_mem_cons.1 h
    have hgrade : (gradePair p.1 p.2).answer r = grade r p.1 p.2 := rfl
    rw [List.map_cons, aggregate, Dialogue.bind_eq, Dialogue.queries_bind, hfirst, hgrade,
      List.flatMap_cons, throughFirst_append]
    congr 1
    -- the first unrelated pair ends the list, and its last question was decisive
    by_cases hunrelated : grade r p.1 p.2 = .unrelated
    · rw [if_pos (grade_eq_unrelated_iff.1 hunrelated), hunrelated]
      rfl
    · rw [if_neg fun hany => hunrelated (grade_eq_unrelated_iff.2 hany)]
      cases hg : grade r p.1 p.2 with
      | unrelated => exact absurd hg hunrelated
      | _ => exact ih _ hrest

/-- The question about two names comes before those about their children, and is the last one only
if its answer says that the whole is unrelated. -/
theorem throughFirst_names_append (left right : String) (below : List (String × String)) :
    throughFirst (isDecisive r) ((if left = right then [] else [(left, right)]) ++ below) =
      (if left = right then [] else [(left, right)]) ++
        if nameRelation r left right = .unrelated then [] else throughFirst (isDecisive r) below := by
  by_cases hname : left = right
  · simp [hname, nameRelation]
  · have hdecisive : isDecisive r (left, right) = true ↔
        nameRelation r left right = .unrelated := by
      rw [isDecisive, nameRelation, if_neg hname]
      cases r left right <;> simp
    rw [if_neg hname, List.singleton_append, throughFirst]
    by_cases h : nameRelation r left right = .unrelated
    · rw [if_pos h, if_pos (hdecisive.2 h), List.append_nil]
    · rw [if_neg h, if_neg fun hd => h (hdecisive.1 hd), List.singleton_append]

/-- **What one comparison asks.** -/
theorem queries_gradePair (r : Resolver) (a b : Node) :
    (gradePair a b).queries r = throughFirst (isDecisive r) (differing (tour r a b)) := by
  induction hk : a.below using Nat.strong_induction_on generalizing a b with
  | _ k ih =>
    have hpairs := queries_aggregate .none (childPairs a b) fun p hp =>
      ih _ (hk ▸ below_lt_of_mem_childPairs hp) p.1 p.2 rfl
    rw [← List.attach_map_val (f := fun p : Node × Node => gradePair p.1 p.2)] at hpairs
    rw [gradePair, Dialogue.bind_eq, Dialogue.queries_bind, queries_nameGrade, answer_nameGrade,
      differing_tour, throughFirst_names_append]
    congr 1
    simp only [matching_iff]
    by_cases hname : nameRelation r a.name b.name = .equal
    · by_cases hcount : a.childIds.length = b.childIds.length
      · simpa [hname, hcount] using hpairs
      · simp [hname, hcount, throughFirst, Dialogue.note, Dialogue.bind, Dialogue.queries]
    · simp [hname, throughFirst, Dialogue.queries]

/-- **The questions that can matter, in order.** The walk meets the visited pairs in the order of
their paths. A comparison asks about the pairs of different names among them, the left name first,
up to the first answer that makes the whole unrelated. So a resolver that gives the same answers to
these questions is asked the same, and gives the same grade. -/
theorem queries_follow_tour (r : Resolver) (a b : Node) :
    (∀ path c d, ⟨path, c, d⟩ ∈ tour r a b ↔ Visited r a b path c d) ∧
    ((tour r a b).Pairwise fun v w => List.Lex (· < ·) v.path w.path) ∧
    (gradePair a b).queries r = throughFirst (isDecisive r) (differing (tour r a b)) ∧
    ∀ r' : Resolver, (∀ q ∈ (gradePair a b).queries r, r' q.1 q.2 = r q.1 q.2) →
      grade r' a b = grade r a b ∧ (gradePair a b).queries r' = (gradePair a b).queries r :=
  ⟨fun _ _ _ => mem_tour_iff, pairwise_tour r a b, queries_gradePair r a b,
    fun _ h => (gradePair a b).congr_of_queries h⟩

end Asking

end Compare

end TypeGrading
