import TypeGrading.Divergence
import TypeGrading.Proofs.Compare.Differences

/-!
# Explanations

The divergence that explains a comparison is the first difference of the two trees: the descent
takes one child at each level, and the first child below which a difference counts is on the way to
the first one of all.

* `Kind.Counts`: which differences count, given the grade of the whole pair;
* `Reports`: a divergence is the first difference that counts;
* `follows_iff`: the descent follows a child exactly if a difference that counts lies below it;
* `answer_descend_of_differs`, `exists_child_of_descend`: the descent stops at a pair that differs
  itself, and otherwise goes on below the first child that it follows;
* `explain_first_difference`: what an explanation and a strict comparison say.
-/

namespace TypeGrading.Compare

open TypeGrading.Tree

/-- In an unrelated pair only the unrelated differences count, in any other pair all do. -/
def Kind.Counts (whole : Grade) (k : Kind) : Prop := whole = .unrelated → k = .unrelated

/-- The grade of a pair that differs in this way. -/
def Kind.grade : Kind → Grade
  | .leftBroader => .leftBroader
  | .rightBroader => .rightBroader
  | .unrelated => .unrelated
  | .arity => .arityMismatch

/-- The divergence of `a` and `b` is their difference of kind `k` at `c` and `d`, and no difference
that counts lies on a path that comes before it in lexicographic order. -/
structure Reports (r : Resolver) (a b : Node) (v : Divergence) (c d : Node) (k : Kind) : Prop where
  visited : Visited r a b v.path c d
  source : v.source = c.name
  target : v.target = d.name
  grade_eq : v.grade = grade r c d
  holds : k.Holds r c d
  counts : k.Counts (grade r a b)
  first : ∀ path k', Difference r a b path k' → k'.Counts (grade r a b) →
    path = v.path ∨ List.Lex (· < ·) v.path path

/-! ### Which children are followed -/

section Counts

variable {r : Resolver} {a b c d x y : Node} {k : Kind}

/-- A child is followed exactly if a difference lies below it that counts for the whole. -/
theorem follows_iff {whole : Grade} :
    follows whole (grade r x y) = true ↔ ∃ k, Occurs r x y k ∧ k.Counts whole := by
  unfold follows Kind.Counts
  by_cases hwhole : whole = .unrelated
  · simp only [hwhole, if_true, decide_eq_true_eq, forall_const, exists_eq_right]
    exact grade_eq_iff
  · have hidentical : grade r x y = .identical ↔ ∀ k, ¬ Occurs r x y k := grade_eq_iff
    simp [hwhole, hidentical]

/-- A pair that is not identical has a difference that counts. -/
theorem exists_occurs_of_ne_identical (h : grade r a b ≠ .identical) :
    ∃ k, Occurs r a b k ∧ k.Counts (grade r a b) := by
  rw [← follows_iff, follows]
  by_cases hunrelated : grade r a b = .unrelated <;> simp [hunrelated, h]

/-- What is unrelated below a pair of children makes the whole unrelated. -/
theorem grade_of_child_unrelated (hpair : Matching r a b ∧ a.childIds.length = b.childIds.length)
    (hmem : (x, y) ∈ childPairs a b) (h : grade r x y = .unrelated) :
    grade r a b = .unrelated := by
  have hbelow : Occurs r x y .unrelated := grade_eq_iff.1 h
  exact grade_eq_iff.2 (occurs_iff.2 (Or.inr ⟨hpair, (x, y), hmem, hbelow⟩))

/-- A pair that is gone on below differs nowhere itself. -/
theorem not_holds_of_pair (hpair : Matching r a b ∧ a.childIds.length = b.childIds.length) :
    ¬ k.Holds r a b := by
  intro h
  rw [matching_iff] at hpair
  rw [holds_iff] at h
  cases k with
  | arity => exact h.2 hpair.2
  | _ => simp [hpair.1] at h

theorem grade_of_holds (h : k.Holds r c d) : grade r c d = k.grade := by
  rw [holds_iff] at h
  cases k with
  | arity => exact grade_of_counts h.1 h.2
  | _ =>
    simp only at h
    rw [grade_of_names (by rw [h]; decide), h]
    rfl

end Counts

/-! ### One level of the descent -/

section Descent

variable {r : Resolver} {a b x y c d : Node} {g : Grade} {k : Kind} {path : List Nat}

theorem answer_firstPassing {β : Type} (test : Grade → Bool) (otherwise : Dialogue β)
    (pairs : List (Dialogue Grade × (Grade → Dialogue β))) :
    (firstPassing test otherwise pairs).answer r =
      match pairs.find? fun p => test (p.1.answer r) with
      | some p => (p.2 (p.1.answer r)).answer r
      | none => otherwise.answer r := by
  induction pairs with
  | nil => rfl
  | cons p pairs ih =>
    rw [firstPassing, Dialogue.bind_eq, Dialogue.answer_bind, List.find?_cons]
    cases test (p.1.answer r) with
    | true => rfl
    | false => exact ih

/-- The descent stops at a pair whose names differ, and at a mismatch of arity. -/
theorem answer_descend_of_differs
    (h : nameRelation r a.name b.name ≠ .equal ∨ g = .arityMismatch) :
    (descend a b g path).answer r = ⟨a.name, b.name, g, path⟩ := by
  rw [descend, Dialogue.bind_eq, Dialogue.answer_bind, answer_nameGrade]
  rcases h with hname | rfl
  · simp [hname, Dialogue.answer]
  · simp [Dialogue.answer]

/-- Where the names match, the descent goes on below the first child that it follows, if there is
one. -/
theorem exists_child_of_descend (path : List Nat) (hname : nameRelation r a.name b.name = .equal)
    (hg : g ≠ .arityMismatch) (hfollows : ∃ p ∈ childPairs a b, follows g (grade r p.1 p.2)) :
    ∃ (i : Nat) (p : Node × Node), (childPairs a b)[i]? = some p ∧ follows g (grade r p.1 p.2) ∧
      (∀ (j : Nat) (q : Node × Node), j < i → (childPairs a b)[j]? = some q →
        ¬ follows g (grade r q.1 q.2)) ∧
      (descend a b g path).answer r =
        (descend p.1 p.2 (grade r p.1 p.2) (path ++ [i])).answer r := by
  -- the list of the pairs with their positions, and what the descent does at each
  let next (i : Nat) (p : Node × Node) : Dialogue Grade × (Grade → Dialogue Divergence) :=
    (gradePair p.1 p.2, fun g => descend p.1 p.2 g (path ++ [i]))
  have hnext : ((childPairs a b).attach.mapIdx fun i p => next i p.1) =
      (childPairs a b).mapIdx next := by
    apply List.ext_getElem (by simp)
    intro i _ _
    simp
  have hdescend : (descend a b g path).answer r =
      (firstPassing (follows g) (pure ⟨a.name, b.name, g, path⟩)
        ((childPairs a b).mapIdx next)).answer r := by
    rw [descend, Dialogue.bind_eq, Dialogue.answer_bind, answer_nameGrade, ← hnext]
    simp [hname, hg, next]
  rw [hdescend, answer_firstPassing]
  cases hfind : ((childPairs a b).mapIdx next).find? fun p => follows g (p.1.answer r) with
  | none =>
    obtain ⟨p, hp, hfollow⟩ := hfollows
    obtain ⟨i, hi⟩ := List.getElem?_of_mem hp
    have hmem : next i p ∈ (childPairs a b).mapIdx next :=
      List.mem_of_getElem? (i := i) (by simp [hi])
    exact absurd hfollow (List.find?_eq_none.1 hfind _ hmem)
  | some found =>
    obtain ⟨hfollow, i, hi, rfl, hbefore⟩ := List.find?_eq_some_iff_getElem.1 hfind
    have hi' : i < (childPairs a b).length := by simpa using hi
    rw [List.getElem_mapIdx] at hfollow ⊢
    refine ⟨i, (childPairs a b)[i], List.getElem?_eq_getElem hi', hfollow, ?_, rfl⟩
    intro j q hj hq
    obtain ⟨hlen, rfl⟩ := List.getElem?_eq_some_iff.1 hq
    have hskip := hbefore j hj
    rw [List.getElem_mapIdx, Bool.not_eq_true'] at hskip
    exact Bool.eq_false_iff.1 hskip

/-! ### The first difference -/

/-- A pair that does not match, or whose numbers of children differ, is its own only difference. -/
theorem reports_here (hpair : ¬ (Matching r a b ∧ a.childIds.length = b.childIds.length))
    (h : grade r a b ≠ .identical) :
    ∃ k, Reports r a b ⟨a.name, b.name, grade r a b, []⟩ a b k := by
  obtain ⟨k, hoccurs, hcounts⟩ := exists_occurs_of_ne_identical h
  have hk : k.Holds r a b := (occurs_iff.1 hoccurs).resolve_right fun hbelow => hpair hbelow.1
  refine ⟨k, visited_nil_iff.2 ⟨rfl, rfl⟩, rfl, rfl, rfl, hk, hcounts, fun path k' hdiff _ => ?_⟩
  cases path with
  | nil => exact Or.inl rfl
  | cons i path => exact absurd (difference_cons_iff.1 hdiff).1 hpair

/-- What is reported below the first pair of children that is followed is reported for the whole,
one step further. -/
theorem reports_child {i : Nat} {v : Divergence}
    (hpair : Matching r a b ∧ a.childIds.length = b.childIds.length)
    (hchild : (childPairs a b)[i]? = some (x, y)) (hfollow : follows (grade r a b) (grade r x y))
    (hbefore : ∀ (j : Nat) (q : Node × Node), j < i → (childPairs a b)[j]? = some q →
      ¬ follows (grade r a b) (grade r q.1 q.2))
    (h : Reports r x y v c d k) : Reports r a b { v with path := i :: v.path } c d k where
  visited := by
    obtain ⟨hx, hy⟩ := List.getElem?_zip_eq_some.1 hchild
    exact visited_cons_iff.2 ⟨hpair, x, y, hx, hy, h.visited⟩
  source := h.source
  target := h.target
  grade_eq := h.grade_eq
  holds := h.holds
  counts := by
    intro hwhole
    rw [hwhole] at hfollow
    exact h.counts (by simpa [follows] using hfollow)
  first := by
    intro path k' hdiff hcounts
    cases path with
    | nil => exact absurd (difference_nil_iff.1 hdiff) (not_holds_of_pair hpair)
    | cons j path =>
      obtain ⟨-, x', y', hx', hy', hbelow⟩ := difference_cons_iff.1 hdiff
      have hj : (childPairs a b)[j]? = some (x', y') := List.getElem?_zip_eq_some.2 ⟨hx', hy'⟩
      rcases Nat.lt_trichotomy j i with hlt | rfl | hgt
      · exact absurd (follows_iff.2 ⟨k', ⟨path, hbelow⟩, hcounts⟩) (hbefore j _ hlt hj)
      · obtain ⟨rfl, rfl⟩ := Prod.mk.inj (Option.some.inj (hj.symm.trans hchild))
        have hcounts' : k'.Counts (grade r x' y') := fun hunrelated =>
          hcounts (grade_of_child_unrelated hpair (List.mem_of_getElem? hj) hunrelated)
        rcases h.first path k' hbelow hcounts' with rfl | hlex
        · exact Or.inl rfl
        · exact Or.inr (List.Lex.cons hlex)
      · exact Or.inr (List.Lex.rel hgt)

/-- **The descent reports the first difference.** -/
theorem answer_descend (h : grade r a b ≠ .identical) (path : List Nat) :
    ∃ v c d k, Reports r a b v c d k ∧
      (descend a b (grade r a b) path).answer r = { v with path := path ++ v.path } := by
  induction hbelow : a.below using Nat.strong_induction_on generalizing a b path with
  | _ n ih =>
    by_cases hpair : Matching r a b ∧ a.childIds.length = b.childIds.length
    · have hname := matching_iff.1 hpair.1
      have hroot : grade r a b ≠ .arityMismatch := fun harity =>
        (difference_nil_iff.1 (grade_eq_iff.1 harity).2).2 hpair.2
      have hfollows : ∃ p ∈ childPairs a b, follows (grade r a b) (grade r p.1 p.2) := by
        obtain ⟨k, hoccurs, hcounts⟩ := exists_occurs_of_ne_identical h
        obtain ⟨-, p, hp, hbelow'⟩ := (occurs_iff.1 hoccurs).resolve_left (not_holds_of_pair hpair)
        exact ⟨p, hp, follows_iff.2 ⟨k, hbelow', hcounts⟩⟩
      obtain ⟨i, ⟨x, y⟩, hp, hfollow, hbefore, hdescend⟩ :=
        exists_child_of_descend path hname hroot hfollows
      have hmem := List.mem_of_getElem? hp
      have hchild : grade r x y ≠ .identical := by
        obtain ⟨k, hoccurs, -⟩ := follows_iff.1 hfollow
        exact fun hidentical => grade_eq_iff.1 hidentical k hoccurs
      obtain ⟨v, c, d, k, hreports, hanswer⟩ := ih _ (hbelow ▸ below_lt_of_mem_childPairs hmem)
        hchild (path ++ [i]) rfl
      refine ⟨_, c, d, k, reports_child hpair hp hfollow hbefore hreports, ?_⟩
      rw [hdescend, hanswer, List.append_assoc, List.singleton_append]
    · obtain ⟨k, hk⟩ := reports_here hpair h
      refine ⟨_, a, b, k, hk, ?_⟩
      rw [answer_descend_of_differs, List.append_nil]
      rw [matching_iff, not_and_or] at hpair
      by_cases hname : nameRelation r a.name b.name = .equal
      · exact Or.inr (grade_of_counts hname (hpair.resolve_left (not_not.2 hname)))
      · exact Or.inl hname

end Descent

/-! ### What a comparison says -/

theorem answer_explain (r : Resolver) (a b : Node) :
    (explain a b).answer r =
      if grade r a b = .identical then none
      else some ((descend a b (grade r a b) []).answer r) := by
  have hgrade : (gradePair a b).answer r = grade r a b := rfl
  rw [explain, Dialogue.bind_eq, Dialogue.answer_bind, hgrade]
  by_cases h : grade r a b = .identical
  · rw [if_pos h, if_pos h]
    rfl
  · rw [if_neg h, if_neg h]
    exact Dialogue.answer_bind r (descend a b (grade r a b) []) (.done ∘ some)

theorem answer_strict (r : Resolver) (a b : Node) :
    (strict a (some b)).answer r =
      if grade r a b = .identical then .ok ()
      else .error (.mismatch a.name b.name (grade r a b) ((explain a b).answer r)) := by
  have hgrade : (gradePair a b).answer r = grade r a b := rfl
  rw [strict, Dialogue.bind_eq, Dialogue.answer_bind, hgrade]
  by_cases h : grade r a b = .identical
  · rw [if_pos h, if_pos h]
    rfl
  · rw [if_neg h, if_neg h]
    exact Dialogue.answer_bind r (explain a b) _

/-- **Explanations report the first difference.** Two nodes are explained, and fail a strict
comparison, exactly if they are not identical. The explanation then is the first difference on any
visited path, among the unrelated ones if the nodes are unrelated; its grade is that of the pair it
reports, neither identical nor conflicting; and the failure names the nodes, their grade and that
explanation. -/
theorem explain_first_difference (r : Resolver) (a b : Node) :
    ((explain a b).answer r = none ↔ grade r a b = .identical) ∧
    ((strict a (some b)).answer r = .ok () ↔ grade r a b = .identical) ∧
    (grade r a b = .identical ∨ ∃ v c d k, (explain a b).answer r = some v ∧
      (strict a (some b)).answer r =
        .error (.mismatch a.name b.name (grade r a b) (some v)) ∧
      Reports r a b v c d k ∧ v.grade ≠ .identical ∧ v.grade ≠ .conflicting) := by
  rw [answer_strict, answer_explain]
  by_cases h : grade r a b = .identical
  · simp [h]
  · obtain ⟨v, c, d, k, hreports, hdescend⟩ := answer_descend h []
    rw [List.nil_append] at hdescend
    have hgrade : v.grade = k.grade := hreports.grade_eq.trans (grade_of_holds hreports.holds)
    simp only [h, if_false, hdescend]
    refine ⟨by simp, by simp, Or.inr ⟨v, c, d, k, rfl, rfl, hreports, ?_, ?_⟩⟩
    · rw [hgrade]; cases k <;> decide
    · rw [hgrade]; cases k <;> decide

end TypeGrading.Compare
