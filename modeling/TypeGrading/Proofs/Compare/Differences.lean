import TypeGrading.Proofs.Compare.Grading
import TypeGrading.Proofs.Tree.Paths

/-!
# Differences

A comparison goes down two trees side by side for as long as names match and the numbers of
children agree. A difference is a place where it stops; the grade of the trees is told from the
kinds of differences there are.

* `Matching`, `Visited`: the names that match, and the paths along which the comparison goes down;
* `Kind`, `Difference`, `Occurs`: the kinds of differences, and where they are;
* `occurs_iff`: a difference lies at the two nodes themselves or below a pair of children;
* `Tells`: what a grade says about the kinds that occur;
* `grade_classifies`: which grade belongs to which kinds.
-/

namespace TypeGrading.Compare

open TypeGrading.Tree

/-! ### Visited paths -/

/-- The names are equal, or the resolver says that they are the same type. -/
def Matching (r : Resolver) (a b : Node) : Prop :=
  a.name = b.name ∨ r a.name b.name = .ok .equal

/-- The path leads from `a` to `c` and from `b` to `d`, through pairs of nodes whose names match
and whose numbers of children agree. -/
def Visited (r : Resolver) (a b : Node) (path : List Nat) (c d : Node) : Prop :=
  a.walk path = .ok c ∧ b.walk path = .ok d ∧
    ∀ front, front <+: path → front ≠ path → ∀ x y, a.walk front = .ok x → b.walk front = .ok y →
      Matching r x y ∧ x.childIds.length = y.childIds.length

/-- The kinds of differences. -/
inductive Kind
  | leftBroader
  | rightBroader
  | unrelated
  | arity
  deriving DecidableEq, Repr

/-- The two nodes differ in this way: the names differ and the resolver gives this answer, a failure
counting as unrelated; or the names match and the numbers of children differ. -/
def Kind.Holds (r : Resolver) (c d : Node) : Kind → Prop
  | .leftBroader => c.name ≠ d.name ∧ r c.name d.name = .ok .leftAncestorOfRight
  | .rightBroader => c.name ≠ d.name ∧ r c.name d.name = .ok .rightAncestorOfLeft
  | .unrelated => c.name ≠ d.name ∧
      (r c.name d.name = .ok .unrelated ∨ ∃ e, r c.name d.name = .error e)
  | .arity => Matching r c d ∧ c.childIds.length ≠ d.childIds.length

/-- There is a difference of this kind at the end of a visited path. -/
def Difference (r : Resolver) (a b : Node) (path : List Nat) (k : Kind) : Prop :=
  ∃ c d, Visited r a b path c d ∧ k.Holds r c d

/-- There is a difference of this kind somewhere. -/
def Occurs (r : Resolver) (a b : Node) (k : Kind) : Prop := ∃ path, Difference r a b path k

section Places

variable {r : Resolver} {a b c d : Node} {k : Kind} {i : Nat} {path : List Nat}

theorem matching_iff : Matching r a b ↔ nameRelation r a.name b.name = .equal := by
  unfold Matching nameRelation
  by_cases hname : a.name = b.name
  · simp [hname]
  · cases r a.name b.name <;> simp [hname]

theorem holds_iff : k.Holds r c d ↔
    match k with
    | .leftBroader => nameRelation r c.name d.name = .leftAncestorOfRight
    | .rightBroader => nameRelation r c.name d.name = .rightAncestorOfLeft
    | .unrelated => nameRelation r c.name d.name = .unrelated
    | .arity => nameRelation r c.name d.name = .equal ∧
        c.childIds.length ≠ d.childIds.length := by
  cases k with
  | arity => simp only [Kind.Holds, matching_iff]
  | _ =>
    unfold Kind.Holds nameRelation
    by_cases hname : c.name = d.name
    · simp [hname]
    · cases r c.name d.name <;> simp [hname]

theorem visited_nil_iff : Visited r a b [] c d ↔ a = c ∧ b = d := by
  unfold Visited
  simp only [Node.walk_nil_eq_ok_iff]
  constructor
  · rintro ⟨hc, hd, -⟩
    exact ⟨hc, hd⟩
  · rintro ⟨hc, hd⟩
    refine ⟨hc, hd, fun front hfront hne => ?_⟩
    exact absurd (List.prefix_nil.1 hfront) hne

/-- A visited path goes down from a pair that matches to a pair of children, and on from there. -/
theorem visited_cons_iff : Visited r a b (i :: path) c d ↔
    (Matching r a b ∧ a.childIds.length = b.childIds.length) ∧
      ∃ x y, a.children[i]? = some x ∧ b.children[i]? = some y ∧ Visited r x y path c d := by
  constructor
  · rintro ⟨hc, hd, hfront⟩
    obtain ⟨x, hx, hxc⟩ := Node.walk_cons_eq_ok_iff.1 hc
    obtain ⟨y, hy, hyd⟩ := Node.walk_cons_eq_ok_iff.1 hd
    refine ⟨hfront [] List.nil_prefix (by simp) a b (by simp) (by simp), x, y, hx, hy, hxc, hyd, ?_⟩
    intro front hpre hne u v hu hv
    refine hfront (i :: front) ((List.prefix_cons_inj i).2 hpre) (by simpa using hne) u v ?_ ?_
    · exact Node.walk_cons_eq_ok_iff.2 ⟨x, hx, hu⟩
    · exact Node.walk_cons_eq_ok_iff.2 ⟨y, hy, hv⟩
  · -- the empty front is the pair itself, a longer one goes on below the pair of children
    rintro ⟨hmatch, x, y, hx, hy, hxc, hyd, hfront⟩
    refine ⟨Node.walk_cons_eq_ok_iff.2 ⟨x, hx, hxc⟩, Node.walk_cons_eq_ok_iff.2 ⟨y, hy, hyd⟩, ?_⟩
    intro front hpre hne u v hu hv
    rcases List.prefix_cons_iff.1 hpre with rfl | ⟨front', rfl, hpre'⟩
    · obtain rfl := Node.walk_nil_eq_ok_iff.1 hu
      obtain rfl := Node.walk_nil_eq_ok_iff.1 hv
      exact hmatch
    · obtain ⟨x', hx', hu'⟩ := Node.walk_cons_eq_ok_iff.1 hu
      obtain ⟨y', hy', hv'⟩ := Node.walk_cons_eq_ok_iff.1 hv
      obtain rfl := Option.some.inj (hx.symm.trans hx')
      obtain rfl := Option.some.inj (hy.symm.trans hy')
      exact hfront front' hpre' (by simpa using hne) u v hu' hv'

theorem difference_nil_iff : Difference r a b [] k ↔ k.Holds r a b := by
  unfold Difference
  simp only [visited_nil_iff]
  constructor
  · rintro ⟨c, d, ⟨rfl, rfl⟩, hk⟩
    exact hk
  · exact fun hk => ⟨a, b, ⟨rfl, rfl⟩, hk⟩

theorem difference_cons_iff : Difference r a b (i :: path) k ↔
    (Matching r a b ∧ a.childIds.length = b.childIds.length) ∧
      ∃ x y, a.children[i]? = some x ∧ b.children[i]? = some y ∧ Difference r x y path k := by
  unfold Difference
  simp only [visited_cons_iff]
  constructor
  · rintro ⟨c, d, ⟨hmatch, x, y, hx, hy, hvisited⟩, hk⟩
    exact ⟨hmatch, x, y, hx, hy, c, d, hvisited, hk⟩
  · rintro ⟨hmatch, x, y, hx, hy, c, d, hvisited, hk⟩
    exact ⟨c, d, ⟨hmatch, x, y, hx, hy, hvisited⟩, hk⟩

/-- **One level.** A difference lies at the two nodes themselves, or they match and it lies below
one of the pairs of their children. -/
theorem occurs_iff : Occurs r a b k ↔ k.Holds r a b ∨
    (Matching r a b ∧ a.childIds.length = b.childIds.length) ∧
      ∃ p ∈ childPairs a b, Occurs r p.1 p.2 k := by
  constructor
  · rintro ⟨path, hpath⟩
    cases path with
    | nil => exact Or.inl (difference_nil_iff.1 hpath)
    | cons i path =>
      obtain ⟨hmatch, x, y, hx, hy, hdiff⟩ := difference_cons_iff.1 hpath
      exact Or.inr ⟨hmatch, (x, y), mem_childPairs_iff.2 ⟨i, hx, hy⟩, path, hdiff⟩
  · rintro (hk | ⟨hmatch, p, hp, path, hdiff⟩)
    · exact ⟨[], difference_nil_iff.2 hk⟩
    · obtain ⟨i, hx, hy⟩ := mem_childPairs_iff.1 hp
      exact ⟨i :: path, difference_cons_iff.2 ⟨hmatch, p.1, p.2, hx, hy, hdiff⟩⟩

end Places

/-! ### What a grade tells -/

/-- What a grade says about the kinds of differences that occur, and about one of arity at the
empty path. -/
def Tells (occurs : Kind → Prop) (atRoot : Prop) : Grade → Prop
  | .identical => ∀ k, ¬ occurs k
  | .unrelated => occurs .unrelated
  | .arityMismatch => ¬ occurs .unrelated ∧ atRoot
  | .conflicting => ¬ occurs .unrelated ∧ ¬ atRoot ∧
      (occurs .arity ∨ occurs .leftBroader ∧ occurs .rightBroader)
  | .leftBroader => ¬ occurs .unrelated ∧ ¬ occurs .arity ∧ occurs .leftBroader ∧
      ¬ occurs .rightBroader
  | .rightBroader => ¬ occurs .unrelated ∧ ¬ occurs .arity ∧ occurs .rightBroader ∧
      ¬ occurs .leftBroader

theorem Tells.not_unrelated {occurs : Kind → Prop} {atRoot : Prop} {g : Grade}
    (h : Tells occurs atRoot g) (hg : g ≠ .unrelated) : ¬ occurs .unrelated := by
  cases g with
  | unrelated => exact absurd rfl hg
  | identical => exact h .unrelated
  | leftBroader => exact h.1
  | rightBroader => exact h.1
  | conflicting => exact h.1
  | arityMismatch => exact h.1

/-- No two grades tell the same. -/
theorem Tells.unique {occurs : Kind → Prop} {atRoot : Prop} (hroot : atRoot → occurs .arity)
    {g g' : Grade} (h : Tells occurs atRoot g) (h' : Tells occurs atRoot g') : g = g' := by
  cases g with
  | identical =>
    have hnone := fun k => eq_false (h k)
    cases g' <;> simp_all [Tells]
  | unrelated =>
    have hu : occurs .unrelated := h
    cases g' <;> simp_all [Tells]
  | leftBroader =>
    obtain ⟨hu, ha, hl, hr⟩ := h
    cases g' <;> simp_all [Tells]
  | rightBroader =>
    obtain ⟨hu, ha, hr, hl⟩ := h
    cases g' <;> simp_all [Tells]
  | conflicting =>
    obtain ⟨hu, hempty, ha | ⟨hl, hr⟩⟩ := h
    · cases g' <;> simp_all [Tells]
    · cases g' <;> simp_all [Tells]
  | arityMismatch =>
    obtain ⟨hu, hempty⟩ := h
    cases g' <;> simp_all [Tells]

section Grades

variable (r : Resolver)

/-- What the grade of a pair is to tell. -/
def Told (p : Node × Node) : Prop :=
  Tells (Occurs r p.1 p.2) (Difference r p.1 p.2 [] .arity) (grade r p.1 p.2)

variable {r} {a b : Node}

/-- Where names differ, they are the only difference. -/
theorem told_of_names (hname : nameRelation r a.name b.name ≠ .equal) : Told r (a, b) := by
  have honly : ∀ k, Occurs r a b k ↔ k.Holds r a b := by
    intro k
    rw [occurs_iff, matching_iff]
    simp [hname]
  unfold Told
  rw [grade_of_names hname]
  simp only [difference_nil_iff]
  cases hrelation : nameRelation r a.name b.name with
  | equal => exact absurd hrelation hname
  | leftAncestorOfRight => simp [Tells, Grade.ofRelation, honly, holds_iff, hrelation]
  | rightAncestorOfLeft => simp [Tells, Grade.ofRelation, honly, holds_iff, hrelation]
  | unrelated => simp [Tells, Grade.ofRelation, honly, holds_iff, hrelation]

/-- Where names match and numbers of children differ, the numbers are the only difference. -/
theorem told_of_counts (hname : nameRelation r a.name b.name = .equal)
    (hcount : a.childIds.length ≠ b.childIds.length) : Told r (a, b) := by
  have honly : ∀ k, Occurs r a b k ↔ k.Holds r a b := by
    intro k
    rw [occurs_iff]
    simp [hcount]
  unfold Told
  rw [grade_of_counts hname hcount]
  simp [Tells, difference_nil_iff, honly, holds_iff, hname, hcount]

/-- A mixed pair has a difference of arity, or differences in both directions. -/
theorem mixed_of_told {p : Node × Node} (h : Told r p)
    (hmixed : grade r p.1 p.2 = .conflicting ∨ grade r p.1 p.2 = .arityMismatch) :
    Occurs r p.1 p.2 .arity ∨ Occurs r p.1 p.2 .leftBroader ∧ Occurs r p.1 p.2 .rightBroader := by
  unfold Told at h
  rcases hmixed with hgrade | hgrade
  · rw [hgrade] at h
    exact h.2.2
  · rw [hgrade] at h
    exact Or.inl ⟨[], h.2⟩

/-- A pair that is neither unrelated nor mixed has no difference of arity, and differences in one
direction at most, which is its grade. -/
theorem directed_of_told {p : Node × Node} (h : Told r p)
    (hgrade : grade r p.1 p.2 ≠ .unrelated)
    (hmixed : ¬ (grade r p.1 p.2 = .conflicting ∨ grade r p.1 p.2 = .arityMismatch)) :
    ¬ Occurs r p.1 p.2 .arity ∧
      (Occurs r p.1 p.2 .leftBroader ↔ grade r p.1 p.2 = .leftBroader) ∧
      (Occurs r p.1 p.2 .rightBroader ↔ grade r p.1 p.2 = .rightBroader) := by
  unfold Told at h
  cases hg : grade r p.1 p.2 with
  | unrelated => exact absurd hg hgrade
  | conflicting => exact absurd (Or.inl hg) hmixed
  | arityMismatch => exact absurd (Or.inr hg) hmixed
  | identical =>
    rw [hg] at h
    simp [h .arity, h .leftBroader, h .rightBroader]
  | leftBroader =>
    rw [hg] at h
    obtain ⟨-, harity, hleft, hright⟩ := h
    simp [harity, hleft, hright]
  | rightBroader =>
    rw [hg] at h
    obtain ⟨-, harity, hright, hleft⟩ := h
    simp [harity, hleft, hright]

/-- The grade counted over pairs tells what occurs below any of them. -/
theorem tells_aggregate {pairs : List (Node × Node)} (h : ∀ p ∈ pairs, Told r p) :
    Tells (fun k => ∃ p ∈ pairs, Occurs r p.1 p.2 k) False
      (if Grade.unrelated ∈ pairs.map fun p => grade r p.1 p.2 then .unrelated
        else ((pairs.map fun p => grade r p.1 p.2).foldl Tally.add .none).grade) := by
  by_cases hunrelated : Grade.unrelated ∈ pairs.map fun p => grade r p.1 p.2
  · obtain ⟨p, hp, hgrade⟩ := List.mem_map.1 hunrelated
    have htold : Told r p := h p hp
    rw [Told, hgrade] at htold
    rw [if_pos hunrelated]
    exact ⟨p, hp, htold⟩
  have hrelated : ∀ p ∈ pairs, grade r p.1 p.2 ≠ .unrelated := fun p hp hgrade =>
    hunrelated (List.mem_map.2 ⟨p, hp, hgrade⟩)
  have hnone : ¬ ∃ p ∈ pairs, Occurs r p.1 p.2 .unrelated := by
    rintro ⟨p, hp, hoccurs⟩
    exact (h p hp).not_unrelated (hrelated p hp) hoccurs
  rw [if_neg hunrelated, Tally.foldl_add_eq]
  by_cases hmixed : ∃ p ∈ pairs, grade r p.1 p.2 = .conflicting ∨ grade r p.1 p.2 = .arityMismatch
  · -- one mixed pair makes the whole mixed
    have hcounted : Grade.conflicting ∈ (pairs.map fun p => grade r p.1 p.2) ∨
        Grade.arityMismatch ∈ pairs.map fun p => grade r p.1 p.2 := by
      obtain ⟨p, hp, hgrade | hgrade⟩ := hmixed
      · exact Or.inl (List.mem_map.2 ⟨p, hp, hgrade⟩)
      · exact Or.inr (List.mem_map.2 ⟨p, hp, hgrade⟩)
    obtain ⟨p, hp, hgrade⟩ := hmixed
    simp only [Tally.grade, Tally.none, hcounted, decide_true, Bool.or_true, Bool.true_or, if_true]
    refine ⟨hnone, not_false, ?_⟩
    rcases mixed_of_told (h p hp) hgrade with harity | ⟨hleft, hright⟩
    · exact Or.inl ⟨p, hp, harity⟩
    · exact Or.inr ⟨⟨p, hp, hleft⟩, ⟨p, hp, hright⟩⟩
  · -- otherwise each pair counts for the one direction in which it differs
    have hcounted : ¬ (Grade.conflicting ∈ (pairs.map fun p => grade r p.1 p.2) ∨
        Grade.arityMismatch ∈ pairs.map fun p => grade r p.1 p.2) := by
      rintro (hmem | hmem)
      · obtain ⟨p, hp, hgrade⟩ := List.mem_map.1 hmem
        exact hmixed ⟨p, hp, Or.inl hgrade⟩
      · obtain ⟨p, hp, hgrade⟩ := List.mem_map.1 hmem
        exact hmixed ⟨p, hp, Or.inr hgrade⟩
    have hdirected := fun p (hp : p ∈ pairs) =>
      directed_of_told (h p hp) (hrelated p hp) fun hgrade => hmixed ⟨p, hp, hgrade⟩
    have harity : ¬ ∃ p ∈ pairs, Occurs r p.1 p.2 .arity := by
      rintro ⟨p, hp, hoccurs⟩
      exact (hdirected p hp).1 hoccurs
    have hleft : Grade.leftBroader ∈ (pairs.map fun p => grade r p.1 p.2) ↔
        ∃ p ∈ pairs, Occurs r p.1 p.2 .leftBroader := by
      rw [List.mem_map]
      exact exists_congr fun p => and_congr_right fun hp => ((hdirected p hp).2.1).symm
    have hright : Grade.rightBroader ∈ (pairs.map fun p => grade r p.1 p.2) ↔
        ∃ p ∈ pairs, Occurs r p.1 p.2 .rightBroader := by
      rw [List.mem_map]
      exact exists_congr fun p => and_congr_right fun hp => ((hdirected p hp).2.2).symm
    simp only [Tally.grade, Tally.none, hcounted, decide_false, Bool.false_or]
    by_cases hl : Grade.leftBroader ∈ pairs.map fun p => grade r p.1 p.2
    · by_cases hr : Grade.rightBroader ∈ pairs.map fun p => grade r p.1 p.2
      · simp only [hl, hr, decide_true, Bool.and_self, if_true]
        exact ⟨hnone, not_false, Or.inr ⟨hleft.1 hl, hright.1 hr⟩⟩
      · simp only [hl, hr, decide_true, decide_false, Bool.and_false, Bool.false_eq_true, if_false,
          if_true]
        exact ⟨hnone, harity, hleft.1 hl, fun h => hr (hright.2 h)⟩
    · by_cases hr : Grade.rightBroader ∈ pairs.map fun p => grade r p.1 p.2
      · simp only [hl, hr, decide_true, decide_false, Bool.false_and, Bool.false_eq_true, if_false,
          if_true]
        exact ⟨hnone, harity, hright.1 hr, fun h => hl (hleft.2 h)⟩
      · simp only [hl, hr, decide_false, Bool.false_and, Bool.false_eq_true, if_false]
        intro k
        cases k with
        | leftBroader => exact fun h => hl (hleft.2 h)
        | rightBroader => exact fun h => hr (hright.2 h)
        | unrelated => exact hnone
        | arity => exact harity

/-- **Every grade tells.** -/
theorem told (a b : Node) : Told r (a, b) := by
  -- the left nodes alone bound the descent
  induction hk : a.below using Nat.strong_induction_on generalizing a b with
  | _ k ih =>
    by_cases hname : nameRelation r a.name b.name = .equal
    · by_cases hcount : a.childIds.length = b.childIds.length
      · have honly : ∀ k, Occurs r a b k ↔ ∃ p ∈ childPairs a b, Occurs r p.1 p.2 k := by
          intro k
          rw [occurs_iff, matching_iff]
          cases k <;> simp [holds_iff, hname, hcount]
        have hroot : ¬ Difference r a b [] .arity := by
          simp [difference_nil_iff, holds_iff, hcount]
        have hkinds : Occurs r a b = fun k => ∃ p ∈ childPairs a b, Occurs r p.1 p.2 k := by
          funext k
          exact propext (honly k)
        unfold Told
        rw [grade_of_children hname hcount, hkinds, eq_false hroot]
        refine tells_aggregate fun p hp => ?_
        exact ih _ (hk ▸ below_lt_of_mem_childPairs hp) p.1 p.2 rfl
      · exact told_of_counts hname hcount
    · exact told_of_names hname

/-- **The grade is what it tells.** A pair has the one grade that tells of its differences. -/
theorem grade_eq_iff {g : Grade} : grade r a b = g ↔
    Tells (Occurs r a b) (Difference r a b [] .arity) g := by
  constructor
  · rintro rfl
    exact told a b
  · exact fun h => Tells.unique (fun hroot => ⟨[], hroot⟩) (told a b) h

/-- **Grades classify differences.** Two nodes are identical if there is no difference; unrelated if
there is an unrelated one; otherwise an arity mismatch if there is one of arity at the empty path;
otherwise conflicting if there is one of arity, or there are some in both directions; and otherwise
broader in the one direction that occurs. -/
theorem grade_classifies (r : Resolver) (a b : Node) :
    (grade r a b = .identical ↔ ∀ path k, ¬ Difference r a b path k) ∧
    (grade r a b = .unrelated ↔ Occurs r a b .unrelated) ∧
    (grade r a b = .arityMismatch ↔
      ¬ Occurs r a b .unrelated ∧ Difference r a b [] .arity) ∧
    (grade r a b = .conflicting ↔
      ¬ Occurs r a b .unrelated ∧ ¬ Difference r a b [] .arity ∧
        (Occurs r a b .arity ∨ Occurs r a b .leftBroader ∧ Occurs r a b .rightBroader)) ∧
    (grade r a b = .leftBroader ↔
      ¬ Occurs r a b .unrelated ∧ ¬ Occurs r a b .arity ∧
        Occurs r a b .leftBroader ∧ ¬ Occurs r a b .rightBroader) ∧
    (grade r a b = .rightBroader ↔
      ¬ Occurs r a b .unrelated ∧ ¬ Occurs r a b .arity ∧
        Occurs r a b .rightBroader ∧ ¬ Occurs r a b .leftBroader) := by
  have hnone : (∀ path k, ¬ Difference r a b path k) ↔ ∀ k, ¬ Occurs r a b k := by
    constructor
    · rintro h k ⟨path, hdiff⟩
      exact h path k hdiff
    · exact fun h path k hdiff => h k ⟨path, hdiff⟩
  refine ⟨?_, grade_eq_iff, grade_eq_iff, grade_eq_iff, grade_eq_iff, grade_eq_iff⟩
  rw [hnone]
  exact grade_eq_iff

end Grades

end TypeGrading.Compare
