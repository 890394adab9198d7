import TypeGrading.Compare.Descriptors
import TypeGrading.Proofs.Cache.Sharing
import TypeGrading.Proofs.Compare.Explanation
import TypeGrading.Proofs.Compare.Layout
import TypeGrading.Proofs.Descriptor.Printing
import TypeGrading.Proofs.Hierarchy.Order

/-!
# Identity

Under a resolver that takes no two names for the same type, two trees are identical exactly if they
have the same expression, and two descriptors exactly if they have the same canonical text.

* `Resolver.Discerning`: no two different names are said to be the same type; `discerning_exact` and
  `discerning_relate`: so it is with no relationships, and over every hierarchy;
* `grade_eq_identical_iff`: identical trees;
* `Session.after`: a cache in use, after a run of requests;
* `identical_iff_same_text`: identical descriptors, with and without a cache.
-/

namespace TypeGrading

open TypeGrading.Tree

/-! ### Resolvers that take no name for another -/

/-- Only equal names are said to be the same type. -/
def Resolver.Discerning (r : Resolver) : Prop :=
  ∀ left right, r left right = .ok .equal → left = right

theorem Resolver.discerning_exact : Resolver.exact.Discerning := by
  intro left right h
  by_contra hne
  simp [Resolver.exact, hne] at h

theorem Hierarchy.discerning_relate (g : Hierarchy) : g.relate.Discerning :=
  fun _ _ h => relate_eq_equal_iff.1 h

namespace Compare

section Levels

variable {r : Resolver} {a b : Node}

theorem matching_iff_of_discerning (hr : r.Discerning) : Matching r a b ↔ a.name = b.name :=
  ⟨fun h => h.elim id (hr a.name b.name), Or.inl⟩

/-- **One level.** Two nodes are identical exactly if their names match, they have as many children,
and these are identical pair by pair. -/
theorem grade_eq_identical_iff_children : grade r a b = .identical ↔
    (Matching r a b ∧ a.childIds.length = b.childIds.length) ∧
      ∀ p ∈ childPairs a b, grade r p.1 p.2 = .identical := by
  have hidentical : ∀ x y, grade r x y = .identical ↔ ∀ k, ¬ Occurs r x y k :=
    fun _ _ => grade_eq_iff
  by_cases hpair : Matching r a b ∧ a.childIds.length = b.childIds.length
  · rw [and_iff_right hpair]
    constructor
    · intro h p hp
      refine (hidentical _ _).2 fun k hk => ?_
      exact (hidentical a b).1 h k (occurs_iff.2 (Or.inr ⟨hpair, p, hp, hk⟩))
    · intro h
      refine (hidentical a b).2 fun k hk => ?_
      obtain ⟨-, p, hp, hbelow⟩ := (occurs_iff.1 hk).resolve_left (not_holds_of_pair hpair)
      exact (hidentical _ _).1 (h p hp) k hbelow
  · refine iff_of_false (fun h => ?_) fun h => hpair h.1
    rw [matching_iff, not_and_or] at hpair
    by_cases hname : nameRelation r a.name b.name = .equal
    · rw [grade_of_counts hname (hpair.resolve_left (not_not.2 hname))] at h
      cases h
    · rw [grade_of_names hname] at h
      cases hrelation : nameRelation r a.name b.name <;> simp_all [Grade.ofRelation]

/-- Two nodes have the same expression exactly if they have the same name, as many children, and
these have the same expression pair by pair. -/
theorem toExpr_eq_iff_children : a.toExpr = b.toExpr ↔
    (a.name = b.name ∧ a.childIds.length = b.childIds.length) ∧
      ∀ p ∈ childPairs a b, p.1.toExpr = p.2.toExpr := by
  rw [Node.toExpr_eq_toExpr_iff, and_assoc, ← List.forall₂_eq_eq_eq, List.forall₂_map_left_iff,
    List.forall₂_map_right_iff, List.forall₂_iff_zip, Node.length_children, Node.length_children,
    Prod.forall]
  rfl

/-- **Identical trees.** -/
theorem grade_eq_identical_iff (hr : r.Discerning) :
    grade r a b = .identical ↔ a.toExpr = b.toExpr := by
  induction a using Node.induct generalizing b with
  | node a ih =>
    rw [grade_eq_identical_iff_children, toExpr_eq_iff_children, matching_iff_of_discerning hr]
    exact and_congr_right fun _ => forall₂_congr fun p hp => ih p.1 (List.of_mem_zip hp).1

/-- A strict comparison passes exactly if the trees are identical. -/
theorem answer_strict_eq_ok_iff :
    (strict a (some b)).answer r = .ok () ↔ grade r a b = .identical := by
  rw [answer_strict]
  by_cases h : grade r a b = .identical <;> simp [h]

/-- Where no relationships are known, no tree is broader than another one. -/
theorem grade_exact (a b : Node) :
    grade .exact a b ≠ .leftBroader ∧ grade .exact a b ≠ .rightBroader := by
  have hanswer : ∀ left right relation, Resolver.exact left right = .ok relation →
      relation = .equal ∨ relation = .unrelated := by
    intro left right relation h
    by_cases hname : left = right
    · simp_all [Resolver.exact]
    · simp_all [Resolver.exact]
  constructor
  · intro h
    obtain ⟨-, -, ⟨path, c, d, -, -, hrelation⟩, -⟩ := grade_eq_iff.1 h
    rcases hanswer _ _ _ hrelation with h | h <;> cases h
  · intro h
    obtain ⟨-, -, ⟨path, c, d, -, -, hrelation⟩, -⟩ := grade_eq_iff.1 h
    rcases hanswer _ _ _ hrelation with h | h <;> cases h

end Levels

end Compare

/-! ### Caches in use -/

/-- The session after a run of requests over an inner resolver. -/
def Session.after (inner : Resolver) (requests : List Request) : Session :=
  requests.foldl (fun s q => (q.perform inner s).2) .start

theorem Session.truthful_after (inner : Resolver) (requests : List Request) :
    (Session.after inner requests).cache.Truthful inner := by
  have hrun : ∀ s : Session, s.cache.Truthful inner →
      (requests.foldl (fun s q => (q.perform inner s).2) s).cache.Truthful inner := by
    induction requests with
    | nil => exact fun _ h => h
    | cons q requests ih => exact fun s h => ih _ (Request.perform_eq_direct h q).2
  exact hrun .start (Cache.truthful_empty inner)

namespace Compare

open Descriptor (parse)

/-! ### Descriptors -/

section Descriptors

variable {left right : String} {t u : TypeTree}

theorem gradeDescriptors_of_parse (ht : parse left = .ok t) (hu : parse right = .ok u)
    (r : Resolver) : gradeDescriptors r left right = .ok (grade r t.root u.root) := by
  rw [gradeDescriptors, ht, hu]
  rfl

theorem matchDescriptors_of_parse (ht : parse left = .ok t) (hu : parse right = .ok u)
    (r : Resolver) : matchDescriptors r left (some right) =
      ((strict t.root (some u.root)).answer r).mapError .mismatch := by
  rw [matchDescriptors, Option.mapM_some, ht, hu]
  rfl

/-- **Identical means the same descriptor.** Take two descriptors that parse, and a resolver that
takes no two names for the same type: the one that knows no relationships, any hierarchy, or another.
Directly or through a cache that was used for anything before, the descriptors are identical, and
pass a strict comparison, exactly if they have the same canonical text. And where no relationships
are known, neither is broader. -/
theorem identical_iff_same_text (ht : parse left = .ok t) (hu : parse right = .ok u) :
    (∀ r : Resolver, r.Discerning →
      (gradeDescriptors r left right = .ok .identical ↔ t.canonical = u.canonical) ∧
      (matchDescriptors r left (some right) = .ok () ↔ t.canonical = u.canonical) ∧
      ∀ requests : List Request,
        (((gradePair t.root u.root).inSession r (.after r requests)).1 = .identical ↔
          t.canonical = u.canonical) ∧
        (((strict t.root (some u.root)).inSession r (.after r requests)).1 = .ok () ↔
          t.canonical = u.canonical)) ∧
    (Resolver.exact.Discerning ∧ ∀ g : Hierarchy, g.relate.Discerning) ∧
    ∃ g, gradeDescriptors .exact left right = .ok g ∧ g ≠ .leftBroader ∧ g ≠ .rightBroader := by
  refine ⟨fun r hr => ?_, ⟨Resolver.discerning_exact, Hierarchy.discerning_relate⟩,
    _, gradeDescriptors_of_parse ht hu .exact, grade_exact t.root u.root⟩
  have hgrade : grade r t.root u.root = .identical ↔ t.canonical = u.canonical :=
    (grade_eq_identical_iff hr).trans
      (Descriptor.canonical_eq_canonical_iff (.parse ht) (.parse hu)).symm
  have hstrict : (strict t.root (some u.root)).answer r = .ok () ↔ t.canonical = u.canonical :=
    answer_strict_eq_ok_iff.trans hgrade
  rw [gradeDescriptors_of_parse ht hu, matchDescriptors_of_parse ht hu, Except.ok.injEq]
  refine ⟨hgrade, ?_, fun requests => ?_⟩
  · rw [← hstrict]
    cases (strict t.root (some u.root)).answer r <;> simp [Except.mapError]
  · have hcache := Session.truthful_after r requests
    rw [(Dialogue.inSession_eq_answer _ hcache).1, (Dialogue.inSession_eq_answer _ hcache).1]
    exact ⟨hgrade, hstrict⟩

theorem identical_iff_same_text_spaced :
    ∃ t u, parse "A<B>" = .ok t ∧ parse " A < B > " = .ok u ∧
      t.canonical = "A<B>" ∧ u.canonical = "A<B>" ∧
      gradeDescriptors (Hierarchy.withRoot "Object").relate "A<B>" " A < B > " = .ok .identical := by
  have hparse : ∃ t, parse "A<B>" = .ok t ∧ t.canonical = "A<B>" := ⟨_, by cbv, by cbv⟩
  have hspaced : ∃ u, parse " A < B > " = .ok u ∧ u.canonical = "A<B>" := ⟨_, by cbv, by cbv⟩
  obtain ⟨t, ht, htext⟩ := hparse
  obtain ⟨u, hu, htext'⟩ := hspaced
  obtain ⟨hresolvers, ⟨-, hdiscerning⟩, -⟩ := identical_iff_same_text ht hu
  obtain ⟨hgrade, -⟩ := hresolvers _ (hdiscerning (Hierarchy.withRoot "Object"))
  exact ⟨t, u, ht, hu, htext, htext', hgrade.2 (htext.trans htext'.symm)⟩

end Descriptors

end Compare

end TypeGrading
