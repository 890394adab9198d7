import Mathlib
import TypeGrading.Proofs.Descriptor.RoundTrip
import TypeGrading.Proofs.Tree.Preorder

/-!
# Canonical texts tell trees apart

Two built trees have the same canonical text exactly if they have the same expression, blanks around
names included: of the blanks behind a comma the first belongs to the separator, and the others to
the name. Trees that were parsed are then the same, record by record, because their records lie in
preorder.

* `canonical_append_cancel`, `canonical_inj`: an expression is told from its canonical text;
* `canonical_eq_iff`: equal texts, equal expressions and equal trees.
-/

namespace TypeGrading.Descriptor

open TypeGrading.Tree

/-! ### Printed parameters -/

theorem ends_printedOthers (params : List TypeExpr) (u : List Char) :
    Phrase.Ends (printedOthers params ++ '>' :: u) := by
  intro c hc
  cases params with
  | nil => simp [printedOthers] at hc; simp [← hc]
  | cons e params => simp [printedOthers_cons] at hc; simp [← hc]

/-- The name at the front of a text ends at the first delimiter. -/
theorem name_append_cancel {name name' : String} {s t : List Char} (hname : IsName name)
    (hname' : IsName name') (hs : ∀ c ∈ s.head?, ¬ ¬ isDelimiter c)
    (ht : ∀ c ∈ t.head?, ¬ ¬ isDelimiter c) (h : name.toList ++ s = name'.toList ++ t) :
    name = name' ∧ s = t := by
  obtain ⟨hlist, hst⟩ := Phrase.append_cancel_of_forall hname.2 hname'.2 hs ht h
  exact ⟨String.toList_inj.1 hlist, hst⟩

/-- Two printed lists of parameters are the same, if each parameter is told from its text. -/
theorem printedOthers_cancel {params params' : List TypeExpr} {u v : List Char}
    (ih : ∀ e ∈ params, ∀ {f : TypeExpr} {s t : List Char}, f.All IsName → Phrase.Ends s →
      Phrase.Ends t → e.canonical.toList ++ s = f.canonical.toList ++ t → e = f ∧ s = t)
    (hnames : ∀ f ∈ params', f.All IsName)
    (h : printedOthers params ++ '>' :: u = printedOthers params' ++ '>' :: v) :
    params = params' ∧ u = v := by
  induction params generalizing params' with
  | nil =>
    cases params' with
    | nil => simpa [printedOthers] using h
    | cons f params' => simp [printedOthers] at h
  | cons e params ihp =>
    cases params' with
    | nil => simp [printedOthers] at h
    | cons f params' =>
      simp only [printedOthers_cons, List.cons_append, List.append_assoc, List.cons.injEq,
        true_and] at h
      obtain ⟨rfl, htail⟩ := ih e (by simp) (hnames f (by simp)) (ends_printedOthers params u)
        (ends_printedOthers params' v) h
      obtain ⟨rfl, huv⟩ := ihp (fun d hd => ih d (by simp [hd])) (fun d hd => hnames d (by simp [hd]))
        htail
      exact ⟨rfl, huv⟩

/-! ### Expressions from their texts -/

/-- An expression is told from what follows its canonical text inside another one. -/
theorem canonical_append_cancel {e f : TypeExpr} {s t : List Char} (he : e.All IsName)
    (hf : f.All IsName) (hs : Phrase.Ends s) (ht : Phrase.Ends t)
    (h : e.canonical.toList ++ s = f.canonical.toList ++ t) : e = f ∧ s = t := by
  have hopen : ∀ {u : List Char}, ∀ c ∈ ('<' :: u).head?, ¬ ¬ isDelimiter c := by simp [isDelimiter]
  induction e generalizing f s t with
  | app name params ih =>
    obtain ⟨hname, hparams⟩ := he
    obtain ⟨hname', hparams'⟩ := hf
    rename_i name' params'
    -- the outermost name is cut off first; what is left then decides whether parameters follow
    cases params with
    | nil =>
      cases params' with
      | nil =>
        rw [toList_canonical_leaf, toList_canonical_leaf] at h
        obtain ⟨rfl, hst⟩ := name_append_cancel hname hname' (Phrase.not_plain_of_ends hs)
          (Phrase.not_plain_of_ends ht) h
        exact ⟨rfl, hst⟩
      | cons first' rest' =>
        rw [toList_canonical_leaf, toList_canonical_cons, List.append_assoc, List.cons_append] at h
        obtain ⟨-, rfl⟩ := name_append_cancel hname hname' (Phrase.not_plain_of_ends hs) hopen h
        simp [Phrase.Ends] at hs
    | cons first rest =>
      cases params' with
      | nil =>
        rw [toList_canonical_leaf, toList_canonical_cons, List.append_assoc, List.cons_append] at h
        obtain ⟨-, rfl⟩ := name_append_cancel hname hname' hopen (Phrase.not_plain_of_ends ht) h
        simp [Phrase.Ends] at ht
      | cons first' rest' =>
        simp only [toList_canonical_cons, List.append_assoc, List.cons_append, List.nil_append] at h
        obtain ⟨rfl, hlist⟩ := name_append_cancel hname hname' hopen hopen h
        obtain ⟨rfl, hothers⟩ := ih first (by simp) (hparams first (by simp))
          (hparams' first' (by simp)) (ends_printedOthers rest _) (ends_printedOthers rest' _)
          (List.cons.inj hlist).2
        obtain ⟨rfl, hst⟩ := printedOthers_cancel
          (fun e he _ _ _ => ih e (by simp [he]) (hparams e (by simp [he])))
          (fun d hd => hparams' d (by simp [hd])) hothers
        exact ⟨rfl, hst⟩

/-- **An expression is told from its canonical text.** -/
theorem canonical_inj {e f : TypeExpr} (he : e.All IsName) (hf : f.All IsName) :
    e.canonical = f.canonical ↔ e = f := by
  constructor
  · intro h
    have hnil : Phrase.Ends [] := by simp [Phrase.Ends]
    exact (canonical_append_cancel he hf hnil hnil (by rw [h])).1
  · exact congrArg _

/-! ### Equal trees -/

/-- A parsed tree is the one grown from its expression. -/
theorem eq_ofExpr_of_parse {descriptor : String} {t : TypeTree} (h : parse descriptor = .ok t) :
    t = TypeTree.ofExpr t.root.toExpr := by
  obtain ⟨p, -, -, rfl⟩ := parse_eq_ok_iff.1 h
  rw [TypeTree.toExpr_ofExpr]

theorem canonical_eq_canonical_iff {t u : TypeTree} (ht : Obtained t) (hu : Obtained u) :
    t.canonical = u.canonical ↔ t.root.toExpr = u.root.toExpr := by
  rw [TypeTree.canonical, TypeTree.canonical, ← Node.canonical_toExpr, ← Node.canonical_toExpr]
  exact canonical_inj (Node.all_isName_toExpr (n := t.root) ht.built.wellFormed)
    (Node.all_isName_toExpr (n := u.root) hu.built.wellFormed)

theorem toExpr_eq_toExpr_iff_of_parse {left right : String} {t u : TypeTree}
    (ht : parse left = .ok t) (hu : parse right = .ok u) :
    t.root.toExpr = u.root.toExpr ↔ t = u := by
  constructor
  · intro h
    rw [eq_ofExpr_of_parse ht, h, ← eq_ofExpr_of_parse hu]
  · rintro rfl
    rfl

/-- **Texts, expressions and trees.** Two trees have the same canonical text exactly if they have the
same expression, whatever blanks are around their names. If both were parsed, their records lie in
preorder, and the texts are the same exactly if the trees are, record by record. -/
theorem canonical_eq_iff {t u : TypeTree} (ht : Obtained t) (hu : Obtained u) :
    (t.canonical = u.canonical ↔ t.root.toExpr = u.root.toExpr) ∧
    ∀ left right, parse left = .ok t → parse right = .ok u →
      (t.root.toExpr = u.root.toExpr ↔ t = u) ∧ (t.canonical = u.canonical ↔ t = u) ∧
        t.arena.outline = t.root.toExpr.outline 0 ∧
        u.arena.outline = u.root.toExpr.outline 0 := by
  refine ⟨canonical_eq_canonical_iff ht hu, fun left right hleft hright => ?_⟩
  have houtline : ∀ {descriptor : String} {t : TypeTree}, parse descriptor = .ok t →
      t.arena.outline = t.root.toExpr.outline 0 := by
    intro descriptor t h
    conv_lhs => rw [eq_ofExpr_of_parse h]
    exact TypeTree.outline_ofExpr _
  have hsame := toExpr_eq_toExpr_iff_of_parse hleft hright
  exact ⟨hsame, (canonical_eq_canonical_iff ht hu).trans hsame, houtline hleft, houtline hright⟩

theorem canonical_eq_iff_spaced :
    ∃ t u, parse "A<B,C>" = .ok t ∧ parse " A < B , C > " = .ok u ∧
      t.canonical = "A<B, C>" ∧ u.canonical = "A<B, C>" ∧ t = u ∧
        t.arena.outline = [("A", 0), ("B", 1), ("C", 1)] := by
  let e : TypeExpr := .app "A" [.app "B" [], .app "C" []]
  have hparse : parse "A<B,C>" = .ok (TypeTree.ofExpr e) := by cbv
  have hspaced : ∃ u, parse " A < B , C > " = .ok u ∧ u.canonical = "A<B, C>" :=
    ⟨TypeTree.ofExpr e, by cbv, by cbv⟩
  obtain ⟨u, hu, htext⟩ := hspaced
  obtain ⟨-, hparsed⟩ := canonical_eq_iff (.parse hparse) (.parse hu)
  have hcanonical : (TypeTree.ofExpr e).canonical = "A<B, C>" := by cbv
  obtain ⟨-, hsame, houtline, -⟩ := hparsed _ _ hparse hu
  refine ⟨_, u, hparse, hu, hcanonical, htext, hsame.1 (hcanonical.trans htext.symm), ?_⟩
  rw [houtline, TypeTree.toExpr_ofExpr]
  simp [e, TypeExpr.outline]

end TypeGrading.Descriptor
