import TypeGrading.Proofs.Descriptor.Acceptance
import TypeGrading.Proofs.Descriptor.Edits
import TypeGrading.Proofs.Tree.Depths

/-!
# Printing and parsing again

The canonical text of a tree is a descriptor, and parsing it gives the tree back, up to the blanks
around its names.

* `printedOthers`: a list of parameters after the first one as it is printed;
* `exists_phrase_canonical`: a canonical text is that of a phrase for the trimmed expression;
* `trimmed_expr`: the names that parsing gives are trimmed already;
* `parse_canonical`: what parsing the canonical text of a tree gives.
-/

namespace TypeGrading.Descriptor

open TypeGrading.Tree

/-! ### Segments for names -/

/-- A name with blanks in front as a segment. -/
def Segment.ofName {name : String} (h : IsName name) (lead : List Char)
    (hlead : Text.IsBlank lead) : Segment where
  chars := lead ++ name.toList
  not_blank := fun hblank => h.1 fun c hc => hblank c (List.mem_append_right _ hc)
  plain := by
    intro c hc
    rcases List.mem_append.1 hc with hc | hc
    · exact Reader.not_isDelimiter_of_isBlank (hlead c hc)
    · exact h.2 c hc

theorem Segment.name_ofName {name : String} (h : IsName name) (lead : List Char)
    (hlead : Text.IsBlank lead) :
    (Segment.ofName h lead hlead).name = String.ofList (Text.trim name.toList) := by
  rw [Segment.name, Segment.ofName, Text.trim_append_of_blank hlead]

/-! ### Canonical texts -/

theorem toList_intercalate_cons (s : String) (ss : List String) :
    (", ".intercalate (s :: ss)).toList =
      s.toList ++ (ss.map fun t => ',' :: ' ' :: t.toList).flatten := by
  induction ss generalizing s with
  | nil => simp
  | cons t ss ih =>
    rw [String.intercalate_cons_of_ne_nil (by simp), String.toList_append, String.toList_append, ih]
    simp

/-- The parameters after the first one as they are printed, each with its comma and blank. -/
def printedOthers (params : List TypeExpr) : List Char :=
  (params.map fun e => ',' :: ' ' :: e.canonical.toList).flatten

theorem printedOthers_cons (e : TypeExpr) (params : List TypeExpr) :
    printedOthers (e :: params) = ',' :: ' ' :: (e.canonical.toList ++ printedOthers params) := by
  simp [printedOthers]

theorem toList_canonical_leaf (name : String) :
    (TypeExpr.app name []).canonical.toList = name.toList := by
  simp [TypeExpr.canonical]

theorem toList_canonical_cons (name : String) (first : TypeExpr) (rest : List TypeExpr) :
    (TypeExpr.app name (first :: rest)).canonical.toList =
      name.toList ++ '<' :: (first.canonical.toList ++ (printedOthers rest ++ ['>'])) := by
  rw [TypeExpr.canonical, List.map_cons, List.isEmpty_cons, if_neg Bool.false_ne_true]
  simp only [String.toList_append, toList_intercalate_cons]
  simp [printedOthers, Function.comp_def]

/-! ### Phrases for canonical texts -/

theorem isBlank_space : Text.IsBlank [' '] := by decide

/-- Phrases for the parameters after the first one, which a comma and a blank stand in front of. -/
theorem exists_others_printed {params : List TypeExpr}
    (h : ∀ e ∈ params, ∃ p : Phrase, p.text = [' '] ++ e.canonical.toList ∧ p.expr = e.trimmed) :
    ∃ ps : List Phrase, Phrase.others ps = printedOthers params ∧
      ps.map Phrase.expr = params.map TypeExpr.trimmed := by
  induction params with
  | nil => exact ⟨[], rfl, rfl⟩
  | cons e params ih =>
    obtain ⟨p, hp, hpe⟩ := h e (by simp)
    obtain ⟨ps, hps, hpse⟩ := ih fun d hd => h d (by simp [hd])
    refine ⟨p :: ps, ?_, ?_⟩
    · rw [Phrase.others_cons, hp, hps, printedOthers_cons]
      simp
    · rw [List.map_cons, List.map_cons, hpe, hpse]

/-- **Canonical texts are descriptors.** With any blanks in front, the canonical text of an
expression is that of a phrase for the trimmed expression. -/
theorem exists_phrase_canonical {e : TypeExpr} (he : e.All IsName) (lead : List Char)
    (hlead : Text.IsBlank lead) :
    ∃ p : Phrase, p.text = lead ++ e.canonical.toList ∧ p.expr = e.trimmed := by
  induction e generalizing lead with
  | app name params ih =>
    obtain ⟨hname, hparams⟩ := he
    cases params with
    | nil =>
      refine ⟨.segment (Segment.ofName hname lead hlead), ?_, ?_⟩
      · simp [Phrase.text, Segment.ofName, TypeExpr.canonical]
      · rw [Phrase.expr, Segment.name_ofName, TypeExpr.trimmed_app, List.map_nil]
    | cons first rest =>
      -- the first parameter follows `<` at once, the others a comma and a blank
      obtain ⟨p, hp, hpe⟩ := ih first (by simp) (hparams first (by simp)) [] Text.isBlank_nil
      have hrest : ∀ e ∈ rest, ∃ q : Phrase, q.text = [' '] ++ e.canonical.toList ∧
          q.expr = e.trimmed := fun e he =>
        ih e (by simp [he]) (hparams e (by simp [he])) [' '] isBlank_space
      obtain ⟨ps, hps, hpse⟩ := exists_others_printed hrest
      refine ⟨.list (Segment.ofName hname lead hlead) p ps Gap.empty, ?_, ?_⟩
      · rw [Phrase.text_list, hp, hps, toList_canonical_cons]
        simp [Segment.ofName, Gap.empty]
      · rw [Phrase.expr, Segment.name_ofName, TypeExpr.trimmed_app, hpe, hpse, List.map_cons]

/-- The names of a phrase are trimmed already. -/
theorem trimmed_expr (p : Phrase) : p.expr.trimmed = p.expr := by
  have hname : ∀ seg : Segment, String.ofList (Text.trim seg.name.toList) = seg.name := by
    intro seg
    rw [Segment.name, String.toList_ofList, Text.trim_trim]
  induction p with
  | segment seg => rw [Phrase.expr, TypeExpr.trimmed_app, hname, List.map_nil]
  | list seg first others gap ihf iho =>
    rw [Phrase.expr, TypeExpr.trimmed_app, hname, List.map_cons, ihf, List.map_map]
    congr 2
    exact List.map_congr_left fun p hp => iho p hp

/-- **Printing and parsing again.** The canonical text of a tree parses; the expression of the
result is that of the tree with the blanks around every name cut off; and a tree that came from
parsing is given back as it is, record by record. -/
theorem parse_canonical {t : TypeTree} (h : Obtained t) :
    ∃ u, parse t.canonical = .ok u ∧ u.root.toExpr = t.root.toExpr.trimmed ∧
      ∀ descriptor, parse descriptor = .ok t → u = t := by
  have hw := h.built.wellFormed
  obtain ⟨p, htext, hexpr⟩ := exists_phrase_canonical (Node.all_isName_toExpr (n := t.root) hw) []
    Text.isBlank_nil
  rw [List.nil_append, Node.canonical_toExpr] at htext
  have hnest : p.nesting ≤ maxNesting := by
    have := Node.height_toExpr_add_depth_le (n := t.root) hw
    rw [← Phrase.height_expr, hexpr, TypeExpr.height_trimmed]
    exact (Nat.le_add_right _ _).trans this
  refine ⟨_, parse_phrase htext hnest, by rw [TypeTree.toExpr_ofExpr, hexpr], ?_⟩
  -- a parsed tree is the one grown from its expression, so equal expressions are enough
  intro descriptor hparse
  obtain ⟨q, -, -, rfl⟩ := parse_eq_ok_iff.1 hparse
  rw [hexpr, TypeTree.toExpr_ofExpr, trimmed_expr]

/-- Two names with blanks around them. -/
def paddedExpr : TypeExpr := .app " A " [.app "B " []]

theorem ofExpr_paddedExpr :
    TypeTree.ofExpr paddedExpr = (TypeTree.single " A ").grow (TypeTree.single "B ") := by
  have h := TypeTree.ofExpr_append_singleton " A " [] (.app "B " [])
  rwa [List.nil_append, TypeTree.ofExpr_leaf, TypeTree.ofExpr_leaf] at h

theorem obtained_paddedExpr : Obtained (TypeTree.ofExpr paddedExpr) := by
  have hedits : Built
      (Edit.perform (Edit.perform Arena.empty (.addRoot " A ")).2 (.add 0 "B ")).2 :=
    (Built.empty.perform_plain rfl).perform_plain rfl
  have harena : (Edit.perform (Edit.perform Arena.empty (.addRoot " A ")).2 (.add 0 "B ")).2 =
      (TypeTree.ofExpr paddedExpr).arena := by
    rw [ofExpr_paddedExpr]
    decide +kernel
  refine Obtained.build (harena ▸ hedits) ?_
  simp [Arena.build, (TypeTree.ofExpr paddedExpr).rooted]

theorem parse_canonical_paddedExpr :
    ∃ u, parse " A <B >" = .ok u ∧ u.root.toExpr = .app "A" [.app "B" []] := by
  obtain ⟨u, hparse, hexpr, -⟩ := parse_canonical obtained_paddedExpr
  have htext : (TypeTree.ofExpr paddedExpr).canonical = " A <B >" := by
    rw [TypeTree.canonical, ← Node.canonical_toExpr, TypeTree.toExpr_ofExpr, paddedExpr]
    simp only [TypeExpr.canonical, List.isEmpty_cons, List.isEmpty_nil, List.map_cons, List.map_nil]
    decide
  have htrim : paddedExpr.trimmed = .app "A" [.app "B" []] := by
    rw [paddedExpr, TypeExpr.trimmed_app, List.map_singleton, TypeExpr.trimmed_app]
    rfl
  refine ⟨u, htext ▸ hparse, ?_⟩
  rw [hexpr, TypeTree.toExpr_ofExpr, htrim]

end TypeGrading.Descriptor
