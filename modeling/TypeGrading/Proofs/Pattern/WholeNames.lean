import Mathlib
import TypeGrading.Proofs.Pattern.Standard
import TypeGrading.Proofs.Tree.Links

/-!
# Whole names

A pattern for names is compiled as a group between the marks for the start and the end. A pattern that
is a regular expression on its own matches whole names in this way. Another one may be accepted as well,
if it closes the group itself and opens another one; it need not match whole names.

* `isMatch_iff_of_read?`: what a pattern matches that is a regular expression on its own;
* `ofText_closesEarly_or_whole`: what a pattern that is accepted matches;
* `follow_chars_iff`: what a sequence of single characters matches;
* `literal_matches_name`: the names that the pattern for a name matches, and the child it finds.

All of it holds of every engine that does what its manual says.
-/

namespace TypeGrading.NamePattern

open Pattern

variable {E : Engine} {M : Manual} {source name : String} {p : NamePattern E}

/-! ### Patterns that are accepted -/

theorem compile_anchored (h : ofText E source = .ok p) :
    E.compile (anchored source) = .ok p.regex := by
  rw [ofText] at h
  rcases hcompile : E.compile (anchored source) with error | regex
  · rw [hcompile] at h
    cases h
  · rw [hcompile] at h
    cases h
    rfl

/-- A group between the marks matches a whole text or nothing. -/
theorem exists_follow_whole_iff {e : M.Expr} {text : List Char} :
    (∃ i j, M.Follow text [.start, .group e, .finish] i j) ↔ M.Matches e text 0 text.length := by
  constructor
  · rintro ⟨_, _, _, ⟨rfl, rfl⟩, _, hmatch, _, ⟨rfl, rfl⟩, -⟩
    exact hmatch
  · exact fun hmatch => ⟨0, text.length, 0, ⟨rfl, rfl⟩, _, hmatch, _, ⟨rfl, rfl⟩, le_rfl, rfl⟩

/-- A pattern that is a regular expression on its own matches the names that have a match of it from
the first character to the last one. -/
theorem isMatch_iff_of_read? (hM : M.Describes E) (h : ofText E source = .ok p) {e : M.Expr}
    (he : M.read? source = some e) (name : String) :
    p.isMatch name = true ↔ M.Matches e name.toList 0 name.toList.length := by
  obtain ⟨e', he', hmatch⟩ := hM.isMatch_iff (compile_anchored h)
  rw [isMatch, hmatch, hM.read?_anchored he he']
  simp only [hM.matches_sequence_iff]
  exact exists_follow_whole_iff

/-- A pattern that is accepted but is no regular expression on its own has one in front of a closing
parenthesis. -/
theorem exists_of_read?_eq_none (hM : M.Describes E) (h : ofText E source = .ok p)
    (hnone : M.read? source = none) :
    ∃ q t, source = q ++ ")" ++ t ∧ (M.read? q).isSome = true := by
  obtain ⟨e', he', -⟩ := hM.isMatch_iff (compile_anchored h)
  rw [anchored, String.append_assoc] at he'
  obtain ⟨q, t, hsplit, hq⟩ := hM.group_closes he'
  have hlists : source.toList ++ Reader.closing = q.toList ++ ')' :: t.toList := by
    simpa [Reader.closing] using congrArg String.toList hsplit
  rcases eq_or_exists_of_append_closing hlists with ⟨hq', -⟩ | ⟨z, hz, -⟩
  · rw [String.toList_inj.1 hq', hnone] at hq
    cases hq
  · exact ⟨q, String.ofList z, String.toList_inj.1 (by simp [hz]), hq⟩

/-- **What a pattern that is accepted matches.** Either it has, behind a regular expression, a closing
parenthesis that closes the group between the marks, and is no regular expression on its own; or it is
a regular expression, and matches the names that have a match of it from the first character to the
last one. -/
theorem ofText_closesEarly_or_whole (hM : M.Describes E) (h : ofText E source = .ok p) :
    (M.read? source = none ∧ (∃ m, E.compile source = .error (.malformed m)) ∧
        ∃ q t, source = q ++ ")" ++ t ∧ (M.read? q).isSome = true) ∨
      ∃ e, M.read? source = some e ∧ ∀ name : String,
        p.isMatch name = true ↔ M.Matches e name.toList 0 name.toList.length := by
  rcases he : M.read? source with _ | e
  · exact .inl ⟨rfl, hM.compile_of_read?_eq_none he, exists_of_read?_eq_none hM h he⟩
  · exact .inr ⟨e, rfl, isMatch_iff_of_read? hM h he⟩

theorem ofText_closesEarly_or_whole_choice :
    ∃ p e, ofText .standard "A|B" = .ok p ∧ standardManual.read? "A|B" = some e ∧
      ∀ name : String,
        p.isMatch name = true ↔ standardManual.Matches e name.toList 0 name.toList.length := by
  have hok : (ofText .standard "A|B").toOption.isSome = true := by cbv
  have hread : (standardManual.read? "A|B").isSome = true := by cbv
  rcases h : ofText .standard "A|B" with error | p
  · rw [h] at hok
    cases hok
  rcases ofText_closesEarly_or_whole describes_standard h with ⟨hnone, -⟩ | ⟨e, he, hmatch⟩
  · rw [hnone] at hread
    cases hread
  · exact ⟨p, e, rfl, he, hmatch⟩

/-- **Not every pattern that is accepted matches whole names only.** One may close the group between
the marks and open another one; the marks then stand in different alternatives. -/
theorem not_spans_of_isMatch_reopened :
    ¬ ∀ (E : Engine) (M : Manual), M.Describes E →
      ∀ (source : String) (p : NamePattern E), ofText E source = .ok p → ∀ name : String,
        p.isMatch name = true →
          ∃ e, M.read? source = some e ∧ M.Matches e name.toList 0 name.toList.length := by
  intro h
  have hmatch : (ofText .standard "A)|(B").map (·.isMatch "Ax") = .ok true := by cbv
  have hread : (standardManual.read? "A)|(B").isSome = false := by cbv
  rcases hp : ofText .standard "A)|(B" with error | p
  · rw [hp] at hmatch
    cases hmatch
  · rw [hp] at hmatch
    obtain ⟨e, he, -⟩ := h _ _ describes_standard _ p hp "Ax" (Except.ok.inj hmatch)
    rw [he] at hread
    cases hread

/-! ### The pattern for a name -/

/-- Single characters match one after the other where the text has them. -/
theorem follow_chars_iff {text cs : List Char} {i j : Nat} :
    M.Follow text (cs.map .char) i j ↔
      i ≤ text.length ∧ j = i + cs.length ∧ cs <+: text.drop i := by
  induction cs generalizing i with
  | nil => exact and_congr_right fun _ => (and_iff_left List.nil_prefix).symm
  | cons c cs ih =>
    simp only [List.map_cons, Manual.Follow, Manual.Spans, ih, List.length_cons]
    constructor
    · rintro ⟨_, ⟨hc, rfl⟩, -, rfl, hcs⟩
      obtain ⟨hi, rfl⟩ := List.getElem?_eq_some_iff.1 hc
      refine ⟨hi.le, by omega, ?_⟩
      rw [List.drop_eq_getElem_cons hi]
      exact (List.prefix_cons_inj _).2 hcs
    · rintro ⟨-, rfl, hcs⟩
      have hi : i < text.length := by
        have := hcs.length_le
        rw [List.length_drop, List.length_cons] at this
        omega
      rw [List.drop_eq_getElem_cons hi, List.cons_prefix_cons] at hcs
      exact ⟨i + 1, ⟨by rw [List.getElem?_eq_getElem hi, hcs.1], rfl⟩, hi, by omega, hcs.2⟩

/-- A whole text is matched if it consists of these characters. -/
theorem follow_chars_whole_iff {text cs : List Char} :
    M.Follow text (cs.map .char) 0 text.length ↔ text = cs := by
  rw [follow_chars_iff, List.drop_zero, Nat.zero_add]
  constructor
  · rintro ⟨-, hlength, hcs⟩
    exact (hcs.eq_of_length hlength.symm).symm
  · rintro rfl
    exact ⟨Nat.zero_le _, rfl, List.prefix_rfl⟩

theorem isMatch_literal (hM : M.Describes E) (h : literal E name = .ok p) (s : String) :
    p.isMatch s = true ↔ s = name := by
  rw [isMatch_iff_of_read? hM h (hM.read?_escape name), hM.matches_sequence_iff,
    follow_chars_whole_iff, String.toList_inj]

/-- **The pattern for a name matches this name and no other one.** So it finds the first child with
the name, and none where no child has it. -/
theorem literal_matches_name (hM : M.Describes E) (h : literal E name = .ok p) :
    (∀ s : String, p.isMatch s = true ↔ s = name) ∧
    ∀ n : Tree.Node,
      (∀ c, n.firstChild p.isMatch = some c ↔ ∃ k : Nat, n.children[k]? = some c ∧
        c.name = name ∧ ∀ j < k, ∀ d, n.children[j]? = some d → d.name ≠ name) ∧
      (n.firstChild p.isMatch = none ↔ ∀ c ∈ n.children, c.name ≠ name) := by
  have hmatch := isMatch_literal hM h
  have hfails (s : String) : p.isMatch s = false ↔ s ≠ name := by
    rw [ne_eq, ← hmatch, Bool.not_eq_true]
  refine ⟨hmatch, fun n => ⟨fun c => ?_, ?_⟩⟩
  · simp only [Tree.Node.firstChild_eq_some_iff, hmatch, hfails]
  · rw [Tree.Node.firstChild, List.find?_eq_none]
    exact forall₂_congr fun c _ => not_congr (hmatch c.name)

theorem literal_matches_name_newline :
    ∃ p, literal .standard "a.b|(\n" = .ok p ∧ p.isMatch "a.b|(\n" = true ∧
      p.isMatch "a.b|(" = false := by
  have hok : (literal .standard "a.b|(\n").toOption.isSome = true := by cbv
  rcases h : literal .standard "a.b|(\n" with error | p
  · rw [h] at hok
    cases hok
  · obtain ⟨hmatch, -⟩ := literal_matches_name describes_standard h
    refine ⟨p, rfl, (hmatch _).2 rfl, ?_⟩
    rw [← Bool.not_eq_true, hmatch]
    decide

end TypeGrading.NamePattern
