import Mathlib.Combinatorics.Enumerative.DyckWord
import TypeGrading.Proofs.Descriptor.Viability

/-!
# Closing brackets without an opening one

A descriptor is refused for a `>` that closes nothing if what stands before the `>` is a whole
descriptor, or only blanks.

* `brackets`, `Matched`: the angle brackets of a text as steps of a Dyck path, and that they match;
* `Phrase.matched_text`: the brackets of a descriptor match;
* `run_outside_iff`: the reader stands outside of every list exactly after a whole descriptor;
* `unexpectedClose_iff`: where such a descriptor is refused, and which offset is told.
-/

namespace TypeGrading.Descriptor

open TypeGrading.Tree

/-! ### Matching brackets -/

/-- The step that a character is in the path of the brackets of a text. -/
def bracket? (c : Char) : Option DyckStep :=
  if c = '<' then some .U else if c = '>' then some .D else none

/-- The angle brackets of a text in order, `<` as a step up and `>` as a step down. -/
def brackets (t : List Char) : List DyckStep := t.filterMap bracket?

/-- Every `<` of the text is closed by a `>` behind it, and every `>` closes a `<` before it. -/
def Matched (t : List Char) : Prop := ∃ w : DyckWord, w.toList = brackets t

theorem brackets_append (s t : List Char) : brackets (s ++ t) = brackets s ++ brackets t :=
  List.filterMap_append

theorem brackets_of_plain {t : List Char} (ht : ∀ c ∈ t, ¬ isDelimiter c) : brackets t = [] := by
  rw [brackets, List.filterMap_eq_nil_iff]
  intro c hc
  have hplain := ht c hc
  simp only [isDelimiter, Bool.or_eq_true, beq_iff_eq, not_or] at hplain
  simp [bracket?, hplain]

theorem matched_of_plain {t : List Char} (ht : ∀ c ∈ t, ¬ isDelimiter c) : Matched t :=
  ⟨0, (brackets_of_plain ht).symm⟩

theorem matched_of_isBlank {t : List Char} (ht : Text.IsBlank t) : Matched t :=
  matched_of_plain fun c hc => Reader.not_isDelimiter_of_isBlank (ht c hc)

theorem Matched.append {s t : List Char} (hs : Matched s) (ht : Matched t) : Matched (s ++ t) := by
  obtain ⟨v, hv⟩ := hs
  obtain ⟨w, hw⟩ := ht
  refine ⟨v + w, ?_⟩
  rw [brackets_append, ← hv, ← hw]
  rfl

/-- A text with matching brackets may stand between brackets. -/
theorem Matched.between {t : List Char} (ht : Matched t) : Matched ('<' :: (t ++ ['>'])) := by
  obtain ⟨w, hw⟩ := ht
  refine ⟨w.nest, ?_⟩
  have hopen : brackets ['<'] = [.U] := rfl
  have hclose : brackets ['>'] = [.D] := rfl
  rw [← List.singleton_append, brackets_append, brackets_append, hopen, hclose, ← hw]
  rfl

namespace Phrase

theorem matched_others {ps : List Phrase} (hps : ∀ p ∈ ps, Matched p.text) :
    Matched (others ps) := by
  induction ps with
  | nil => exact matched_of_plain (by simp [others])
  | cons p ps ih =>
    have hcomma : Matched [','] := ⟨0, rfl⟩
    have hrest := ih fun q hq => hps q (List.mem_cons_of_mem p hq)
    rw [others_cons]
    exact hcomma.append ((hps p List.mem_cons_self).append hrest)

/-- **The brackets of a descriptor match.** -/
theorem matched_text (p : Phrase) : Matched p.text := by
  induction p with
  | segment seg =>
    rw [text]
    exact matched_of_plain seg.plain
  | list seg first ps gap ihf iho =>
    have hlist : seg.chars ++ '<' :: (first.text ++ (others ps ++ '>' :: gap.chars)) =
        seg.chars ++ ('<' :: ((first.text ++ others ps) ++ ['>']) ++ gap.chars) := by simp
    rw [text_list, hlist]
    exact (matched_of_plain seg.plain).append
      ((ihf.append (matched_others iho)).between.append (matched_of_isBlank gap.blank))

end Phrase

/-! ### A bracket that closes nothing -/

/-- The reader stands behind a whole type and outside of every list exactly after the text of a
descriptor. -/
theorem run_outside_iff {t : List Char} :
    (∃ r, (Reader.start Arena.empty none).run t = .ok r ∧ ¬ AwaitsName t ∧ unmatched t = []) ↔
      ∃ tree, parse (String.ofList t) = .ok tree := by
  constructor
  · rintro ⟨r, hrun, hnamed, hnil⟩
    have h := Reader.located_run hrun
    obtain ⟨p, htext, hnest⟩ := Reader.exists_closing (Reader.unfinished_run hrun)
      fun start reversed hphase hblank =>
        hnamed (h.awaitsName_iff.2 ⟨start, reversed, hphase, hblank⟩)
    rw [h.opened_eq_nil_iff.2 hnil, List.length_nil, List.replicate_zero, List.append_nil] at htext
    exact ⟨_, parse_phrase (by rw [String.toList_ofList, htext]) hnest⟩
  · rintro ⟨tree, hparse⟩
    obtain ⟨p, htext, hnest, -⟩ := parse_eq_ok_iff.1 hparse
    rw [String.toList_ofList] at htext
    obtain ⟨r, b, hrun, hr, -⟩ := Reader.run_phrase p (Reader.start Arena.empty none) 0 rfl
      (by simpa [Reader.start] using hnest) ⟨rfl, hnest⟩
    rw [htext] at hrun
    have h := Reader.located_run hrun
    refine ⟨r, hrun, ?_, h.opened_eq_nil_iff.1 hr.opened_eq⟩
    intro hawaits
    obtain ⟨start, reversed, hphase, hblank⟩ := h.awaitsName_iff.1 hawaits
    exact Reader.not_isBlank_of_endName (hr.endName_eq none) start reversed hphase hblank

/-- Blanks are read to their end. -/
theorem exists_run_of_isBlank {t : List Char} (ht : Text.IsBlank t) :
    ∃ r, (Reader.start Arena.empty none).run t = .ok r :=
  ⟨_, Reader.run_plain rfl fun c hc => Reader.not_isDelimiter_of_isBlank (ht c hc)⟩

/-- The reader stops at a `>` that closes nothing: behind nothing but blanks, which it tells at the
start of the text, or behind a whole descriptor. -/
theorem run_unexpectedClose_iff {t : List Char} {offset : Nat} :
    (∃ r, (Reader.start Arena.empty none).run t = .ok r ∧
        Faults (r.step '>') (.malformed offset .unexpectedClose)) ↔
      (Text.IsBlank t ∧ offset = 0) ∨
        ((∃ tree, parse (String.ofList t) = .ok tree) ∧ offset = Text.byteLength t) := by
  constructor
  · rintro ⟨r, hrun, hstep⟩
    have h := Reader.located_run hrun
    cases (Reader.step_faults_iff_violation hrun).1 hstep with
    | closeWithoutName _ hawaits hnil => exact Or.inl ⟨h.isBlank_iff.2 ⟨hawaits, hnil⟩, rfl⟩
    | closeOutside _ hnamed hnil => exact Or.inr ⟨run_outside_iff.1 ⟨r, hrun, hnamed, hnil⟩, rfl⟩
  · rintro (⟨hblank, rfl⟩ | ⟨hparse, rfl⟩)
    · obtain ⟨r, hrun⟩ := exists_run_of_isBlank hblank
      obtain ⟨hawaits, hnil⟩ := (Reader.located_run hrun).isBlank_iff.1 hblank
      refine ⟨r, hrun, (Reader.step_faults_iff_violation hrun).2 ?_⟩
      exact .closeWithoutName rfl hawaits hnil
    · obtain ⟨r, hrun, hnamed, hnil⟩ := run_outside_iff.2 hparse
      refine ⟨r, hrun, (Reader.step_faults_iff_violation hrun).2 ?_⟩
      exact .closeOutside rfl hnamed hnil

/-- Only a `>` is refused for closing nothing. -/
theorem exists_close_of_faults {t : List Char} {offset : Nat}
    (h : Faults ((Reader.start Arena.empty none).run t >>= Reader.finish)
      (.malformed offset .unexpectedClose)) :
    ∃ front rest r, t = front ++ '>' :: rest ∧ (Reader.start Arena.empty none).run front = .ok r ∧
      Faults (r.step '>') (.malformed offset .unexpectedClose) := by
  rcases faults_bind.1 h with hrun | ⟨r, hrun, hfinish⟩
  · obtain ⟨front, c, rest, r, htext, hfront, hstep⟩ := Reader.run_faults_iff.1 hrun
    obtain rfl : c = '>' := by
      cases (Reader.step_faults_iff_violation hfront).1 hstep with
      | closeWithoutName hc | closeOutside hc => exact hc
    exact ⟨front, rest, r, htext, hfront, hstep⟩
  · cases (Reader.finish_faults_iff_tooShort hrun).1 hfinish

/-- **A closing bracket that closes nothing.** A descriptor is refused for one exactly if a `>`
stands behind blanks only or behind a whole descriptor. All brackets before that `>` match. The
offset told is that of the `>`, except behind blanks, where it is 0, the offset of the first
blank. -/
theorem unexpectedClose_iff (descriptor : String) (offset : Nat) :
    parse descriptor = .error ⟨descriptor, .malformed offset .unexpectedClose⟩ ↔
      ∃ front rest, descriptor.toList = front ++ '>' :: rest ∧ Matched front ∧
        ((Text.IsBlank front ∧ offset = 0) ∨
          ((∃ tree, parse (String.ofList front) = .ok tree) ∧
            offset = Text.byteLength front)) := by
  rw [parse_eq_error_iff]
  constructor
  · rintro ⟨-, hfaults⟩
    obtain ⟨front, rest, r, htext, hrun, hstep⟩ := exists_close_of_faults hfaults
    have hcause := run_unexpectedClose_iff.1 ⟨r, hrun, hstep⟩
    refine ⟨front, rest, htext, ?_, hcause⟩
    rcases hcause with ⟨hblank, -⟩ | ⟨⟨tree, hparse⟩, -⟩
    · exact matched_of_isBlank hblank
    · obtain ⟨p, hp, -⟩ := parse_eq_ok_iff.1 hparse
      rw [String.toList_ofList] at hp
      exact hp ▸ p.matched_text
  · rintro ⟨front, rest, htext, -, hcause⟩
    obtain ⟨r, hrun, hstep⟩ := run_unexpectedClose_iff.2 hcause
    refine ⟨rfl, faults_bind.2 (Or.inl ?_)⟩
    exact Reader.run_faults_iff.2 ⟨front, '>', rest, r, htext, hrun, hstep⟩

/-- Behind a blank the offset told is that of the blank, and no `>` stands there. -/
theorem not_close_at_unexpectedClose :
    parse " >" = .error ⟨" >", .malformed 0 .unexpectedClose⟩ ∧
      ¬ ∃ front rest, " >".toList = front ++ '>' :: rest ∧ Text.byteLength front = 0 := by
  refine ⟨by decide, ?_⟩
  rintro ⟨front, rest, htext, hlength⟩
  cases front with
  | nil => cases htext
  | cons c front =>
    rw [Text.byteLength_cons] at hlength
    have := c.utf8Size_pos
    omega

end TypeGrading.Descriptor
