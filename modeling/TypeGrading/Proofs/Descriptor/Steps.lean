import Mathlib.Tactic
import TypeGrading.Descriptor.Reader

/-!
# Steps of the reader

What one character does to a reader, once for all properties that a run keeps.

* `Reader.endName_cases`: a type ends after a name, which is added, or after a closed list;
* `Reader.step_cases`: the four ways to take a character;
* `Reader.run_induction`: what every step keeps, a whole run keeps;
* `readUnder_cases`: what every added name keeps holds of the arena that a reader leaves behind,
  accepted or refused.
-/

namespace TypeGrading.Descriptor

open TypeGrading.Tree

namespace Reader

variable {r s : Reader}

theorem endName_cases {next : Option Char} {node : Nat} {b : Arena}
    (h : r.endName next = .ok (node, b)) :
    (r.phase = .closed node ∧ b = r.arena) ∨
    (∃ start reversed, r.phase = .naming start reversed ∧ Text.trim reversed.reverse ≠ [] ∧
      r.arena.addUnder r.owner (String.ofList (Text.trim reversed.reverse)) = .ok (node, b)) := by
  unfold endName at h
  cases hphase : r.phase with
  | closed closed =>
    rw [hphase] at h
    obtain ⟨rfl, rfl⟩ := Prod.mk.inj (Except.ok.inj h)
    exact Or.inl ⟨rfl, rfl⟩
  | naming start reversed =>
    rw [hphase] at h
    simp only at h
    split_ifs at h with hblank
    · cases h
    · refine Or.inr ⟨start, reversed, rfl, hblank, ?_⟩
      split at h
      · rename_i added hadd
        rw [hadd, Except.ok.inj h]
      · cases h

theorem openList_cases (h : r.openList = .ok s) :
    ∃ start reversed node b, r.phase = .naming start reversed ∧
      r.endName (some '<') = .ok (node, b) ∧ r.opened.length + 1 ≤ maxNesting ∧
      s = { r with
        arena := b
        offset := r.offset + 1
        opened := ⟨node, r.offset⟩ :: r.opened
        phase := .naming (r.offset + 1) [] } := by
  unfold openList at h
  cases hphase : r.phase with
  | closed node => rw [hphase] at h; cases h
  | naming start reversed =>
    rw [hphase] at h
    cases hend : r.endName (some '<') with
    | error e => rw [hend] at h; cases h
    | ok added =>
      rw [hend] at h
      by_cases nest : r.opened.length + 1 > maxNesting
      · replace h : (if r.opened.length + 1 > maxNesting then _ else _) = Except.ok s := h
        rw [if_pos nest] at h
        cases h
      · replace h : (if r.opened.length + 1 > maxNesting then _ else _) = Except.ok s := h
        rw [if_neg nest] at h
        exact ⟨start, reversed, added.1, added.2, rfl, rfl, Nat.not_lt.1 nest,
          (Except.ok.inj h).symm⟩

theorem closeList_cases (h : r.closeList = .ok s) :
    ∃ node b l outer, r.endName (some '>') = .ok (node, b) ∧ r.opened = l :: outer ∧
      s = { r with
        arena := b
        offset := r.offset + 1
        opened := outer
        phase := .closed l.owner } := by
  unfold closeList at h
  cases hend : r.endName (some '>') with
  | error e => rw [hend] at h; cases h
  | ok added =>
    rw [hend] at h
    cases hopen : r.opened with
    | nil => rw [hopen] at h; cases h
    | cons l outer =>
      rw [hopen] at h
      exact ⟨added.1, added.2, l, outer, rfl, rfl, (Except.ok.inj h).symm⟩

theorem nextParameter_cases (h : r.nextParameter = .ok s) :
    ∃ node b l outer, r.endName (some ',') = .ok (node, b) ∧ r.opened = l :: outer ∧
      s = { r with
        arena := b
        offset := r.offset + 1
        phase := .naming (r.offset + 1) [] } := by
  unfold nextParameter at h
  cases hend : r.endName (some ',') with
  | error e => rw [hend] at h; cases h
  | ok added =>
    rw [hend] at h
    cases hopen : r.opened with
    | nil => rw [hopen] at h; cases h
    | cons l outer =>
      rw [hopen] at h
      exact ⟨added.1, added.2, l, outer, rfl, rfl, (Except.ok.inj h).symm⟩

theorem takeChar_cases {c : Char} (h : r.takeChar c = .ok s) :
    (∃ start reversed, r.phase = .naming start reversed ∧ s = { r with
      offset := r.offset + c.utf8Size
      phase := .naming start (c :: reversed) }) ∨
    (∃ node, r.phase = .closed node ∧ Text.isBlank c ∧
      s = { r with offset := r.offset + c.utf8Size }) := by
  unfold takeChar at h
  cases hphase : r.phase with
  | naming start reversed =>
    rw [hphase] at h
    exact Or.inl ⟨start, reversed, rfl, (Except.ok.inj h).symm⟩
  | closed node =>
    rw [hphase] at h
    simp only at h
    split_ifs at h with hblank
    · exact Or.inr ⟨node, rfl, hblank, by rw [← Except.ok.inj h]⟩
    · cases h

/-- Every step is one of four: a list opens, a list closes, the next parameter begins, or a
character that is no delimiter is taken. -/
theorem step_cases {c : Char} (h : r.step c = .ok s) :
    (c = '<' ∧ r.openList = .ok s) ∨ (c = '>' ∧ r.closeList = .ok s) ∨
      (c = ',' ∧ r.nextParameter = .ok s) ∨ (¬ isDelimiter c ∧ r.takeChar c = .ok s) := by
  unfold step at h
  split_ifs at h with h₁ h₂ h₃
  · exact Or.inl ⟨h₁, h⟩
  · exact Or.inr (Or.inl ⟨h₂, h⟩)
  · exact Or.inr (Or.inr (Or.inl ⟨h₃, h⟩))
  · exact Or.inr (Or.inr (Or.inr ⟨by simp [isDelimiter, h₁, h₂, h₃], h⟩))

/-- **What every step keeps, a run keeps.** The property may speak of the text taken so far. -/
theorem run_induction {motive : Reader → List Char → Prop} {t u : List Char}
    (hstep : ∀ r s t c, motive r t → r.step c = .ok s → motive s (t ++ [c]))
    (hr : motive r t) (hrun : r.run u = .ok s) : motive s (t ++ u) := by
  induction u generalizing r t with
  | nil =>
    obtain rfl : r = s := Except.ok.inj hrun
    simpa using hr
  | cons c u ih =>
    rw [run, List.foldlM_cons] at hrun
    cases hs : r.step c with
    | error e => rw [hs] at hrun; cases hrun
    | ok q =>
      rw [hs] at hrun
      have := ih (hstep r q t c hr hs) hrun
      rwa [List.append_assoc] at this

end Reader

/-! ### The arena left behind -/

/-- The arena that is left behind: that of the result, or that at the fault. -/
def arenaAfter {α : Type} (arena : α → Arena) : Except Stopped α → Arena
  | .ok x => arena x
  | .error stopped => stopped.arena

theorem arenaAfter_bind {α β : Type} {motive : Arena → Prop} {arena : α → Arena}
    {arena' : β → Arena} {x : Except Stopped α} {f : α → Except Stopped β}
    (hx : motive (arenaAfter arena x))
    (hf : ∀ y, x = .ok y → motive (arena y) → motive (arenaAfter arena' (f y))) :
    motive (arenaAfter arena' (x >>= f)) := by
  cases x with
  | ok y => exact hf y rfl hx
  | error stopped => exact hx

namespace Reader

section Keeps

variable {motive : Arena → Prop} (add : ∀ a parent name id b, motive a →
  a.addUnder parent name = .ok (id, b) → motive b) {r : Reader} (hr : motive r.arena)

include add hr

theorem endName_keeps (next : Option Char) : motive (arenaAfter Prod.snd (r.endName next)) := by
  unfold endName
  cases r.phase with
  | closed node => exact hr
  | naming start reversed =>
    by_cases hblank : Text.trim reversed.reverse = []
    · simp only [hblank, if_true]
      exact hr
    · simp only [hblank, if_false]
      cases hadd : r.arena.addUnder r.owner (String.ofList (Text.trim reversed.reverse)) with
      | ok added => exact add _ _ _ added.1 added.2 hr hadd
      | error e => exact hr

theorem step_keeps (c : Char) : motive (arenaAfter Reader.arena (r.step c)) := by
  have ended := endName_keeps add hr
  -- the arena changes where a name ends, before it is known whether the character may stand there
  unfold step
  split_ifs
  · unfold openList
    cases r.phase with
    | closed node => exact hr
    | naming start reversed =>
      refine arenaAfter_bind (ended _) fun added _ hb => ?_
      by_cases nest : r.opened.length + 1 > maxNesting
      · simp only [nest, if_true]
        exact hb
      · simp only [nest, if_false]
        exact hb
  · refine arenaAfter_bind (ended _) fun added _ hb => ?_
    cases r.opened with
    | nil => exact hb
    | cons l outer => exact hb
  · refine arenaAfter_bind (ended _) fun added _ hb => ?_
    cases r.opened with
    | nil => exact hb
    | cons l outer => exact hb
  · unfold takeChar
    cases r.phase with
    | naming start reversed => exact hr
    | closed node =>
      by_cases hblank : Text.isBlank c
      · simp only [hblank, if_true]
        exact hr
      · simp only [hblank]
        exact hr

theorem finish_keeps : motive (arenaAfter Prod.snd r.finish) := by
  refine arenaAfter_bind (endName_keeps add hr none) fun added _ hb => ?_
  cases r.opened with
  | nil => exact hb
  | cons l outer => exact hb

theorem run_keeps (text : List Char) : motive (arenaAfter Reader.arena (r.run text)) := by
  induction text generalizing r with
  | nil => exact hr
  | cons c text ih =>
    rw [run, List.foldlM_cons]
    exact arenaAfter_bind (step_keeps add hr c) fun s _ hs => ih hs

end Keeps

end Reader

/-- **What reading leaves behind.** What holds of an arena and is kept whenever a name is added
holds of the arena after an accepted descriptor, and of the one that a refused descriptor is
forgotten in. -/
theorem readUnder_cases {motive : Arena → Prop} (add : ∀ a parent name id b, motive a →
      a.addUnder parent name = .ok (id, b) → motive b) {a : Arena} (ha : motive a)
    (descriptor : String) (parent : Option Nat) :
    (∃ id b, readUnder a descriptor parent = (.ok id, b) ∧ motive b) ∨
    (∃ e b, readUnder a descriptor parent = (.error e, b.truncate a.size) ∧ motive b) := by
  have hkeeps : motive (arenaAfter Prod.snd
      ((Reader.start a parent).run descriptor.toList >>= Reader.finish)) :=
    arenaAfter_bind (Reader.run_keeps (r := Reader.start a parent) add ha descriptor.toList)
      fun r _ hr => Reader.finish_keeps add hr
  unfold readUnder
  cases hread : (Reader.start a parent).run descriptor.toList >>= Reader.finish with
  | ok added =>
    rw [hread] at hkeeps
    exact Or.inl ⟨added.1, added.2, rfl, hkeeps⟩
  | error stopped =>
    rw [hread] at hkeeps
    exact Or.inr ⟨⟨descriptor, stopped.fault⟩, stopped.arena, rfl, hkeeps⟩

end TypeGrading.Descriptor
