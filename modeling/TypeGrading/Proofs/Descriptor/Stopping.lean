import TypeGrading.Proofs.Descriptor.Refusal

/-!
# Where the reader stops

The faults of each step of the reader, the other side of what the steps do where they go on.

* `Faults`: a computation of the reader stops with a fault;
* `Reader.step_faults_iff`, `Reader.finish_faults_iff`: the faults of one character and of the end;
* `Reader.run_faults_iff`: a run stops at one character, and goes on up to it;
* `readUnder_eq_error_iff`, `parse_eq_error_iff`: a text is refused with the fault that the reader
  stops with.
-/

namespace TypeGrading.Descriptor

open TypeGrading.Tree

/-- The computation stops with a fault, whatever was added until then. -/
def Faults {α : Type} (x : Except Stopped α) (f : Fault) : Prop := ∃ b, x = .error ⟨f, b⟩

section Faults

variable {α β : Type} {f : Fault}

@[simp] theorem faults_error {stopped : Stopped} :
    Faults (.error stopped : Except Stopped α) f ↔ f = stopped.fault := by
  constructor
  · rintro ⟨b, h⟩
    rw [Except.error.inj h]
  · rintro rfl
    exact ⟨stopped.arena, rfl⟩

@[simp] theorem not_faults_ok {x : α} : ¬ Faults (.ok x : Except Stopped α) f := by
  rintro ⟨b, h⟩
  cases h

/-- Two computations in a row stop in the first one, or in the second one after the first. -/
theorem faults_bind {x : Except Stopped α} {k : α → Except Stopped β} :
    Faults (x >>= k) f ↔ Faults x f ∨ ∃ y, x = .ok y ∧ Faults (k y) f := by
  cases x with
  | error stopped =>
    show Faults (.error stopped) f ↔ _
    simp
  | ok y =>
    show Faults (k y) f ↔ _
    simp

end Faults

namespace Reader

variable {r : Reader} {t : List Char} {f : Fault}

@[simp] theorem faults_malformed {α : Type} {offset : Nat} {reason : Malformation} :
    Faults (r.malformed offset reason : Except Stopped α) f ↔ f = .malformed offset reason :=
  faults_error

/-! ### One character -/

theorem openList_faults_iff : Faults r.openList f ↔
    (∃ node, r.phase = .closed node ∧ f = .malformed r.offset .trailingInput) ∨
    ((∀ node, r.phase ≠ .closed node) ∧
      (Faults (r.endName (some '<')) f ∨ ∃ added, r.endName (some '<') = .ok added ∧
        maxNesting ≤ r.opened.length ∧ f = .depthExceeded maxNesting)) := by
  unfold openList
  cases r.phase with
  | closed node => simp
  | naming start reversed =>
    simp only [faults_bind, reduceCtorEq, false_and, exists_false, false_or, ne_eq,
      not_false_eq_true, implies_true, true_and]
    refine or_congr_right (exists_congr fun added => and_congr_right fun _ => ?_)
    by_cases deep : r.opened.length + 1 > maxNesting
    · rw [if_pos deep]
      exact faults_error.trans (iff_and_self.2 fun _ => Nat.lt_succ_iff.1 deep)
    · rw [if_neg deep]
      exact iff_of_false not_faults_ok fun h => deep (Nat.lt_succ_of_le h.1)

theorem closeList_faults_iff : Faults r.closeList f ↔
    Faults (r.endName (some '>')) f ∨ ∃ added, r.endName (some '>') = .ok added ∧
      r.opened = [] ∧ f = .malformed r.offset .unexpectedClose := by
  unfold closeList
  rw [faults_bind]
  refine or_congr_right (exists_congr fun added => and_congr_right fun _ => ?_)
  cases r.opened with
  | nil => exact faults_error.trans (by simp)
  | cons l outer => exact iff_of_false not_faults_ok (by simp)

theorem nextParameter_faults_iff : Faults r.nextParameter f ↔
    Faults (r.endName (some ',')) f ∨ ∃ added, r.endName (some ',') = .ok added ∧
      r.opened = [] ∧ f = .malformed r.offset .trailingInput := by
  unfold nextParameter
  rw [faults_bind]
  refine or_congr_right (exists_congr fun added => and_congr_right fun _ => ?_)
  cases r.opened with
  | nil => exact faults_error.trans (by simp)
  | cons l outer => exact iff_of_false not_faults_ok (by simp)

theorem takeChar_faults_iff {c : Char} : Faults (r.takeChar c) f ↔
    ∃ node, r.phase = .closed node ∧ ¬ Text.isBlank c ∧
      f = .malformed r.offset .trailingInput := by
  unfold takeChar
  cases r.phase with
  | naming start reversed => simp
  | closed node => by_cases hblank : Text.isBlank c <;> simp [hblank]

/-- **The faults of one character**, in the four ways to take it. -/
theorem step_faults_iff {c : Char} : Faults (r.step c) f ↔
    (c = '<' ∧ Faults r.openList f) ∨ (c = '>' ∧ Faults r.closeList f) ∨
      (c = ',' ∧ Faults r.nextParameter f) ∨ (¬ isDelimiter c ∧ Faults (r.takeChar c) f) := by
  unfold step
  split_ifs with h₁ h₂ h₃
  · subst h₁
    simp [isDelimiter]
  · subst h₂
    simp [isDelimiter]
  · subst h₃
    simp [isDelimiter]
  · simp [isDelimiter, h₁, h₂, h₃]

/-! ### Whole texts -/

/-- **The faults of the end.** -/
theorem finish_faults_iff : Faults r.finish f ↔
    Faults (r.endName none) f ∨ ∃ added, r.endName none = .ok added ∧
      ∃ l outer, r.opened = l :: outer ∧ f = .malformed l.offset .unclosedParameterList := by
  unfold finish
  rw [faults_bind]
  refine or_congr_right (exists_congr fun added => and_congr_right fun _ => ?_)
  cases r.opened with
  | nil => exact iff_of_false not_faults_ok (by simp)
  | cons l outer => exact faults_error.trans (by simp)

/-- A run that stops goes on up to the character that it stops at. -/
theorem run_faults_iff : Faults (r.run t) f ↔
    ∃ front c rest s, t = front ++ c :: rest ∧ r.run front = .ok s ∧ Faults (s.step c) f := by
  constructor
  · intro h
    induction t generalizing r with
    | nil => exact absurd h not_faults_ok
    | cons c t ih =>
      rcases faults_bind.1 h with hstep | ⟨s, hstep, hrest⟩
      · exact ⟨[], c, t, r, rfl, rfl, hstep⟩
      · obtain ⟨front, d, rest, s', rfl, hrun, hd⟩ := ih hrest
        exact ⟨c :: front, d, rest, s', rfl, (run_cons_eq hstep front).trans hrun, hd⟩
  · rintro ⟨front, c, rest, s, rfl, hrun, b, hstep⟩
    rw [run_append_eq hrun]
    exact ⟨b, run_append_eq_error (t := [c]) (by rw [run, List.foldlM_cons, hstep]; rfl) rest⟩

end Reader

theorem readUnder_eq_error_iff {a : Arena} {descriptor : String} {parent : Option Nat}
    {e : DescriptorError} : (readUnder a descriptor parent).1 = .error e ↔
      e.descriptor = descriptor ∧
        Faults ((Reader.start a parent).run descriptor.toList >>= Reader.finish) e.fault := by
  unfold readUnder
  cases (Reader.start a parent).run descriptor.toList >>= Reader.finish with
  | ok added => simp
  | error stopped =>
    obtain ⟨text, fault⟩ := e
    simp [eq_comm]

/-- **Refused texts.** A text is refused with the fault that the reader stops with, in it or at its
end. -/
theorem parse_eq_error_iff {descriptor : String} {e : DescriptorError} :
    parse descriptor = .error e ↔ e.descriptor = descriptor ∧
      Faults ((Reader.start Arena.empty none).run descriptor.toList >>= Reader.finish) e.fault := by
  constructor
  · intro h
    cases hread : (Reader.start Arena.empty none).run descriptor.toList >>= Reader.finish with
    | error stopped =>
      rw [parse, readUnder_eq_error hread] at h
      rw [← Except.error.inj h]
      exact ⟨rfl, faults_error.2 rfl⟩
    | ok added =>
      have hok : readUnder Arena.empty descriptor none = (.ok added.1, added.2) := by
        rw [readUnder, hread]
      obtain ⟨p, htext, hnest⟩ := exists_phrase_of_readUnder hok
      cases h.symm.trans (parse_phrase htext hnest)
  · rintro ⟨rfl, b, hread⟩
    rw [parse, readUnder_eq_error hread]

end TypeGrading.Descriptor
