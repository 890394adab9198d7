import TypeGrading.Proofs.Descriptor.Positions
import TypeGrading.Proofs.Descriptor.Stopping

/-!
# Viable texts

A text is viable if some continuation of it is a descriptor. The reader goes on exactly as long as
the text taken is viable, so a refused descriptor is refused for the first character that makes it
no longer viable, or for its end.

* `Viable`: some continuation is accepted;
* `Reader.exists_closing`, `viable_iff_run`: the open lists can always be closed, and the texts
  that the reader can take are the viable ones;
* `TooShort`, `Violation`: what is wrong with the end of a viable text, and with a character after
  it, told from the text alone;
* `parse_reports_first_violation`: the fault of a refused descriptor.
-/

namespace TypeGrading.Descriptor

open TypeGrading.Tree

/-- Some continuation of the text is accepted. -/
def Viable (t : List Char) : Prop := ∃ u tree, parse (String.ofList (t ++ u)) = .ok tree

/-! ### Closing the open lists -/

/-- The open lists of a stack can be closed after a last parameter. -/
theorem Pending.exists_closing {stack : List Pending} {p : Phrase} (h : Shallow stack)
    (nest : stack.length + p.nesting ≤ maxNesting) :
    ∃ q : Phrase, q.text = stackText stack ++ (p.text ++ List.replicate stack.length '>') ∧
      q.nesting ≤ maxNesting := by
  induction stack generalizing p with
  | nil => exact ⟨p, by simp [stackText], by simpa using nest⟩
  | cons l outer ih =>
    obtain ⟨first, others, hparams, htext⟩ := l.exists_list p Gap.empty
    obtain ⟨q, hq, hdeep⟩ := ih h.2.2 (Shallow.nesting_list_le h hparams nest)
    refine ⟨q, ?_, hdeep⟩
    rw [hq, htext, stackText, List.length_cons, List.replicate_succ]
    simp [Gap.empty]

namespace Reader

variable {r s : Reader} {t : List Char} {f : Fault}

/-- Where no name is missing, a `>` for each open list makes a phrase of the text taken so far. -/
theorem exists_closing (hr : r.Unfinished t)
    (hname : ∀ start reversed, r.phase = .naming start reversed →
      ¬ Text.IsBlank reversed.reverse) :
    ∃ p : Phrase, p.text = t ++ List.replicate r.opened.length '>' ∧ p.nesting ≤ maxNesting := by
  obtain ⟨stack, last, rfl, hlen, hshallow, hstands⟩ := hr
  obtain ⟨p, rfl, hnest⟩ := hstands.exists_phrase hshallow.length_le hname
  obtain ⟨q, hq, hdeep⟩ := Pending.exists_closing hshallow hnest
  exact ⟨q, by rw [hq, hlen, List.append_assoc], hdeep⟩

/-- Some continuation of an unfinished phrase is a phrase. -/
theorem exists_phrase_append (hr : r.Unfinished t) :
    ∃ u, ∃ p : Phrase, p.text = t ++ u ∧ p.nesting ≤ maxNesting := by
  by_cases hname : ∀ start reversed, r.phase = .naming start reversed →
      ¬ Text.IsBlank reversed.reverse
  · obtain ⟨p, htext, hnest⟩ := exists_closing hr hname
    exact ⟨_, p, htext, hnest⟩
  · -- a name is missing: one letter is enough
    push Not at hname
    obtain ⟨start, reversed, hphase, -⟩ := hname
    have hstep : r.step 'A' = .ok { r with
        offset := r.offset + 'A'.utf8Size
        phase := .naming start ('A' :: reversed) } := by
      rw [step_plain (by decide), takeChar, hphase]
    obtain ⟨p, htext, hnest⟩ := exists_closing (unfinished_step r _ t 'A' hr hstep) (by
      rintro _ _ h hblank
      obtain ⟨-, rfl⟩ := Phase.naming.inj h
      exact absurd (hblank 'A' (by simp)) (by decide))
    exact ⟨_, p, htext.trans (List.append_assoc _ _ _), hnest⟩

/-- In a tree of its own, each name has a place. -/
theorem exists_endName (hrun : (start Arena.empty none).run t = .ok r)
    (hname : ∀ start reversed, r.phase = .naming start reversed →
      ¬ Text.IsBlank reversed.reverse) (next : Option Char) :
    ∃ added, r.endName next = .ok added := by
  cases hphase : r.phase with
  | closed node => exact ⟨(node, r.arena), by rw [endName, hphase]⟩
  | naming start reversed =>
    have htrim : Text.trim reversed.reverse ≠ [] :=
      fun h => hname start reversed hphase (Text.trim_eq_nil_iff.1 h)
    cases hadd : r.arena.addUnder r.owner (String.ofList (Text.trim reversed.reverse)) with
    | ok added => exact ⟨added, endName_eq_ok hphase htrim hadd⟩
    | error e =>
      -- the text with its lists closed is accepted, but would stop the reader at this name
      have hstops : (Reader.start Arena.empty none).StopsWith t (.ofEdit e) :=
        Or.inr ⟨r, hrun, fun next => ⟨r.arena, endName_eq_error hphase htrim hadd⟩⟩
      obtain ⟨p, htext, hnest⟩ := exists_closing (unfinished_run hrun) hname
      have hfaults : Faults ((Reader.start Arena.empty none).run p.text >>= Reader.finish)
          (.ofEdit e) := by
        rw [htext]
        cases r.opened.length with
        | zero =>
          rw [List.replicate_zero, List.append_nil]
          exact hstops.finish
        | succ n => exact faults_bind.2 (Or.inl (hstops.run_delimiter (by decide) _))
      have hrefused : parse (String.ofList p.text) = .error ⟨String.ofList p.text, .ofEdit e⟩ :=
        parse_eq_error_iff.2 ⟨rfl, by rwa [String.toList_ofList]⟩
      cases (parse_phrase String.toList_ofList.symm hnest).symm.trans hrefused

end Reader

/-! ### Viable texts are those that can be read -/

/-- **Viable texts.** Some continuation of a text is accepted exactly if the reader can take it. -/
theorem viable_iff_run {t : List Char} :
    Viable t ↔ ∃ r, (Reader.start Arena.empty none).run t = .ok r := by
  constructor
  · rintro ⟨u, tree, h⟩
    cases hrun : (Reader.start Arena.empty none).run t with
    | ok r => exact ⟨r, rfl⟩
    | error stopped =>
      have herror : parse (String.ofList (t ++ u)) =
          .error ⟨String.ofList (t ++ u), stopped.fault⟩ := by
        refine parse_eq_error_iff.2 ⟨rfl, faults_bind.2 (Or.inl ⟨stopped.arena, ?_⟩)⟩
        rw [String.toList_ofList]
        exact Reader.run_append_eq_error hrun u
      cases h.symm.trans herror
  · rintro ⟨r, hrun⟩
    obtain ⟨u, p, htext, hnest⟩ := Reader.exists_phrase_append (Reader.unfinished_run hrun)
    exact ⟨u, _, parse_phrase (by rw [String.toList_ofList, htext]) hnest⟩

/-! ### The first violation -/

/-- What is wrong with a viable text that ends. -/
inductive TooShort (t : List Char) : Fault → Prop
  | blank (h : Text.IsBlank t) : TooShort t (.malformed 0 .emptyDescriptor)
  | awaiting (h : AwaitsName t) (inside : unmatched t ≠ []) :
    TooShort t (.malformed (nameStart t) .emptyParameter)
  | unclosed {offset : Nat} {outer : List Nat} (h : ¬ AwaitsName t)
    (inside : unmatched t = offset :: outer) :
    TooShort t (.malformed offset .unclosedParameterList)

/-- What is wrong with a character after a viable text. -/
inductive Violation (t : List Char) (c : Char) : Fault → Prop
  | openWithoutName (hc : c = '<') (h : AwaitsName t) :
    Violation t c (.malformed (nameStart t) .emptyName)
  | commaWithoutName (hc : c = ',') (h : AwaitsName t) (outside : unmatched t = []) :
    Violation t c (.malformed (nameStart t) .emptyName)
  | closeWithoutName (hc : c = '>') (h : AwaitsName t) (outside : unmatched t = []) :
    Violation t c (.malformed 0 .unexpectedClose)
  | emptyParameter (hc : c = ',' ∨ c = '>') (h : AwaitsName t) (inside : unmatched t ≠ []) :
    Violation t c (.malformed (nameStart t) .emptyParameter)
  | closeOutside (hc : c = '>') (h : ¬ AwaitsName t) (outside : unmatched t = []) :
    Violation t c (.malformed (Text.byteLength t) .unexpectedClose)
  | commaOutside (hc : c = ',') (h : ¬ AwaitsName t) (outside : unmatched t = []) :
    Violation t c (.malformed (Text.byteLength t) .trailingInput)
  | afterList (hc : c ≠ ',' ∧ c ≠ '>') (hblank : ¬ Text.isBlank c) (h : AfterList t) :
    Violation t c (.malformed (Text.byteLength t) .trailingInput)
  | tooDeep (hc : c = '<') (h : ¬ AwaitsName t) (hname : ¬ AfterList t)
    (deep : maxNesting ≤ (unmatched t).length) : Violation t c (.depthExceeded maxNesting)

namespace Reader

variable {r : Reader} {t : List Char} {f : Fault}

/-- A type ends after a text unless a name is awaited there; what follows counts only then. -/
theorem endName_faults_or_iff (hrun : (start Arena.empty none).run t = .ok r) {next : Option Char}
    {P : Prop} : (Faults (r.endName next) f ∨ ∃ added, r.endName next = .ok added ∧ P) ↔
      AwaitsName t ∧ f = .malformed (nameStart t) (r.missingName next) ∨ ¬ AwaitsName t ∧ P := by
  have h := located_run hrun
  by_cases hawaits : AwaitsName t
  · obtain ⟨start, reversed, hphase, hblank⟩ := h.awaitsName_iff.1 hawaits
    have hend : r.endName next = r.malformed (nameStart t) (r.missingName next) := by
      rw [← h.start_eq hphase]
      simp only [endName, hphase, Text.trim_eq_nil_iff.2 hblank, if_true]
    simp [hend, hawaits, malformed]
  · obtain ⟨added, hend⟩ := exists_endName hrun (fun start reversed hphase hblank =>
      hawaits (h.awaitsName_iff.2 ⟨start, reversed, hphase, hblank⟩)) next
    simp [hend, hawaits]

/-- **The end of a viable text.** -/
theorem finish_faults_iff_tooShort (hrun : (start Arena.empty none).run t = .ok r) :
    Faults r.finish f ↔ TooShort t f := by
  have h := located_run hrun
  have hopened := h.opened_eq
  rw [finish_faults_iff, endName_faults_or_iff hrun]
  cases hopen : r.opened with
  | nil =>
    have hmissing : r.missingName none = .emptyDescriptor := by simp [missingName, hopen]
    rw [hopen, List.map_nil] at hopened
    rw [hmissing]
    constructor
    · rintro (⟨hawaits, rfl⟩ | ⟨-, l, outer, hcons, -⟩)
      · rw [h.nameStart_eq_zero hawaits hopened.symm]
        exact .blank (h.isBlank_iff.2 ⟨hawaits, hopened.symm⟩)
      · cases hcons
    · rintro (hblank | ⟨-, inside⟩ | ⟨-, inside⟩)
      · obtain ⟨hawaits, hnil⟩ := h.isBlank_iff.1 hblank
        exact Or.inl ⟨hawaits, by rw [h.nameStart_eq_zero hawaits hnil]⟩
      · exact absurd hopened.symm inside
      · cases hopened.trans inside
  | cons l outer =>
    have hmissing : r.missingName none = .emptyParameter := by simp [missingName, hopen]
    rw [hopen, List.map_cons] at hopened
    rw [hmissing]
    constructor
    · rintro (⟨hawaits, rfl⟩ | ⟨hnamed, l', outer', hcons, rfl⟩)
      · exact .awaiting hawaits (by simp [← hopened])
      · obtain ⟨rfl, rfl⟩ := List.cons.inj hcons
        exact .unclosed hnamed hopened.symm
    · rintro (hblank | ⟨hawaits, -⟩ | ⟨hnamed, inside⟩)
      · cases hopened.trans (h.isBlank_iff.1 hblank).2
      · exact Or.inl ⟨hawaits, rfl⟩
      · obtain ⟨rfl, -⟩ := List.cons.inj (hopened.trans inside)
        exact Or.inr ⟨hnamed, l, outer, rfl, rfl⟩

/-! The four ways to take a character after a viable text. -/

theorem missingName_inside {c : Char} (hr : r.opened ≠ []) (hc : c ≠ '<') :
    r.missingName (some c) = .emptyParameter := by
  cases hopen : r.opened with
  | nil => exact absurd hopen hr
  | cons l outer => simp [missingName, hopen, hc]

theorem openList_faults_iff_violation (hrun : (start Arena.empty none).run t = .ok r) :
    Faults r.openList f ↔ Violation t '<' f := by
  have h := located_run hrun
  have hmissing : r.missingName (some '<') = .emptyName := by
    cases hopen : r.opened <;> simp [missingName, hopen]
  have hafter : (∀ node, r.phase ≠ .closed node) ↔ ¬ AfterList t := by
    rw [h.afterList_iff, not_exists]
  have hdepth : r.opened.length = (unmatched t).length := by rw [← h.opened_eq, List.length_map]
  rw [openList_faults_iff, endName_faults_or_iff hrun, hafter, hmissing, hdepth, h.offset_eq]
  constructor
  · rintro (⟨node, hclosed, rfl⟩ | ⟨hname, ⟨hawaits, rfl⟩ | ⟨hnamed, deep, rfl⟩⟩)
    · exact .afterList (by decide) (by decide) (h.afterList_iff.2 ⟨node, hclosed⟩)
    · exact .openWithoutName rfl hawaits
    · exact .tooDeep rfl hnamed hname deep
  · intro hv
    cases hv with
    | openWithoutName hc hawaits => exact Or.inr ⟨hawaits.1, Or.inl ⟨hawaits, rfl⟩⟩
    | tooDeep hc hnamed hname deep => exact Or.inr ⟨hname, Or.inr ⟨hnamed, deep, rfl⟩⟩
    | afterList hc hblank hclosed =>
      obtain ⟨node, hnode⟩ := h.afterList_iff.1 hclosed
      exact Or.inl ⟨node, hnode, rfl⟩
    | commaWithoutName hc | closeWithoutName hc | emptyParameter hc | closeOutside hc
    | commaOutside hc => exact absurd hc (by decide)

/-- A parameter ends at a `>` or a `,`: in a list a name must stand before it, and outside every
list it must not stand at all. -/
theorem endParameter_faults_iff (hrun : (start Arena.empty none).run t = .ok r) {d : Char}
    (hd : d ≠ '<') {missing late : Malformation}
    (hmissing : r.opened = [] → r.missingName (some d) = missing) :
    (Faults (r.endName (some d)) f ∨ ∃ added, r.endName (some d) = .ok added ∧
      r.opened = [] ∧ f = .malformed r.offset late) ↔
      (AwaitsName t ∧ unmatched t = [] ∧ f = .malformed (nameStart t) missing) ∨
      (AwaitsName t ∧ unmatched t ≠ [] ∧ f = .malformed (nameStart t) .emptyParameter) ∨
      (¬ AwaitsName t ∧ unmatched t = [] ∧ f = .malformed (Text.byteLength t) late) := by
  have h := located_run hrun
  rw [endName_faults_or_iff hrun, h.offset_eq]
  by_cases hnil : r.opened = []
  · simp [hmissing hnil, hnil, h.opened_eq_nil_iff.1 hnil]
  · simp [missingName_inside hnil hd, hnil, mt h.opened_eq_nil_iff.2 hnil]

theorem closeList_faults_iff_violation (hrun : (start Arena.empty none).run t = .ok r) :
    Faults r.closeList f ↔ Violation t '>' f := by
  have h := located_run hrun
  have hmissing (hnil : r.opened = []) : r.missingName (some '>') = .unexpectedClose := by
    simp [missingName, hnil]
  rw [closeList_faults_iff, endParameter_faults_iff hrun (by decide) hmissing]
  constructor
  · rintro (⟨hawaits, hnil, rfl⟩ | ⟨hawaits, hne, rfl⟩ | ⟨hnamed, hnil, rfl⟩)
    · rw [h.nameStart_eq_zero hawaits hnil]
      exact .closeWithoutName rfl hawaits hnil
    · exact .emptyParameter (Or.inr rfl) hawaits hne
    · exact .closeOutside rfl hnamed hnil
  · intro hv
    cases hv with
    | closeWithoutName hc hawaits hnil =>
      exact Or.inl ⟨hawaits, hnil, by rw [h.nameStart_eq_zero hawaits hnil]⟩
    | emptyParameter hc hawaits hne => exact Or.inr (Or.inl ⟨hawaits, hne, rfl⟩)
    | closeOutside hc hnamed hnil => exact Or.inr (Or.inr ⟨hnamed, hnil, rfl⟩)
    | afterList hc => exact absurd rfl hc.2
    | openWithoutName hc | commaWithoutName hc | commaOutside hc | tooDeep hc =>
      exact absurd hc (by decide)

theorem nextParameter_faults_iff_violation (hrun : (start Arena.empty none).run t = .ok r) :
    Faults r.nextParameter f ↔ Violation t ',' f := by
  have hmissing (hnil : r.opened = []) : r.missingName (some ',') = .emptyName := by
    simp [missingName, hnil]
  rw [nextParameter_faults_iff, endParameter_faults_iff hrun (by decide) hmissing]
  constructor
  · rintro (⟨hawaits, hnil, rfl⟩ | ⟨hawaits, hne, rfl⟩ | ⟨hnamed, hnil, rfl⟩)
    · exact .commaWithoutName rfl hawaits hnil
    · exact .emptyParameter (Or.inl rfl) hawaits hne
    · exact .commaOutside rfl hnamed hnil
  · intro hv
    cases hv with
    | commaWithoutName hc hawaits hnil => exact Or.inl ⟨hawaits, hnil, rfl⟩
    | emptyParameter hc hawaits hne => exact Or.inr (Or.inl ⟨hawaits, hne, rfl⟩)
    | commaOutside hc hnamed hnil => exact Or.inr (Or.inr ⟨hnamed, hnil, rfl⟩)
    | afterList hc => exact absurd rfl hc.1
    | openWithoutName hc | closeWithoutName hc | closeOutside hc | tooDeep hc =>
      exact absurd hc (by decide)

theorem takeChar_faults_iff_violation (hrun : (start Arena.empty none).run t = .ok r) {c : Char}
    (hc : ¬ isDelimiter c) : Faults (r.takeChar c) f ↔ Violation t c f := by
  have h := located_run hrun
  simp only [isDelimiter, Bool.or_eq_true, beq_iff_eq, not_or] at hc
  obtain ⟨⟨hopen, hclose⟩, hcomma⟩ := hc
  rw [takeChar_faults_iff, h.offset_eq]
  constructor
  · rintro ⟨node, hclosed, hblank, rfl⟩
    exact .afterList ⟨hcomma, hclose⟩ hblank (h.afterList_iff.2 ⟨node, hclosed⟩)
  · intro hv
    cases hv with
    | afterList hc hblank hclosed =>
      obtain ⟨node, hnode⟩ := h.afterList_iff.1 hclosed
      exact ⟨node, hnode, hblank, rfl⟩
    | openWithoutName hc | tooDeep hc => exact absurd hc hopen
    | commaWithoutName hc | commaOutside hc => exact absurd hc hcomma
    | closeWithoutName hc | closeOutside hc => exact absurd hc hclose
    | emptyParameter hc => exact absurd hc (not_or.2 ⟨hcomma, hclose⟩)

/-- **A character after a viable text.** -/
theorem step_faults_iff_violation (hrun : (start Arena.empty none).run t = .ok r) {c : Char} :
    Faults (r.step c) f ↔ Violation t c f := by
  rw [step_faults_iff]
  constructor
  · rintro (⟨rfl, h⟩ | ⟨rfl, h⟩ | ⟨rfl, h⟩ | ⟨hc, h⟩)
    · exact (openList_faults_iff_violation hrun).1 h
    · exact (closeList_faults_iff_violation hrun).1 h
    · exact (nextParameter_faults_iff_violation hrun).1 h
    · exact (takeChar_faults_iff_violation hrun hc).1 h
  · intro hv
    by_cases hc : isDelimiter c
    · simp only [isDelimiter, Bool.or_eq_true, beq_iff_eq] at hc
      rcases hc with (rfl | rfl) | rfl
      · exact Or.inl ⟨rfl, (openList_faults_iff_violation hrun).2 hv⟩
      · exact Or.inr (Or.inl ⟨rfl, (closeList_faults_iff_violation hrun).2 hv⟩)
      · exact Or.inr (Or.inr (Or.inl ⟨rfl, (nextParameter_faults_iff_violation hrun).2 hv⟩))
    · exact Or.inr (Or.inr (Or.inr ⟨hc, (takeChar_faults_iff_violation hrun hc).2 hv⟩))

end Reader

/-- A character that is wrong after a viable text makes it no longer viable. -/
theorem not_viable_of_violation {t : List Char} {c : Char} {f : Fault} (ht : Viable t)
    (hv : Violation t c f) : ¬ Viable (t ++ [c]) := by
  obtain ⟨r, hrun⟩ := viable_iff_run.1 ht
  have hfaults : Faults (r.run [c]) f :=
    faults_bind.2 (Or.inl ((Reader.step_faults_iff_violation hrun).2 hv))
  rw [viable_iff_run]
  rintro ⟨s, hs⟩
  rw [Reader.run_append_eq hrun] at hs
  rw [hs] at hfaults
  exact not_faults_ok hfaults

/-- **A refused descriptor is refused at the first violation.** A descriptor is refused exactly if
all of it is viable but too short, or one of its characters is the first to make it no longer
viable; and the fault is what is wrong there. -/
theorem parse_reports_first_violation (descriptor : String) (e : DescriptorError) :
    parse descriptor = .error e ↔ e.descriptor = descriptor ∧
      ((Viable descriptor.toList ∧ TooShort descriptor.toList e.fault) ∨
        ∃ front c rest, descriptor.toList = front ++ c :: rest ∧ Viable front ∧
          ¬ Viable (front ++ [c]) ∧ Violation front c e.fault) := by
  rw [parse_eq_error_iff, faults_bind, Reader.run_faults_iff, or_comm]
  refine and_congr_right fun _ => or_congr ?_ ?_
  · constructor
    · rintro ⟨r, hrun, hfinish⟩
      exact ⟨viable_iff_run.2 ⟨r, hrun⟩, (Reader.finish_faults_iff_tooShort hrun).1 hfinish⟩
    · rintro ⟨hviable, hshort⟩
      obtain ⟨r, hrun⟩ := viable_iff_run.1 hviable
      exact ⟨r, hrun, (Reader.finish_faults_iff_tooShort hrun).2 hshort⟩
  · constructor
    · rintro ⟨front, c, rest, r, htext, hrun, hstep⟩
      have hviable := viable_iff_run.2 ⟨r, hrun⟩
      have hv := (Reader.step_faults_iff_violation hrun).1 hstep
      exact ⟨front, c, rest, htext, hviable, not_viable_of_violation hviable hv, hv⟩
    · rintro ⟨front, c, rest, htext, hviable, -, hv⟩
      obtain ⟨r, hrun⟩ := viable_iff_run.1 hviable
      exact ⟨front, c, rest, r, htext, hrun, (Reader.step_faults_iff_violation hrun).2 hv⟩

/-- An empty parameter is reported where it begins, not at the character that ends it. -/
example : parse "A<B,  >>" = .error ⟨"A<B,  >>", .malformed 4 .emptyParameter⟩ := by decide

end TypeGrading.Descriptor
