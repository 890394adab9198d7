import TypeGrading.Proofs.Descriptor.Reading
import TypeGrading.Proofs.Descriptor.Steps

/-!
# Accepted descriptors

The reader accepts the texts of phrases and nothing else.

While it reads, the text taken so far is an unfinished phrase: a stack of lists that are not closed
yet, each with the parameters read in it, and the piece read last.

* `Pending`, `Reader.Unfinished`: unfinished phrases, and that a reader is in one;
* `Reader.unfinished_step`, `Reader.exists_phrase_of_finish`: a step goes on with it, and where the
  text may end it is finished;
* `parse_eq_ok_iff`: the trees that parsing gives are those of phrases that are not nested too deep;
* `parse_accepts_grammar`: acceptance, unambiguity and the expression of the tree.
-/

namespace TypeGrading.Descriptor

open TypeGrading.Tree

/-! ### Unfinished phrases -/

/-- A list that is not closed yet: the segment before it, and the parameters read in it so far. -/
structure Pending where
  seg : Segment
  read : List Phrase

namespace Pending

/-- The text of an open list; a comma follows each parameter that is read. -/
def text (l : Pending) : List Char :=
  l.seg.chars ++ '<' :: (l.read.map fun p => p.text ++ [',']).flatten

/-- The text of a stack of open lists, the innermost one first. -/
def stackText : List Pending → List Char
  | [] => []
  | l :: outer => stackText outer ++ l.text

/-- The stack, and what has been read in it, are not nested too deep. -/
def Shallow : List Pending → Prop
  | [] => True
  | l :: outer => outer.length < maxNesting ∧
      (∀ p ∈ l.read, outer.length + (p.nesting + 1) ≤ maxNesting) ∧ Shallow outer

theorem Shallow.length_le {stack : List Pending} (h : Shallow stack) :
    stack.length ≤ maxNesting := by
  cases stack with
  | nil => exact Nat.zero_le _
  | cons l outer => exact h.1

theorem flatten_read (qs : List Phrase) (p : Phrase) (t : List Char) :
    ',' :: ((qs.map fun q => q.text ++ [',']).flatten ++ (p.text ++ t)) =
      Phrase.others (qs ++ [p]) ++ t := by
  induction qs with
  | nil => simp [Phrase.others]
  | cons q qs ih =>
    rw [List.cons_append, Phrase.others_cons, List.map_cons, List.flatten_cons]
    simp only [List.append_assoc, List.cons_append, List.nil_append, ← ih]

/-- Closing a list after its last parameter makes a phrase of it. -/
theorem exists_list (l : Pending) (p : Phrase) (gap : Gap) :
    ∃ first others, first :: others = l.read ++ [p] ∧
      (Phrase.list l.seg first others gap).text = l.text ++ (p.text ++ '>' :: gap.chars) := by
  cases hread : l.read with
  | nil => exact ⟨p, [], rfl, by simp [Phrase.text_list, Phrase.others, text, hread]⟩
  | cons q qs =>
    refine ⟨q, qs ++ [p], rfl, ?_⟩
    rw [Phrase.text_list, text, hread, ← flatten_read]
    simp

/-- A list that is closed after its last parameter is not nested too deep either. -/
theorem Shallow.nesting_list_le {l : Pending} {outer : List Pending} {p first : Phrase}
    {others : List Phrase} {gap : Gap} (h : Shallow (l :: outer))
    (hparams : first :: others = l.read ++ [p])
    (nest : (l :: outer).length + p.nesting ≤ maxNesting) :
    outer.length + (Phrase.list l.seg first others gap).nesting ≤ maxNesting := by
  obtain ⟨hlt, hread, -⟩ := h
  rw [List.length_cons] at nest
  have hdeep : (Phrase.list l.seg first others gap).nesting ≤ maxNesting - outer.length := by
    rw [Phrase.nesting_list_le_iff, hparams]
    intro q hq
    rcases List.mem_append.1 hq with hq | hq
    · have := hread q hq
      omega
    · rw [List.mem_singleton.1 hq]
      omega
  omega

end Pending

/-- A piece of text is what the phase says was read last, at some number of open lists. -/
def Phase.Stands (depth : Nat) : Phase → List Char → Prop
  | .naming _ reversed, last => last = reversed.reverse ∧ ∀ c ∈ last, ¬ isDelimiter c
  | .closed _, last => ∃ seg first others gap, last = (Phrase.list seg first others gap).text ∧
      depth + (Phrase.list seg first others gap).nesting ≤ maxNesting

/-- The text taken so far is an unfinished phrase, with as many open lists as the reader has. -/
def Reader.Unfinished (r : Reader) (t : List Char) : Prop :=
  ∃ stack last, t = Pending.stackText stack ++ last ∧ stack.length = r.opened.length ∧
    Pending.Shallow stack ∧ r.phase.Stands stack.length last

/-- Where no name is missing, the piece read last is a phrase. -/
theorem Phase.Stands.exists_phrase {phase : Phase} {depth : Nat} {last : List Char}
    (h : phase.Stands depth last) (hdepth : depth ≤ maxNesting)
    (hname : ∀ start reversed, phase = .naming start reversed →
      ¬ Text.IsBlank reversed.reverse) :
    ∃ p : Phrase, p.text = last ∧ depth + p.nesting ≤ maxNesting := by
  cases phase with
  | closed node =>
    obtain ⟨seg, first, others, gap, rfl, hnest⟩ := h
    exact ⟨_, rfl, hnest⟩
  | naming start reversed =>
    obtain ⟨rfl, hplain⟩ := h
    refine ⟨.segment ⟨reversed.reverse, hname start reversed rfl, hplain⟩, by rw [Phrase.text], ?_⟩
    rwa [Phrase.nesting]

namespace Reader

variable {r s : Reader}

theorem not_isBlank_of_endName {next : Option Char} {added : Nat × Arena}
    (hend : r.endName next = .ok added) (start : Nat) (reversed : List Char)
    (hphase : r.phase = .naming start reversed) : ¬ Text.IsBlank reversed.reverse := by
  rcases endName_cases hend with ⟨hclosed, -⟩ | ⟨start', reversed', hnaming, hname, -⟩
  · cases hphase.symm.trans hclosed
  · obtain ⟨rfl, rfl⟩ := Phase.naming.inj (hphase.symm.trans hnaming)
    rwa [Ne, Text.trim_eq_nil_iff] at hname

theorem unfinished_start (a : Arena) (parent : Option Nat) : (start a parent).Unfinished [] :=
  ⟨[], [], rfl, rfl, trivial, rfl, by simp⟩

theorem unfinished_openList {t : List Char} (hr : r.Unfinished t) (h : r.openList = .ok s) :
    s.Unfinished (t ++ ['<']) := by
  obtain ⟨stack, last, rfl, hlen, hshallow, hstands⟩ := hr
  obtain ⟨start, reversed, node, b, hphase, hend, hnest, rfl⟩ := openList_cases h
  rw [hphase] at hstands
  obtain ⟨rfl, hplain⟩ := hstands
  have hname := not_isBlank_of_endName hend start reversed hphase
  refine ⟨⟨⟨reversed.reverse, hname, hplain⟩, []⟩ :: stack, [], ?_, by simp [hlen],
    ⟨by omega, by simp, hshallow⟩, rfl, by simp⟩
  simp [Pending.stackText, Pending.text]

theorem unfinished_closeList {t : List Char} (hr : r.Unfinished t) (h : r.closeList = .ok s) :
    s.Unfinished (t ++ ['>']) := by
  obtain ⟨stack, last, rfl, hlen, hshallow, hstands⟩ := hr
  obtain ⟨node, b, l, outer, hend, hopen, rfl⟩ := closeList_cases h
  obtain ⟨p, rfl, hnest⟩ := hstands.exists_phrase hshallow.length_le (not_isBlank_of_endName hend)
  cases stack with
  | nil => simp [hopen] at hlen
  | cons k stack =>
    -- the list on top of the stack, closed after `p`, is the piece read last from now on
    obtain ⟨first, others, hparams, htext⟩ := k.exists_list p Gap.empty
    refine ⟨stack, _, ?_, by simpa [hopen] using hlen, hshallow.2.2, k.seg, first, others,
      Gap.empty, rfl, Pending.Shallow.nesting_list_le hshallow hparams hnest⟩
    rw [htext]
    simp [Pending.stackText, Gap.empty]

theorem unfinished_nextParameter {t : List Char} (hr : r.Unfinished t)
    (h : r.nextParameter = .ok s) : s.Unfinished (t ++ [',']) := by
  obtain ⟨stack, last, rfl, hlen, hshallow, hstands⟩ := hr
  obtain ⟨node, b, l, outer, hend, hopen, rfl⟩ := nextParameter_cases h
  obtain ⟨p, rfl, hnest⟩ := hstands.exists_phrase hshallow.length_le (not_isBlank_of_endName hend)
  cases stack with
  | nil => simp [hopen] at hlen
  | cons k stack =>
    obtain ⟨hlt, hread, hshallow⟩ := hshallow
    refine ⟨⟨k.seg, k.read ++ [p]⟩ :: stack, [], ?_, hlen, ⟨hlt, ?_, hshallow⟩, rfl, by simp⟩
    · simp [Pending.stackText, Pending.text]
    · intro q hq
      rcases List.mem_append.1 hq with hq | hq
      · exact hread q hq
      · rw [List.mem_singleton.1 hq]
        rw [List.length_cons] at hnest
        omega

theorem unfinished_takeChar {t : List Char} {c : Char} (hr : r.Unfinished t)
    (hc : ¬ isDelimiter c) (h : r.takeChar c = .ok s) : s.Unfinished (t ++ [c]) := by
  obtain ⟨stack, last, rfl, hlen, hshallow, hstands⟩ := hr
  rcases takeChar_cases h with ⟨start, reversed, hphase, rfl⟩ | ⟨node, hphase, hblank, rfl⟩
  · rw [hphase] at hstands
    obtain ⟨rfl, hplain⟩ := hstands
    refine ⟨stack, reversed.reverse ++ [c], by simp, hlen, hshallow, by simp, ?_⟩
    intro d hd
    rcases List.mem_append.1 hd with hd | hd
    · exact hplain d hd
    · rw [List.mem_singleton.1 hd]
      exact hc
  · simp only [hphase] at hstands
    obtain ⟨seg, first, others, gap, rfl, hnest⟩ := hstands
    have hgap : Text.IsBlank (gap.chars ++ [c]) :=
      Text.isBlank_append gap.blank (by simpa [Text.IsBlank] using hblank)
    refine ⟨stack, (Phrase.list seg first others ⟨_, hgap⟩).text, ?_, hlen, hshallow, ?_⟩
    · simp [Phrase.text_list]
    · rw [hphase]
      refine ⟨seg, first, others, _, rfl, ?_⟩
      rw [Phrase.nesting] at hnest ⊢
      exact hnest

/-- **One step.** Each character goes on with the unfinished phrase. -/
theorem unfinished_step (r s : Reader) (t : List Char) (c : Char) (hr : r.Unfinished t)
    (h : r.step c = .ok s) : s.Unfinished (t ++ [c]) := by
  rcases step_cases h with ⟨rfl, h⟩ | ⟨rfl, h⟩ | ⟨rfl, h⟩ | ⟨hc, h⟩
  · exact unfinished_openList hr h
  · exact unfinished_closeList hr h
  · exact unfinished_nextParameter hr h
  · exact unfinished_takeChar hr hc h

theorem unfinished_run {a : Arena} {parent : Option Nat} {t : List Char}
    (h : (start a parent).run t = .ok r) : r.Unfinished t :=
  run_induction unfinished_step (unfinished_start a parent) h

/-- Where the text may end, the unfinished phrase is finished. -/
theorem exists_phrase_of_finish {t : List Char} {added : Nat × Arena} (hr : r.Unfinished t)
    (h : r.finish = .ok added) : ∃ p : Phrase, p.text = t ∧ p.nesting ≤ maxNesting := by
  obtain ⟨stack, last, rfl, hlen, hshallow, hstands⟩ := hr
  unfold finish at h
  cases hend : r.endName none with
  | error e => rw [hend] at h; cases h
  | ok ended =>
    rw [hend] at h
    obtain ⟨p, rfl, hnest⟩ := hstands.exists_phrase hshallow.length_le (not_isBlank_of_endName hend)
    cases hopen : r.opened with
    | cons l outer => rw [hopen] at h; cases h
    | nil =>
      obtain rfl : stack = [] := List.eq_nil_of_length_eq_zero (by rw [hlen, hopen]; rfl)
      exact ⟨p, rfl, by simpa using hnest⟩

end Reader

/-! ### Acceptance -/

/-- A text that is read to its end is that of a phrase that is not nested too deep. -/
theorem exists_phrase_of_readUnder {a b : Arena} {descriptor : String} {parent : Option Nat}
    {node : Nat} (h : readUnder a descriptor parent = (.ok node, b)) :
    ∃ p : Phrase, p.text = descriptor.toList ∧ p.nesting ≤ maxNesting := by
  unfold readUnder at h
  cases hrun : (Reader.start a parent).run descriptor.toList with
  | error stopped => rw [hrun] at h; cases (Prod.mk.inj h).1
  | ok r =>
    rw [hrun] at h
    cases hfinish : r.finish with
    | error stopped =>
      rw [show Except.ok r >>= Reader.finish = r.finish from rfl, hfinish] at h
      cases (Prod.mk.inj h).1
    | ok added => exact Reader.exists_phrase_of_finish (Reader.unfinished_run hrun) hfinish

/-- **Parsing.** The trees that parsing gives are those of the phrases with the text. -/
theorem parse_eq_ok_iff {descriptor : String} {t : TypeTree} :
    parse descriptor = .ok t ↔
      ∃ p : Phrase, p.text = descriptor.toList ∧ p.nesting ≤ maxNesting ∧
        t = TypeTree.ofExpr p.expr := by
  constructor
  · intro h
    have hread : ∃ node b, readUnder Arena.empty descriptor none = (.ok node, b) := by
      rcases hr : readUnder Arena.empty descriptor none with ⟨e | node, b⟩
      · rw [parse, hr] at h; cases h
      · exact ⟨node, b, rfl⟩
    obtain ⟨node, b, hread⟩ := hread
    obtain ⟨p, htext, hnest⟩ := exists_phrase_of_readUnder hread
    exact ⟨p, htext, hnest, Except.ok.inj (h.symm.trans (parse_phrase htext hnest))⟩
  · rintro ⟨p, htext, hnest, rfl⟩
    exact parse_phrase htext hnest

/-- **The parser accepts its grammar.** A descriptor is accepted exactly if it has a derivation in
which at most 256 lists are open at once; it has no two derivations; and the tree built
for an accepted descriptor is that of its derivation. -/
theorem parse_accepts_grammar (descriptor : String) :
    ((∃ t, parse descriptor = .ok t) ↔
      ∃ p : Phrase, p.text = descriptor.toList ∧ p.nesting ≤ 256) ∧
    (∀ p q : Phrase, p.text = descriptor.toList → q.text = descriptor.toList → p = q) ∧
    (∀ t (p : Phrase), parse descriptor = .ok t → p.text = descriptor.toList →
      t.root.toExpr = p.expr) := by
  refine ⟨⟨?_, ?_⟩, ?_, ?_⟩
  · rintro ⟨t, ht⟩
    obtain ⟨p, htext, hnest, -⟩ := parse_eq_ok_iff.1 ht
    exact ⟨p, htext, hnest⟩
  · rintro ⟨p, htext, hnest⟩
    exact ⟨_, parse_phrase htext hnest⟩
  · exact fun p q hp hq => Phrase.text_injective (hp.trans hq.symm)
  · intro t p ht htext
    obtain ⟨q, hq, -, rfl⟩ := parse_eq_ok_iff.1 ht
    rw [Phrase.text_injective (hq.trans htext.symm), TypeTree.toExpr_ofExpr]

end TypeGrading.Descriptor
