import TypeGrading.Descriptor.Reader
import TypeGrading.Proofs.Descriptor.Grammar
import TypeGrading.Proofs.Text.Trimming
import TypeGrading.Proofs.Tree.Placing

/-!
# Reading a derivation

A reader that is given the text of a phrase places the tree of its expression.

* `Reader.Holds`: the reader has read a whole type, which is at some node of some arena;
* `Reader.run_phrase`: from the start of a name, the text of a phrase leads to such a state;
* `readUnder_phrase`, `parse_phrase`: what is left behind in an arena, and the tree of a whole text.
-/

namespace TypeGrading.Descriptor

open TypeGrading.Tree

/-! ### Names -/

theorem Segment.trim_ne_nil (s : Segment) : Text.trim s.chars ≠ [] := by
  rw [Ne, Text.trim_eq_nil_iff]
  exact s.not_blank

/-- The name that a segment denotes can be added to a tree. -/
theorem Segment.isName (s : Segment) : IsName s.name := by
  constructor
  · rw [name, String.toList_ofList, ← Text.trim_eq_nil_iff, Text.trim_trim]
    exact s.trim_ne_nil
  · intro c hc
    rw [name, String.toList_ofList] at hc
    exact s.plain c (Text.mem_of_mem_trim hc)

namespace Reader

variable {r s : Reader}

/-! ### Single characters -/

theorem run_cons_eq {c : Char} (h : r.step c = .ok s) (t : List Char) :
    r.run (c :: t) = s.run t :=
  congrArg (fun x : Except Stopped Reader => x >>= fun q => q.run t) h

theorem run_append_eq {t : List Char} (h : r.run t = .ok s) (u : List Char) :
    r.run (t ++ u) = s.run u :=
  List.foldlM_append.trans
    (congrArg (fun x : Except Stopped Reader => x >>= fun q => q.run u) h)

theorem step_plain {c : Char} (hc : ¬ isDelimiter c) : r.step c = r.takeChar c := by
  simp only [isDelimiter, Bool.or_eq_true, beq_iff_eq, not_or] at hc
  simp [step, hc]

theorem run_plain {start : Nat} {reversed t : List Char} (hr : r.phase = .naming start reversed)
    (ht : ∀ c ∈ t, ¬ isDelimiter c) :
    r.run t = .ok { r with
      offset := r.offset + Text.byteLength t
      phase := .naming start (t.reverse ++ reversed) } := by
  induction t generalizing r reversed with
  | nil => cases r; cases hr; rfl
  | cons c t ih =>
    have hstep : r.step c = .ok { r with
        offset := r.offset + c.utf8Size
        phase := .naming start (c :: reversed) } := by
      rw [step_plain (ht c (by simp)), takeChar, hr]
    rw [run_cons_eq hstep]
    refine (ih rfl fun d hd => ht d (by simp [hd])).trans ?_
    simp [Nat.add_assoc]

theorem not_isDelimiter_of_isBlank {c : Char} (h : Text.isBlank c) : ¬ isDelimiter c := by
  intro hc
  simp only [isDelimiter, Bool.or_eq_true, beq_iff_eq] at hc
  rcases hc with (rfl | rfl) | rfl <;> exact absurd h (by decide)

theorem run_blank {node : Nat} {t : List Char} (hr : r.phase = .closed node)
    (ht : Text.IsBlank t) : r.run t = .ok { r with offset := r.offset + Text.byteLength t } := by
  induction t generalizing r with
  | nil => rfl
  | cons c t ih =>
    have hc := ht c (by simp)
    have hstep : r.step c = .ok { r with offset := r.offset + c.utf8Size } := by
      rw [step_plain (not_isDelimiter_of_isBlank hc), takeChar, hr]
      exact if_pos hc
    rw [run_cons_eq hstep]
    refine (ih (by exact hr) fun d hd => ht d (by simp [hd])).trans ?_
    simp [Nat.add_assoc]

/-! ### Whole types -/

/-- A whole type has been read: whatever comes next, it is at `node` in `b`. -/
structure Holds (r : Reader) (opened : List OpenList) (parent : Option Nat) (node : Nat)
    (b : Arena) : Prop where
  opened_eq : r.opened = opened
  parent_eq : r.parent = parent
  endName_eq : ∀ next, r.endName next = .ok (node, b)

theorem endName_eq_ok {start : Nat} {reversed : List Char} {next : Option Char}
    {added : Nat × Arena} (hphase : r.phase = .naming start reversed)
    (hname : Text.trim reversed.reverse ≠ [])
    (hadd : r.arena.addUnder r.owner (String.ofList (Text.trim reversed.reverse)) = .ok added) :
    r.endName next = .ok added := by
  simp only [endName, hphase, hname, if_false, hadd]

theorem endName_eq_error {start : Nat} {reversed : List Char} {next : Option Char}
    {e : EditError} (hphase : r.phase = .naming start reversed)
    (hname : Text.trim reversed.reverse ≠ [])
    (hadd : r.arena.addUnder r.owner (String.ofList (Text.trim reversed.reverse)) = .error e) :
    r.endName next = .error ⟨.ofEdit e, r.arena⟩ := by
  simp only [endName, hphase, hname, if_false, hadd]

/-- A segment is read, and its name is the one that is placed. -/
theorem run_segment (seg : Segment) {start : Nat} (hr : r.phase = .naming start [])
    (room : r.arena.HasRoom r.owner 0) :
    ∃ s b, r.run seg.chars = .ok s ∧ s.phase = .naming start seg.chars.reverse ∧
      s.Holds r.opened r.parent r.arena.size b ∧
      r.arena.place r.owner (TypeTree.ofExpr (.app seg.name [])) = .ok (r.arena.size, b) := by
  have room' : r.arena.HasRoom r.owner (TypeTree.ofExpr (.app seg.name [])).arena.deepest := by
    rw [TypeTree.deepest_ofExpr, TypeExpr.height_leaf]
    exact room
  obtain ⟨b, hb⟩ := Arena.place_ok room'
  refine ⟨_, b, run_plain hr seg.plain, by simp, ⟨rfl, rfl, fun next => ?_⟩, hb⟩
  rw [TypeTree.ofExpr_leaf, Arena.place_single seg.isName] at hb
  have hchars : (seg.chars.reverse ++ []).reverse = seg.chars := by simp
  refine endName_eq_ok rfl ?_ ?_
  · rw [hchars]
    exact seg.trim_ne_nil
  · rw [hchars]
    exact hb

/-- Take `<` after a segment. -/
theorem openList_eq {start node : Nat} {reversed : List Char} {b : Arena}
    (hr : r.phase = .naming start reversed) (hend : ∀ next, r.endName next = .ok (node, b))
    (nest : r.opened.length + 1 ≤ maxNesting) :
    r.step '<' = .ok { r with
      arena := b
      offset := r.offset + 1
      opened := ⟨node, r.offset⟩ :: r.opened
      phase := .naming (r.offset + 1) [] } := by
  simp only [step, openList, hr, hend, if_true]
  exact if_neg (Nat.not_lt.2 nest)

theorem nextParameter_eq {node : Nat} {b : Arena} {l : OpenList} {outer : List OpenList}
    {parent : Option Nat} (h : r.Holds (l :: outer) parent node b) :
    r.step ',' = .ok { r with
      arena := b
      offset := r.offset + 1
      phase := .naming (r.offset + 1) [] } := by
  simp only [step, nextParameter, h.endName_eq, h.opened_eq]
  rfl

theorem closeList_eq {node : Nat} {b : Arena} {l : OpenList} {outer : List OpenList}
    {parent : Option Nat} (h : r.Holds (l :: outer) parent node b) :
    r.step '>' = .ok { r with
      arena := b
      offset := r.offset + 1
      opened := outer
      phase := .closed l.owner } := by
  simp only [step, closeList, h.endName_eq, h.opened_eq]
  rfl

/-! ### Phrases -/

/-- The text of a phrase is read to its end, and places the tree of the phrase. -/
def Reads (p : Phrase) : Prop :=
  ∀ (r : Reader) (start : Nat), r.phase = .naming start [] →
    r.opened.length + p.nesting ≤ maxNesting → r.arena.HasRoom r.owner p.nesting →
    ∃ s b, r.run p.text = .ok s ∧ s.Holds r.opened r.parent r.arena.size b ∧
      r.arena.place r.owner (TypeTree.ofExpr p.expr) = .ok (r.arena.size, b)

section Params

variable {a : Arena} {parent up : Option Nat} {name : String} {l : OpenList}
  {outer : List OpenList}

/-- One more parameter of the innermost list is read. The arena holds the tree of the type so far,
placed in `a`, and holds it with one more parameter afterwards. -/
theorem run_param {p : Phrase} (hp : Reads p) {done : List TypeExpr} {start : Nat}
    (hr : r.phase = .naming start []) (hopen : r.opened = l :: outer) (hown : l.owner = a.size)
    (hplace : a.place parent (TypeTree.ofExpr (.app name done)) = .ok (a.size, r.arena))
    (nest : outer.length + (p.nesting + 1) ≤ maxNesting)
    (room : a.HasRoom parent (TypeExpr.app name (done ++ [p.expr])).height) :
    ∃ s c node, r.run p.text = .ok s ∧ s.Holds r.opened r.parent node c ∧
      a.place parent (TypeTree.ofExpr (.app name (done ++ [p.expr]))) = .ok (a.size, c) := by
  have room' : a.HasRoom parent
      ((TypeTree.ofExpr (.app name done)).grow (TypeTree.ofExpr p.expr)).arena.deepest := by
    rw [← TypeTree.ofExpr_append_singleton, TypeTree.deepest_ofExpr]
    exact room
  obtain ⟨b, c, hb, hroom, hc, hgrown⟩ := Arena.place_grow (TypeTree.root_ofExpr _).2 room'
  obtain rfl : r.arena = b := (Prod.mk.inj (Except.ok.inj (hplace.symm.trans hb))).2
  have howner : r.owner = some a.size := by rw [owner, hopen, ← hown]
  rw [TypeTree.deepest_ofExpr, Phrase.height_expr] at hroom
  obtain ⟨s, c', hrun, hs, hc'⟩ := hp r start hr (by rw [hopen, List.length_cons]; omega)
    (howner ▸ hroom)
  rw [howner, hc] at hc'
  obtain rfl : c = c' := (Prod.mk.inj (Except.ok.inj hc')).2
  exact ⟨s, c, _, hrun, hs, by rw [TypeTree.ofExpr_append_singleton]; exact hgrown⟩

/-- The parameters after the first one are read, each with its comma. -/
theorem run_others {ps : List Phrase} (hps : ∀ p ∈ ps, Reads p) {done : List TypeExpr}
    {node : Nat} {b : Arena} (hr : r.Holds (l :: outer) up node b) (hown : l.owner = a.size)
    (hplace : a.place parent (TypeTree.ofExpr (.app name done)) = .ok (a.size, b))
    (nest : ∀ p ∈ ps, outer.length + (p.nesting + 1) ≤ maxNesting)
    (room : a.HasRoom parent (TypeExpr.app name (done ++ ps.map Phrase.expr)).height) :
    ∃ s c node, r.run (Phrase.others ps) = .ok s ∧ s.Holds (l :: outer) up node c ∧
      a.place parent (TypeTree.ofExpr (.app name (done ++ ps.map Phrase.expr))) =
        .ok (a.size, c) := by
  -- each parameter read moves from the list to `done`, and the tree placed grows with it
  induction ps generalizing r done node b with
  | nil => exact ⟨r, b, node, rfl, hr, by simpa using hplace⟩
  | cons p ps ih =>
    have hdone : done ++ (p :: ps).map Phrase.expr = (done ++ [p.expr]) ++ ps.map Phrase.expr := by
      simp
    rw [hdone] at room ⊢
    have room' : a.HasRoom parent (TypeExpr.app name (done ++ [p.expr])).height :=
      room.mono (TypeExpr.height_le_height_append name _ _)
    obtain ⟨s, c, node', hrun, hs, hplace'⟩ := run_param (hps p (by simp))
      (r := { r with arena := b, offset := r.offset + 1, phase := .naming (r.offset + 1) [] })
      rfl hr.opened_eq hown hplace (nest p (by simp)) room'
    have hs' : s.Holds (l :: outer) up node' c := by
      rw [← hr.opened_eq, ← hr.parent_eq]
      exact hs
    obtain ⟨s', c', node'', hrun', hs'', hplace''⟩ := ih (fun q hq => hps q (by simp [hq])) hs'
      hplace' (fun q hq => nest q (by simp [hq])) room
    refine ⟨s', c', node'', ?_, hs'', hplace''⟩
    rw [Phrase.others_cons, run_cons_eq (nextParameter_eq hr), run_append_eq hrun]
    exact hrun'

end Params

/-- **Reading a phrase.** Where the phrase may be nested that deep and there is room for its tree,
the reader reaches the end of its text and has placed the tree of its expression. -/
theorem run_phrase (p : Phrase) : Reads p := by
  induction p with
  | segment seg =>
    intro r start hr nest room
    rw [Phrase.nesting] at room
    rw [Phrase.text, Phrase.expr]
    obtain ⟨s, b, hrun, -, hs, hb⟩ := run_segment seg hr room
    exact ⟨s, b, hrun, hs, hb⟩
  | list seg first ps gap ihf iho =>
    intro r start hr nest room
    have deep : ∀ p ∈ first :: ps, r.opened.length + (p.nesting + 1) ≤ maxNesting := fun p hp => by
      have := Phrase.nesting_list_le_iff.1 (le_refl (Phrase.list seg first ps gap).nesting) p hp
      omega
    have room' : r.arena.HasRoom r.owner
        (TypeExpr.app seg.name ([first.expr] ++ ps.map Phrase.expr)).height := by
      rw [← Phrase.height_expr, Phrase.expr] at room
      exact room
    have roomf : r.arena.HasRoom r.owner (TypeExpr.app seg.name ([] ++ [first.expr])).height :=
      room'.mono (TypeExpr.height_le_height_append seg.name _ _)
    -- the segment, `<` and the first parameter, the others, `>` and the gap
    obtain ⟨s₁, b, hrun₁, hphase, hs₁, hb⟩ := run_segment seg hr (room.mono (Nat.zero_le _))
    have hopen := openList_eq hphase hs₁.endName_eq (by
      have := deep first (by simp)
      rw [hs₁.opened_eq]
      omega)
    obtain ⟨s₂, c, _, hrun₂, hs₂, hc⟩ := run_param (r := { s₁ with
        arena := b
        offset := s₁.offset + 1
        opened := ⟨r.arena.size, s₁.offset⟩ :: s₁.opened
        phase := .naming (s₁.offset + 1) [] }) ihf rfl rfl rfl hb
      (by rw [hs₁.opened_eq]; exact deep first (by simp)) roomf
    obtain ⟨s₃, d, _, hrun₃, hs₃, hd⟩ := run_others iho hs₂ rfl hc
      (fun p hp => by rw [hs₁.opened_eq]; exact deep p (by simp [hp])) room'
    have hclose := closeList_eq hs₃
    have hgap := run_blank (r := { s₃ with
        arena := d
        offset := s₃.offset + 1
        opened := s₁.opened
        phase := .closed r.arena.size }) rfl gap.blank
    rw [Phrase.expr]
    refine ⟨?last, d, ?run, ?holds, hd⟩
    case run =>
      rw [Phrase.text_list, run_append_eq hrun₁, run_cons_eq hopen, run_append_eq hrun₂,
        run_append_eq hrun₃, run_cons_eq hclose]
      exact hgap
    case holds => exact ⟨hs₁.opened_eq, hs₃.parent_eq.trans hs₁.parent_eq, fun _ => rfl⟩

end Reader

/-! ### Whole texts -/

theorem readUnder_eq_ok {a b : Arena} {parent : Option Nat} {descriptor : String} {r : Reader}
    {node : Nat} (hrun : (Reader.start a parent).run descriptor.toList = .ok r)
    (hfinish : r.finish = .ok (node, b)) : readUnder a descriptor parent = (.ok node, b) := by
  have hread : (Reader.start a parent).run descriptor.toList >>= Reader.finish = .ok (node, b) := by
    rw [hrun]
    exact hfinish
  rw [readUnder, hread]

/-- **A phrase in an arena.** Where it may be nested that deep and there is room for its tree, the
text of a phrase is read into the arena, and leaves its tree behind. -/
theorem readUnder_phrase {a : Arena} {parent : Option Nat} {descriptor : String} {p : Phrase}
    (htext : p.text = descriptor.toList) (nest : p.nesting ≤ maxNesting)
    (room : a.HasRoom parent p.nesting) :
    ∃ b, a.place parent (TypeTree.ofExpr p.expr) = .ok (a.size, b) ∧
      readUnder a descriptor parent = (.ok a.size, b) := by
  obtain ⟨s, b, hrun, hs, hb⟩ := Reader.run_phrase p (Reader.start a parent) 0 rfl
    (by simpa [Reader.start] using nest) room
  refine ⟨b, hb, ?_⟩
  have hfinish : s.finish = .ok (a.size, b) := by
    simp only [Reader.finish, hs.endName_eq, hs.opened_eq]
    rfl
  exact readUnder_eq_ok (htext ▸ hrun) hfinish

/-- The text of a phrase that is not nested too deep is the tree of its expression. -/
theorem parse_phrase {descriptor : String} {p : Phrase} (htext : p.text = descriptor.toList)
    (nest : p.nesting ≤ maxNesting) : parse descriptor = .ok (TypeTree.ofExpr p.expr) := by
  have room : Arena.empty.HasRoom none p.nesting := ⟨rfl, nest⟩
  obtain ⟨b, hb, hread⟩ := readUnder_phrase htext nest room
  obtain rfl : (TypeTree.ofExpr p.expr).arena = b := (Prod.mk.inj (Except.ok.inj hb)).2
  rw [parse, hread]
  simp [Arena.build, (TypeTree.ofExpr p.expr).rooted]

end TypeGrading.Descriptor
