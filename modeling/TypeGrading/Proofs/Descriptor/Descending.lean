import TypeGrading.Proofs.Descriptor.Calls
import TypeGrading.Proofs.Descriptor.Causes

/-!
# Descending

Reading a descriptor by calls gives what reading it by character gives.

* `Agrees`, `ReadsAlike`: a call comes to what the reader comes to that begins with it;
* `params_agrees`, `typeBody_agrees`: lists and calls agree with the reader if the calls inside them
  do;
* `unrolled_agrees`, `readBy_agrees`: so they do with one level of calls more than lists may nest;
* `cursor_stays_on_boundaries`: where the cursor gets to on the way.
-/

namespace TypeGrading.Descriptor

open TypeGrading.Tree

/-! ### Agreement -/

/-- What a call comes to is what the reader comes to that begins with it: it goes on from the type
that the call has read, with the lists open that are open around it, or it stops where the call
stops. -/
inductive Agrees (text front rest : List Char) (r : Reader) (outer : List OpenList) :
    Except Halted (Nat × Cursor) → Prop
  | read {mid rest' : List Char} {s : Reader} {id : Nat} {c : Cursor} (hrest : rest = mid ++ rest')
      (hrun : r.run mid = .ok s) (h : s.Follows c text (front ++ mid) rest' outer r.parent id) :
      Agrees text front rest r outer (.ok (id, c))
  | stopped {f : Fault} {c : Cursor} (h : r.Stops f c text rest) :
      Agrees text front rest r outer (.error ⟨.fault f, c⟩)

/-- Calls with so many lists open around them agree with the reader. -/
def ReadsAlike (text : List Char) (nested : Call → Except Halted (Nat × Cursor)) (depth : Nat) :
    Prop :=
  ∀ (call : Call) (front rest : List Char) (r : Reader), call.depth = depth →
    call.cursor.At text front rest → r.Begins call → (depth = 0 → ¬ Text.IsBlank rest) →
    Agrees text front rest r r.opened (nested call)

section Agreement

variable {text front mid rest : List Char} {r s : Reader} {outer : List OpenList} {c : Cursor}
  {nested : Call → Except Halted (Nat × Cursor)}

/-- Agreement from a later place of the reader on. -/
theorem Agrees.after {result : Except Halted (Nat × Cursor)} (hrun : r.run mid = .ok s)
    (hparent : s.parent = r.parent) (h : Agrees text (front ++ mid) rest s outer result) :
    Agrees text front (mid ++ rest) r outer result := by
  cases h with
  | read hrest hrun' h =>
    subst hrest
    refine .read (List.append_assoc _ _ _).symm ((Reader.run_append_eq hrun _).trans hrun') ?_
    rwa [hparent, List.append_assoc] at h
  | stopped h => exact .stopped (h.after hrun)

/-- A call that agrees with the reader, and the blanks behind its type. -/
theorem round_agrees {result : Except Halted (Nat × Cursor)}
    (h : Agrees text front rest r r.opened result) :
    (∃ f c, result = .error ⟨.fault f, c⟩ ∧ r.Stops f c text rest) ∨
    (∃ id c d mid rest' s, result = .ok (id, c) ∧ c.skipBlanks text = .ok d ∧
      rest = mid ++ rest' ∧ r.run mid = .ok s ∧
      s.Follows d text (front ++ mid) rest' r.opened r.parent id ∧
      ∀ x ∈ rest'.head?, ¬ Text.isBlank x) := by
  cases h with
  | stopped h => exact Or.inl ⟨_, _, rfl, h⟩
  | @read mid behind s id c hrest hrun h =>
    obtain ⟨blanks, rest', s', d, rfl, hblanks, hskip, hfollows, hhead⟩ := h.skipBlanks
    rw [List.append_assoc] at hfollows
    exact Or.inr ⟨id, c, d, mid ++ blanks, rest', s', rfl, hskip,
      hrest.trans (List.append_assoc _ _ _).symm, (Reader.run_append_eq hrun _).trans hblanks,
      hfollows, hhead⟩

/-! ### Parameter lists -/

variable {owner opened : Nat}

/-- **Parameter lists.** If the calls for the parameters agree with the reader, so does the list. -/
theorem params_agrees (hnested : ReadsAlike text nested (outer.length + 1))
    (hc : c.At text front rest) (hr : r.Begins ⟨c, some owner, outer.length + 1⟩)
    (hopened : r.opened = ⟨owner, opened⟩ :: outer) (hboundary : Text.IsBoundary text opened) :
    Agrees text front rest r outer
      (params text nested owner (outer.length + 1) opened c) := by
  -- each round leaves less of the text
  induction hahead : c.ahead text using Nat.strong_induction_on generalizing c front rest r with
  | _ n ih =>
    subst hahead
    have hcall := hnested _ front rest r rfl hc hr fun h => absurd h (Nat.succ_ne_zero _)
    rw [params]
    rcases round_agrees hcall with ⟨f, d, hresult, hstops⟩ |
      ⟨id, d, e, mid, rest, s, hresult, hskip, rfl, hrun, hfollows, hhead⟩
    · rw [hresult]
      exact .stopped hstops
    · have he := hfollows.located
      rw [hopened] at hfollows
      refine Agrees.after hrun hfollows.holds.parent_eq ?_
      simp only [bind, Except.bind, hresult, hskip, he.peek_eq_some_iff (d := ',') rfl,
        he.peek_eq_some_iff (d := '>') rfl, he.peek_eq_none_iff]
      rcases hfollows.behind_parameter hhead hboundary with ⟨rfl, hstops⟩ |
        ⟨rest, s', rfl, hstep, hopened', hparent, hbegins⟩ | ⟨rest, s', rfl, hstep, hfollows'⟩ |
        ⟨x, rest, rfl, hcomma, hclose, hstops⟩
      · exact .stopped hstops
      · have hnext := he.moveTo_char (d := ',') rfl
        have hless : (e.moveTo (e.pos + 1)).ahead text < c.ahead text := by
          rw [hnext.ahead_eq, hc.ahead_eq, Text.byteLength_append, Text.byteLength_cons]
          have := ','.utf8Size_pos
          omega
        rw [if_pos (List.head?_cons), if_pos hless]
        exact Agrees.after (Reader.run_of_step hstep)
          (hparent.trans hfollows.holds.parent_eq.symm) (ih _ hless hnext hbegins hopened' rfl)
      · rw [← hfollows.holds.parent_eq] at hfollows'
        exact .read (List.singleton_append).symm (Reader.run_of_step hstep) hfollows'
      · simp only [List.head?_cons, Option.some.injEq, hcomma, hclose, reduceCtorEq, if_false]
        exact .stopped hstops

/-! ### Types -/

/-- A name that has been added, with the parameters behind it. -/
theorem behindName_agrees {depth id start : Nat} {reversed : List Char}
    (hnested : depth + 1 ≤ maxNesting → ReadsAlike text nested (depth + 1))
    (hc : c.At text front rest) (hrest : ∀ d ∈ rest.head?, isDelimiter d)
    (hphase : r.phase = .naming start reversed) (hoffset : r.offset = c.pos)
    (hend : ∀ next, r.endName next = .ok (id, c.arena)) (hdepth : r.opened.length = depth) :
    Agrees text front rest r r.opened (behindName text nested depth id c) := by
  subst hdepth
  simp only [behindName, ne_eq, hc.peek_eq_some_iff (d := '<') rfl]
  by_cases hopen : rest.head? = some '<'
  · obtain ⟨rest, rfl⟩ := List.head?_eq_some_iff.1 hopen
    rw [if_neg (not_not.2 hopen)]
    by_cases hdeep : r.opened.length + 1 > maxNesting
    · rw [if_pos hdeep]
      have hstep : r.step '<' = .error ⟨.depthExceeded maxNesting, c.arena⟩ := by
        simp only [Reader.step, Reader.openList, hphase, hend, if_true]
        exact if_pos hdeep
      exact .stopped ⟨Reader.complete_cons_of_error hstep rest, hc.sound, trivial⟩
    · rw [if_neg hdeep]
      have nest := Nat.not_lt.1 hdeep
      refine Agrees.after (Reader.run_of_step (Reader.openList_eq hphase hend nest)) rfl ?_
      refine params_agrees (hnested nest) (hc.moveTo_char rfl) ?_ ?_ hc.isBoundary
      · exact ⟨rfl, congrArg (· + 1) hoffset,
          congrArg (fun offset => Phase.naming (offset + 1) []) hoffset, rfl, rfl⟩
      · rw [hoffset]
  · rw [if_pos hopen]
    refine .read rfl rfl ⟨by rwa [List.append_nil], hoffset, ⟨rfl, rfl, hend⟩, ?_⟩
    intro d hd hclose hcomma
    rw [Option.mem_def.1 hd] at hopen
    exact absurd (congrArg some (eq_of_isDelimiter (hrest d hd) hclose hcomma)) hopen

/-- **One call.** If the calls for its parameters agree with the reader, so does a call. -/
theorem typeBody_agrees {depth : Nat}
    (hnested : depth + 1 ≤ maxNesting → ReadsAlike text nested (depth + 1)) :
    ReadsAlike text (typeBody text nested) depth := by
  rintro call front rest r rfl hc hr hblank
  obtain ⟨name, rest, rfl, hname, hrest⟩ : ∃ name rest', rest = name ++ rest' ∧
      (∀ d ∈ name, ¬ isDelimiter d) ∧ ∀ d ∈ rest'.head?, isDelimiter d := by
    obtain ⟨rest', hsplit, hrest⟩ := exists_append_beforeDelimiter rest
    exact ⟨_, rest', hsplit, plain_beforeDelimiter rest, hrest⟩
  have hrun := Reader.run_plain hr.phase_eq hname
  refine Agrees.after hrun rfl ?_
  have hmove := hc.moveTo
  simp only [typeBody, bind, Except.bind, hc.nameEnd_eq hname hrest, hc.slice_eq]
  have hreversed : (name.reverse ++ []).reverse = name := by simp
  by_cases htrim : Text.trim name = []
  · -- outside every list the end of the text cannot come next, since the text is not blank
    have hnil : r.opened = [] → rest ≠ [] := by
      rintro hopened rfl
      rw [← hr.depth_eq, hopened, List.append_nil] at hblank
      exact hblank rfl (Text.trim_eq_nil_iff.1 htrim)
    rw [if_pos htrim, ← hr.depth_eq, Reader.missingAt_eq hmove hrest hnil]
    refine .stopped ⟨Reader.complete_of_endName_error rfl hrest ?_, hmove.sound, hc.isBoundary⟩
    simp only [Reader.endName, hreversed, htrim, if_true, Reader.malformed, hr.arena_eq]
    rfl
  · rw [if_neg htrim]
    simp only [Cursor.moveTo, ← hr.arena_eq, ← hr.owner_eq]
    cases hadd : r.arena.addUnder r.owner (String.ofList (Text.trim name)) with
    | error e =>
      refine .stopped ⟨Reader.complete_of_endName_error rfl hrest ?_,
        (hmove.withArena r.arena).sound, Fault.onBoundary_ofEdit text e⟩
      rw [← hreversed] at htrim hadd
      exact Reader.endName_eq_error rfl htrim hadd
    | ok added =>
      obtain ⟨id, b⟩ := added
      rw [← hreversed] at htrim hadd
      exact behindName_agrees hnested (hmove.withArena b) hrest rfl
        (congrArg (· + Text.byteLength name) hr.offset_eq)
        (fun next => Reader.endName_eq_ok rfl htrim hadd) hr.depth_eq

/-- **Levels of calls.** A call with `depth` lists open around it agrees with the reader when the
calls may nest as deep as lists may, whatever the calls beyond that did. -/
theorem unrolled_agrees (beyond : Call → Except Halted (Nat × Cursor)) {levels depth : Nat}
    (hdepth : depth ≤ maxNesting) (hlevels : maxNesting < depth + levels) :
    ReadsAlike text (unrolled (typeBody text) beyond levels) depth := by
  induction levels generalizing depth with
  | zero => omega
  | succ levels ih => exact typeBody_agrees fun hnested => ih hnested (by omega)

end Agreement

/-! ### Whole texts -/

/-- **Whole texts.** The reading of a text agrees with the reader if the calls do. -/
theorem readText_agrees {text : List Char} {nested : Call → Except Halted (Nat × Cursor)}
    (hnested : ReadsAlike text nested 0) (a : Arena) (parent : Option Nat) :
    (∃ id c, readText text nested a parent = .ok (id, c) ∧ c.Sound text ∧
      (Reader.start a parent).complete text = .ok (id, c.arena)) ∨
    (∃ f c, readText text nested a parent = .error ⟨.fault f, c⟩ ∧
      (Reader.start a parent).Stops f c text text) := by
  by_cases htrim : Text.trim text = []
  · exact Or.inr ⟨_, _, if_pos htrim,
      Reader.stops_of_isBlank (Text.trim_eq_nil_iff.1 htrim) a parent⟩
  · have hblank : ¬ Text.IsBlank text := fun h => htrim (Text.trim_eq_nil_iff.2 h)
    have hcall := hnested ⟨⟨0, [], a⟩, parent, 0⟩ [] text (Reader.start a parent) rfl
      (Cursor.at_start text a) ⟨rfl, rfl, rfl, rfl, rfl⟩ fun _ => hblank
    simp only [readText, if_neg htrim]
    rcases round_agrees hcall with ⟨f, d, hresult, hstops⟩ |
      ⟨id, c, d, mid, rest, s, hresult, hskip, rfl, hrun, hfollows, hhead⟩
    · rw [hresult]
      exact Or.inr ⟨f, d, rfl, hstops⟩
    · have hd := hfollows.located
      simp only [bind, Except.bind, hresult, hskip, hd.peek_eq_some_iff (d := '>') rfl,
        hd.peek_eq_none_iff]
      rcases hfollows.behind_text hhead with ⟨rfl, hread⟩ | ⟨rest, rfl, hstops⟩ |
        ⟨x, rest, rfl, hclose, hstops⟩
      · exact Or.inl ⟨id, d, rfl, hd.sound, (Reader.complete_append hrun []).trans hread⟩
      · exact Or.inr ⟨_, d, rfl, hstops.after hrun⟩
      · have hpeek : (x :: rest).head? ≠ some '>' := by simpa using hclose
        rw [if_neg (List.cons_ne_nil x rest), if_neg hpeek]
        exact Or.inr ⟨_, d, rfl, hstops.after hrun⟩

/-! ### Descriptors -/

/-- **Two readings.** Reading by calls comes to what reading by character comes to. It never stops
for another cause than a fault, and leaves the same arena. -/
theorem readBy_agrees (beyond : Call → Except Halted (Nat × Cursor)) {levels : Nat}
    (hlevels : maxNesting < levels) (a : Arena) (descriptor : String) (parent : Option Nat) :
    ∃ c : Cursor, c.Sound descriptor.toList ∧
      ((∃ id, readBy beyond levels a descriptor parent = .ok (id, c) ∧
        readUnder a descriptor parent = (.ok id, c.arena)) ∨
      ∃ f, readBy beyond levels a descriptor parent = .error ⟨.fault f, c⟩ ∧
        f.OnBoundary descriptor.toList ∧
        readUnder a descriptor parent = (.error ⟨descriptor, f⟩, c.arena.truncate a.size)) := by
  have hcalls : ReadsAlike descriptor.toList
      (unrolled (typeBody descriptor.toList) beyond levels) 0 :=
    unrolled_agrees beyond (Nat.zero_le _) (hlevels.trans_eq (Nat.zero_add _).symm)
  rcases readText_agrees hcalls a parent with ⟨id, c, hread, hsound, hcomplete⟩ |
    ⟨f, c, hread, hstops⟩
  · refine ⟨c, hsound, Or.inl ⟨id, hread, ?_⟩⟩
    rw [Reader.complete] at hcomplete
    rw [readUnder, hcomplete]
  · refine ⟨c, hstops.sound, Or.inr ⟨f, hread, hstops.onBoundary, ?_⟩⟩
    have hcomplete := hstops.complete_eq
    rw [Reader.complete] at hcomplete
    rw [readUnder, hcomplete]

theorem isValid_of_isBoundary {descriptor : String} {p : Nat}
    (h : Text.IsBoundary descriptor.toList p) :
    p ≤ descriptor.utf8ByteSize ∧ String.Pos.Raw.IsValid descriptor ⟨p⟩ :=
  ⟨Text.byteLength_toList descriptor ▸ h.le, Text.isBoundary_toList_iff.1 h⟩

/-- A malformation is told at a boundary. -/
theorem isValid_of_malformed {a : Arena} {descriptor : String} {parent : Option Nat}
    {e : DescriptorError} {offset : Nat} {reason : Malformation}
    (h : (readUnder a descriptor parent).1 = .error e) (he : e.fault = .malformed offset reason) :
    offset ≤ descriptor.utf8ByteSize ∧ String.Pos.Raw.IsValid descriptor ⟨offset⟩ := by
  obtain ⟨c, -, ⟨id, -, hread⟩ | ⟨f, -, hboundary, hread⟩⟩ :=
    readBy_agrees (fun call => call.cursor.halt .idle) (Nat.lt_succ_self maxNesting) a descriptor
      parent
  · rw [hread] at h
    cases h
  · rw [hread] at h
    obtain rfl := Except.error.inj h
    obtain rfl : f = .malformed offset reason := he
    exact isValid_of_isBoundary hboundary

/-- **The cursor stays on boundaries.** A descriptor is read by calls into any arena, under any
parent, without a cut out of range or inside a character and without a round that gets nowhere: the
reading ends with the node, or the fault, and the arena that reading by character gives. The offsets
that the cursor comes to lie between characters of the descriptor, or at an end, and go forward. The
offset of a malformation lies there too, whether the descriptor is read into an arena or parsed. -/
theorem cursor_stays_on_boundaries (beyond : Call → Except Halted (Nat × Cursor)) (a : Arena)
    (descriptor : String) (parent : Option Nat) :
    (∃ c : Cursor,
      (∀ p ∈ c.positions, p ≤ descriptor.utf8ByteSize ∧ String.Pos.Raw.IsValid descriptor ⟨p⟩) ∧
      c.positions.Pairwise (· ≥ ·) ∧
      ((∃ id, readBy beyond 257 a descriptor parent = .ok (id, c) ∧
        readUnder a descriptor parent = (.ok id, c.arena)) ∨
      ∃ f, readBy beyond 257 a descriptor parent = .error ⟨.fault f, c⟩ ∧
        readUnder a descriptor parent = (.error ⟨descriptor, f⟩, c.arena.truncate a.size))) ∧
    ∀ e offset reason,
      (readUnder a descriptor parent).1 = .error e ∨ parse descriptor = .error e →
      e.fault = .malformed offset reason →
      offset ≤ descriptor.utf8ByteSize ∧ String.Pos.Raw.IsValid descriptor ⟨offset⟩ := by
  constructor
  · obtain ⟨c, hsound, hread⟩ :=
      readBy_agrees beyond (Nat.lt_succ_self maxNesting) a descriptor parent
    refine ⟨c, fun p hp => isValid_of_isBoundary (hsound.boundary p hp), hsound.forward, ?_⟩
    rcases hread with hread | ⟨f, hstop, -, hread⟩
    · exact Or.inl hread
    · exact Or.inr ⟨f, hstop, hread⟩
  · rintro e offset reason (he | he) hmalformed
    · exact isValid_of_malformed he hmalformed
    · exact isValid_of_malformed (congrArg Prod.fst (parse_eq_error_iff_readUnder.1 he)) hmalformed

/-- Names of two bytes a character, and a blank of three before the text that is too much. -/
theorem cursor_stays_on_boundaries_umlaut :
    parse "Größe<ä>\u3000ü" = .error ⟨"Größe<ä>\u3000ü", .malformed 14 .trailingInput⟩ ∧
      14 ≤ "Größe<ä>\u3000ü".utf8ByteSize ∧ String.Pos.Raw.IsValid "Größe<ä>\u3000ü" ⟨14⟩ := by
  have hparse : parse "Größe<ä>\u3000ü" =
      .error ⟨"Größe<ä>\u3000ü", .malformed 14 .trailingInput⟩ := by decide +kernel
  have hboundary := (cursor_stays_on_boundaries (fun call => call.cursor.halt .idle) Arena.empty
    "Größe<ä>\u3000ü" none).2 _ 14 .trailingInput (Or.inr hparse) rfl
  exact ⟨hparse, hboundary⟩

end TypeGrading.Descriptor
