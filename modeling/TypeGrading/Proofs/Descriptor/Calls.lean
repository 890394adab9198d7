import TypeGrading.Proofs.Descriptor.Cursor
import TypeGrading.Proofs.Descriptor.Reading
import TypeGrading.Proofs.Recursion

/-!
# Reading by calls

A descriptor read by recursive descent: each call reads one type at the cursor, and calls itself for
the parameters of that type, one after the other.

* `Call`, `typeBody`: one call, and what it does with calls for the parameters;
* `readText`, `readBy`: what is done around the first call, and with how many levels of calls;
* `Reader.Begins`, `Reader.Follows`, `Reader.Stops`: the reader by character stands where a call
  begins, where it has ended, or stops where it stops;
* `Reader.Follows.behind_parameter`, `Reader.Follows.behind_text`: what the reader does with what
  may come behind a type.
-/

namespace TypeGrading.Descriptor

open TypeGrading.Tree

/-! ### The calls -/

/-- A call for one type: where it begins, the node that it goes under, and how many lists are
open. -/
structure Call where
  cursor : Cursor
  parent : Option Nat
  depth : Nat

/-- Why a name is missing before the next byte. -/
def missingAt (depth : Nat) (next : Option UInt8) : Malformation :=
  if depth = 0 ∧ next = some '>'.toUInt8 then .unexpectedClose
  else if next = some '<'.toUInt8 ∨ depth = 0 then .emptyName
  else .emptyParameter

section Calls

variable (text : List Char) (nested : Call → Except Halted (Nat × Cursor))

/-- The parameters of a node, from the cursor to the `>` behind them; the list opened at an offset.
A round that does not come nearer to the end stops the reading. -/
def params (owner depth opened : Nat) (c : Cursor) : Except Halted (Nat × Cursor) := do
  let (_, d) ← nested ⟨c, some owner, depth⟩
  let d ← d.skipBlanks text
  if d.peek text = some ','.toUInt8 then
    if (d.moveTo (d.pos + 1)).ahead text < c.ahead text then
      params owner depth opened (d.moveTo (d.pos + 1))
    else (d.moveTo (d.pos + 1)).halt .idle
  else if d.peek text = some '>'.toUInt8 then pure (owner, d.moveTo (d.pos + 1))
  else if d.peek text = none then d.malformed opened .unclosedParameterList
  else d.malformed d.pos .trailingInput
termination_by c.ahead text

/-- What follows a name that has been added: its parameters, if `<` comes next. -/
def behindName (depth id : Nat) (c : Cursor) : Except Halted (Nat × Cursor) :=
  if c.peek text ≠ some '<'.toUInt8 then pure (id, c)
  else if depth + 1 > maxNesting then c.halt (.fault (.depthExceeded maxNesting))
  else params text nested id (depth + 1) c.pos (c.moveTo (c.pos + 1))

/-- One call: the name up to the next delimiter is added to the arena, then its parameters. -/
def typeBody (call : Call) : Except Halted (Nat × Cursor) := do
  let start := call.cursor.pos
  let stop ← call.cursor.nameEnd text
  let name := Text.trim (← call.cursor.slice text start stop)
  let c := call.cursor.moveTo stop
  if name = [] then c.malformed start (missingAt call.depth (c.peek text))
  else match c.arena.addUnder call.parent (String.ofList name) with
    | .error e => c.halt (.fault (.ofEdit e))
    | .ok (id, arena) => behindName text nested call.depth id { c with arena }

/-- A whole text: it is not blank, and nothing but blanks follows the type. -/
def readText (a : Arena) (parent : Option Nat) : Except Halted (Nat × Cursor) :=
  let c : Cursor := ⟨0, [], a⟩
  if Text.trim text = [] then c.malformed 0 .emptyDescriptor
  else do
    let (id, c) ← nested ⟨c, parent, 0⟩
    let c ← c.skipBlanks text
    if c.peek text = none then pure (id, c)
    else if c.peek text = some '>'.toUInt8 then c.malformed c.pos .unexpectedClose
    else c.malformed c.pos .trailingInput

end Calls

/-- A descriptor read by calls that may nest so many levels; `beyond` replies to those below. -/
def readBy (beyond : Call → Except Halted (Nat × Cursor)) (levels : Nat) (a : Arena)
    (descriptor : String) (parent : Option Nat) : Except Halted (Nat × Cursor) :=
  readText descriptor.toList (unrolled (typeBody descriptor.toList) beyond levels) a parent

/-! ### The reader beside the cursor -/

namespace Reader

/-- What a reader comes to at the end of a text. -/
def complete (r : Reader) (rest : List Char) : Except Stopped (Nat × Arena) :=
  r.run rest >>= Reader.finish

/-- The reader begins where the call does. -/
structure Begins (r : Reader) (call : Call) : Prop where
  arena_eq : r.arena = call.cursor.arena
  offset_eq : r.offset = call.cursor.pos
  phase_eq : r.phase = .naming call.cursor.pos []
  owner_eq : r.owner = call.parent
  depth_eq : r.opened.length = call.depth

/-- The reader has come to the cursor and has read the type at a node; where something else than `>`
or `,` comes next, that type has closed its list. -/
structure Follows (r : Reader) (c : Cursor) (text front rest : List Char) (outer : List OpenList)
    (parent : Option Nat) (id : Nat) : Prop where
  located : c.At text front rest
  offset_eq : r.offset = c.pos
  holds : r.Holds outer parent id c.arena
  closed : ∀ d ∈ rest.head?, d ≠ '>' → d ≠ ',' → ∃ node, r.phase = .closed node

/-- The reader stops with a fault before the end of the text, or there, and leaves the arena of a
sound cursor. -/
structure Stops (r : Reader) (f : Fault) (c : Cursor) (text rest : List Char) : Prop where
  complete_eq : r.complete rest = .error ⟨f, c.arena⟩
  sound : c.Sound text
  onBoundary : f.OnBoundary text

variable {r s : Reader} {c : Cursor} {text front mid rest : List Char} {outer : List OpenList}
  {parent : Option Nat} {id : Nat} {e : Stopped}

theorem run_of_step {d : Char} (h : r.step d = .ok s) : r.run [d] = .ok s := run_cons_eq h []

theorem complete_append (h : r.run mid = .ok s) (rest : List Char) :
    r.complete (mid ++ rest) = s.complete rest := by
  rw [complete, run_append_eq h, complete]

theorem complete_cons_of_error {d : Char} (h : r.step d = .error e) (rest : List Char) :
    r.complete (d :: rest) = .error e := by
  rw [complete, run, List.foldlM_cons, h]
  rfl

theorem complete_nil_of_error (h : r.finish = .error e) : r.complete [] = .error e := h

theorem Stops.after {f : Fault} (hrun : r.run mid = .ok s) (h : s.Stops f c text rest) :
    r.Stops f c text (mid ++ rest) :=
  ⟨(complete_append hrun rest).trans h.complete_eq, h.sound, h.onBoundary⟩

/-- Where a name cannot end that ought to, the reader stops. -/
theorem complete_of_endName_error {start : Nat} {reversed : List Char}
    (hr : r.phase = .naming start reversed) (hrest : ∀ d ∈ rest.head?, isDelimiter d)
    (h : r.endName rest.head? = .error e) : r.complete rest = .error e := by
  cases rest with
  | nil =>
    apply complete_nil_of_error
    rw [finish, show r.endName none = .error e from h]
    rfl
  | cons d rest =>
    apply complete_cons_of_error
    have hd : isDelimiter d := hrest d rfl
    have hend : r.endName (some d) = .error e := h
    simp only [isDelimiter, Bool.or_eq_true, beq_iff_eq] at hd
    rcases hd with (rfl | rfl) | rfl
    · simp only [step, openList, hr, hend, if_true]
      rfl
    · simp only [step, closeList, hend]
      rfl
    · simp only [step, nextParameter, hend]
      rfl

/-- The blanks behind a type, which are none where its name has not ended yet. -/
theorem Follows.exists_blanks (h : r.Follows c text front rest outer parent id) :
    ∃ blanks rest', rest = blanks ++ rest' ∧ Text.IsBlank blanks ∧
      (∀ d ∈ rest'.head?, ¬ Text.isBlank d) ∧
      r.run blanks = .ok { r with offset := r.offset + Text.byteLength blanks } ∧
      ∀ d ∈ rest'.head?, d ≠ '>' → d ≠ ',' → ∃ node, r.phase = .closed node := by
  by_cases hclosed : ∃ node, r.phase = .closed node
  · obtain ⟨node, hnode⟩ := hclosed
    obtain ⟨blanks, hblanks, hrest⟩ := Text.exists_append_trimStart rest
    exact ⟨blanks, _, hrest, hblanks, Text.not_isBlank_head_trimStart rest,
      run_blank hnode hblanks, fun _ _ _ _ => ⟨node, hnode⟩⟩
  · refine ⟨[], rest, rfl, Text.isBlank_nil, fun d hd hblank => ?_, rfl, h.closed⟩
    refine hclosed (h.closed d hd ?_ ?_)
    · rintro rfl
      exact absurd hblank (by decide)
    · rintro rfl
      exact absurd hblank (by decide)

/-- The cursor skips them and the reader takes them. -/
theorem Follows.skipBlanks (h : r.Follows c text front rest outer parent id) :
    ∃ blanks rest' s d, rest = blanks ++ rest' ∧ r.run blanks = .ok s ∧
      c.skipBlanks text = .ok d ∧ s.Follows d text (front ++ blanks) rest' outer parent id ∧
      ∀ d ∈ rest'.head?, ¬ Text.isBlank d := by
  obtain ⟨blanks, rest', rfl, hblanks, hhead, hrun, hclosed⟩ := h.exists_blanks
  refine ⟨blanks, rest', _, _, rfl, hrun, h.located.skipBlanks_eq hblanks hhead, ?_, hhead⟩
  exact ⟨h.located.moveTo, congrArg (· + Text.byteLength blanks) h.offset_eq,
    ⟨h.holds.opened_eq, h.holds.parent_eq, h.holds.endName_eq⟩, hclosed⟩

/-- Behind a closed list only blanks and the delimiters of the list around it may stand. -/
theorem step_trailing {node : Nat} {d : Char} (hr : r.phase = .closed node)
    (hblank : ¬ Text.isBlank d) (hclose : d ≠ '>') (hcomma : d ≠ ',') :
    r.step d = .error ⟨.malformed r.offset .trailingInput, r.arena⟩ := by
  by_cases hopen : d = '<'
  · subst hopen
    simp only [step, openList, hr, if_true]
    rfl
  · simp only [step, takeChar, hr, hopen, hclose, hcomma, hblank, if_false]
    rfl

theorem Holds.arena_eq {node : Nat} {b : Arena} (h : r.Holds outer parent id b)
    (hr : r.phase = .closed node) : r.arena = b := by
  have hend := h.endName_eq none
  simp only [endName, hr] at hend
  exact (Prod.mk.inj (Except.ok.inj hend)).2

/-- Where the reader stops at the cursor, the offset is a boundary. -/
theorem Follows.stops_here {reason : Malformation}
    (h : r.Follows c text front rest outer parent id)
    (hcomplete : r.complete rest = .error ⟨.malformed r.offset reason, c.arena⟩) :
    r.Stops (.malformed c.pos reason) c text rest :=
  ⟨h.offset_eq ▸ hcomplete, h.located.sound, h.located.isBoundary⟩

/-- Where neither `>` nor `,` comes next, the reader stops at the cursor. -/
theorem Follows.stops_trailing {d : Char} (h : r.Follows c text front (d :: rest) outer parent id)
    (hblank : ¬ Text.isBlank d) (hclose : d ≠ '>') (hcomma : d ≠ ',') :
    r.Stops (.malformed c.pos .trailingInput) c text (d :: rest) := by
  obtain ⟨node, hnode⟩ := h.closed d rfl hclose hcomma
  apply h.stops_here
  rw [← h.holds.arena_eq hnode]
  exact complete_cons_of_error (step_trailing hnode hblank hclose hcomma) rest

/-- What may come behind a parameter: nothing, another one, the end of its list, or too much. -/
theorem Follows.behind_parameter {l : OpenList}
    (h : r.Follows c text front rest (l :: outer) parent id)
    (hhead : ∀ d ∈ rest.head?, ¬ Text.isBlank d) (hopened : Text.IsBoundary text l.offset) :
    (rest = [] ∧ r.Stops (.malformed l.offset .unclosedParameterList) c text rest) ∨
    (∃ rest' s, rest = ',' :: rest' ∧ r.step ',' = .ok s ∧ s.opened = l :: outer ∧
      s.parent = parent ∧ s.Begins ⟨c.moveTo (c.pos + 1), some l.owner, outer.length + 1⟩) ∨
    (∃ rest' s, rest = '>' :: rest' ∧ r.step '>' = .ok s ∧
      s.Follows (c.moveTo (c.pos + 1)) text (front ++ ['>']) rest' outer parent l.owner) ∨
    (∃ d rest', rest = d :: rest' ∧ d ≠ ',' ∧ d ≠ '>' ∧
      r.Stops (.malformed c.pos .trailingInput) c text rest) := by
  rcases rest with _ | ⟨d, rest⟩
  · refine Or.inl ⟨rfl, complete_nil_of_error ?_, h.located.sound, hopened⟩
    simp only [finish, h.holds.endName_eq, h.holds.opened_eq]
    rfl
  by_cases hcomma : d = ','
  · subst hcomma
    refine Or.inr (Or.inl ⟨rest, _, rfl, nextParameter_eq h.holds, h.holds.opened_eq,
      h.holds.parent_eq, rfl, congrArg (· + 1) h.offset_eq, ?_, ?_, ?_⟩)
    · exact congrArg (fun offset => Phase.naming (offset + 1) []) h.offset_eq
    · simp only [owner, h.holds.opened_eq]
    · simp only [h.holds.opened_eq, List.length_cons]
  by_cases hclose : d = '>'
  · subst hclose
    refine Or.inr (Or.inr (Or.inl ⟨rest, _, rfl, closeList_eq h.holds, ?_⟩))
    exact ⟨h.located.moveTo_char rfl, congrArg (· + 1) h.offset_eq,
      ⟨rfl, h.holds.parent_eq, fun _ => rfl⟩, fun _ _ _ _ => ⟨l.owner, rfl⟩⟩
  · exact Or.inr (Or.inr (Or.inr ⟨d, rest, rfl, hcomma, hclose,
      h.stops_trailing (hhead d rfl) hclose hcomma⟩))

/-- The cursor and the reader tell a missing name alike, but for a blank text. -/
theorem missingAt_eq (hc : c.At text front rest) (hrest : ∀ d ∈ rest.head?, isDelimiter d)
    (hnil : r.opened = [] → rest ≠ []) :
    missingAt r.opened.length (c.peek text) = r.missingName rest.head? := by
  simp only [missingAt, hc.peek_eq_some_iff (d := '<') rfl, hc.peek_eq_some_iff (d := '>') rfl,
    List.length_eq_zero_iff]
  rcases rest with _ | ⟨d, rest⟩
  · cases hopened : r.opened with
    | nil => exact absurd rfl (hnil hopened)
    | cons l outer => simp [missingName, hopened]
  · have hd : isDelimiter d := hrest d rfl
    simp only [isDelimiter, Bool.or_eq_true, beq_iff_eq] at hd
    cases hopened : r.opened with
    | nil => rcases hd with (rfl | rfl) | rfl <;> simp [missingName, hopened]
    | cons l outer => rcases hd with (rfl | rfl) | rfl <;> simp [missingName, hopened]

/-- What may come behind a text's type: nothing, or too much. -/
theorem Follows.behind_text (h : r.Follows c text front rest [] parent id)
    (hhead : ∀ d ∈ rest.head?, ¬ Text.isBlank d) :
    (rest = [] ∧ r.complete rest = .ok (id, c.arena)) ∨
    (∃ rest', rest = '>' :: rest' ∧ r.Stops (.malformed c.pos .unexpectedClose) c text rest) ∨
    (∃ d rest', rest = d :: rest' ∧ d ≠ '>' ∧
      r.Stops (.malformed c.pos .trailingInput) c text rest) := by
  rcases rest with _ | ⟨d, rest⟩
  · refine Or.inl ⟨rfl, ?_⟩
    show r.finish = _
    simp only [finish, h.holds.endName_eq, h.holds.opened_eq]
    rfl
  refine Or.inr ?_
  by_cases hclose : d = '>'
  · subst hclose
    refine Or.inl ⟨rest, rfl, h.stops_here (complete_cons_of_error ?_ rest)⟩
    simp only [step, closeList, h.holds.endName_eq, h.holds.opened_eq]
    rfl
  refine Or.inr ⟨d, rest, rfl, hclose, ?_⟩
  by_cases hcomma : d = ','
  · subst hcomma
    refine h.stops_here (complete_cons_of_error ?_ rest)
    simp only [step, nextParameter, h.holds.endName_eq, h.holds.opened_eq]
    rfl
  · exact h.stops_trailing (hhead d rfl) hclose hcomma

theorem stops_of_isBlank {text : List Char} (h : Text.IsBlank text) (a : Arena)
    (parent : Option Nat) :
    (start a parent).Stops (.malformed 0 .emptyDescriptor) ⟨0, [], a⟩ text text := by
  have hlocated := Cursor.at_start text a
  refine ⟨?_, hlocated.sound, hlocated.isBoundary⟩
  have hplain : ∀ d ∈ text, ¬ isDelimiter d := fun d hd => not_isDelimiter_of_isBlank (h d hd)
  have hcomplete := complete_append (run_plain (r := start a parent) rfl hplain) []
  have htrim : Text.trim text = [] := Text.trim_eq_nil_iff.2 h
  rw [List.append_nil] at hcomplete
  rw [hcomplete]
  refine complete_of_endName_error rfl (by simp) ?_
  simp only [endName, List.append_nil, List.reverse_reverse, htrim, if_true]
  rfl

end Reader

end TypeGrading.Descriptor
