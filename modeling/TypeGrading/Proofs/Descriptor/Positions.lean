import Mathlib.Data.List.DropRight
import TypeGrading.Proofs.Descriptor.Reading
import TypeGrading.Proofs.Descriptor.Steps

/-!
# Positions in a text

Where the delimiters of a text put its end: what follows the last delimiter, whether a name is
awaited there, and which lists are open. A reader knows all of it about the text taken so far.

* `throughDelimiter`, `sinceDelimiter`: a text parted after its last delimiter;
* `AwaitsName`, `AfterList`, `nameStart`, `unmatched`: what can be told from the text alone;
* `Reader.Located`: the reader agrees with the text, from the start and after every step.
-/

namespace TypeGrading.Descriptor

open TypeGrading.Tree

/-! ### The last delimiter -/

/-- The text up to its last delimiter, which is included; nothing where there is none. -/
def throughDelimiter (t : List Char) : List Char := t.rdropWhile fun c => !isDelimiter c

/-- The text after its last delimiter; all of it where there is none. -/
def sinceDelimiter (t : List Char) : List Char := t.rtakeWhile fun c => !isDelimiter c

/-- The last delimiter closed a list. -/
def AfterList (t : List Char) : Prop := (throughDelimiter t).getLast? = some '>'

/-- Only blanks follow the start of the text, or the last delimiter, which closed no list. -/
def AwaitsName (t : List Char) : Prop := ¬ AfterList t ∧ Text.IsBlank (sinceDelimiter t)

/-- The offset just after the last delimiter, or that of the start of the text. -/
def nameStart (t : List Char) : Nat := Text.byteLength (throughDelimiter t)

section Concat

variable {t : List Char} {c : Char}

theorem throughDelimiter_concat (hc : isDelimiter c) : throughDelimiter (t ++ [c]) = t ++ [c] :=
  List.rdropWhile_concat_neg _ _ _ (by simp [hc])

theorem sinceDelimiter_concat (hc : isDelimiter c) : sinceDelimiter (t ++ [c]) = [] :=
  List.rtakeWhile_concat_neg _ _ _ (by simp [hc])

theorem throughDelimiter_concat_plain (hc : ¬ isDelimiter c) :
    throughDelimiter (t ++ [c]) = throughDelimiter t :=
  List.rdropWhile_concat_pos _ _ _ (by simp [hc])

theorem sinceDelimiter_concat_plain (hc : ¬ isDelimiter c) :
    sinceDelimiter (t ++ [c]) = sinceDelimiter t ++ [c] :=
  List.rtakeWhile_concat_pos _ _ _ (by simp [hc])

theorem afterList_concat (hc : isDelimiter c) : AfterList (t ++ [c]) ↔ c = '>' := by
  rw [AfterList, throughDelimiter_concat hc, List.getLast?_concat, Option.some.injEq]

theorem afterList_concat_plain (hc : ¬ isDelimiter c) : AfterList (t ++ [c]) ↔ AfterList t := by
  rw [AfterList, throughDelimiter_concat_plain hc, AfterList]

theorem nameStart_concat (hc : isDelimiter c) :
    nameStart (t ++ [c]) = Text.byteLength t + c.utf8Size := by
  simp [nameStart, throughDelimiter_concat hc]

end Concat

theorem throughDelimiter_of_plain {t : List Char} (ht : ∀ c ∈ t, ¬ isDelimiter c) :
    throughDelimiter t = [] := by
  rw [throughDelimiter, List.rdropWhile_eq_nil_iff]
  intro c hc
  simp [ht c hc]

theorem sinceDelimiter_of_through {t : List Char} (h : throughDelimiter t = []) :
    sinceDelimiter t = t := by
  rw [sinceDelimiter, List.rtakeWhile_eq_self_iff]
  exact List.rdropWhile_eq_nil_iff.1 h

/-! ### Open lists -/

/-- What a character at an offset makes of the offsets of the open lists. -/
def nest (offset : Nat) (pending : List Nat) (c : Char) : List Nat :=
  if c = '<' then offset :: pending else if c = '>' then pending.tail else pending

/-- The offsets of the open lists after a text that starts at an offset. -/
def unmatchedFrom (offset : Nat) (pending : List Nat) : List Char → List Nat
  | [] => pending
  | c :: t => unmatchedFrom (offset + c.utf8Size) (nest offset pending c) t

/-- The offsets of the `<` that have no `>`, the innermost one first. -/
def unmatched (t : List Char) : List Nat := unmatchedFrom 0 [] t

theorem nest_plain {offset : Nat} {pending : List Nat} {c : Char} (hc : ¬ isDelimiter c) :
    nest offset pending c = pending := by
  simp only [isDelimiter, Bool.or_eq_true, beq_iff_eq, not_or] at hc
  simp [nest, hc]

theorem unmatchedFrom_concat (offset : Nat) (pending : List Nat) (t : List Char) (c : Char) :
    unmatchedFrom offset pending (t ++ [c]) =
      nest (offset + Text.byteLength t) (unmatchedFrom offset pending t) c := by
  induction t generalizing offset pending with
  | nil => rfl
  | cons d t ih =>
    rw [List.cons_append, unmatchedFrom, ih, unmatchedFrom, Text.byteLength_cons, Nat.add_assoc]

theorem unmatched_concat (t : List Char) (c : Char) :
    unmatched (t ++ [c]) = nest (Text.byteLength t) (unmatched t) c := by
  rw [unmatched, unmatchedFrom_concat, Nat.zero_add, unmatched]

theorem unmatched_of_plain {t : List Char} (ht : ∀ c ∈ t, ¬ isDelimiter c) : unmatched t = [] := by
  suffices h : ∀ offset pending, unmatchedFrom offset pending t = pending from h 0 []
  induction t with
  | nil => exact fun _ _ => rfl
  | cons c t ih =>
    intro offset pending
    rw [unmatchedFrom, nest_plain (ht c List.mem_cons_self)]
    exact ih (fun d hd => ht d (List.mem_cons_of_mem c hd)) _ _

/-! ### What the reader knows -/

/-- What is being read is what the text says. -/
def Phase.Located (t : List Char) : Phase → Prop
  | .naming start reversed =>
    ¬ AfterList t ∧ start = nameStart t ∧ reversed.reverse = sinceDelimiter t
  | .closed _ => AfterList t ∧ Text.IsBlank (sinceDelimiter t)

/-- After `<` and `,` a name is awaited. -/
theorem Phase.located_naming (t : List Char) {c : Char} (hc : c = '<' ∨ c = ',') :
    (Phase.naming (Text.byteLength t + 1) []).Located (t ++ [c]) := by
  have hd : isDelimiter c := by rcases hc with rfl | rfl <;> decide
  have hsize : c.utf8Size = 1 := by rcases hc with rfl | rfl <;> rfl
  refine ⟨?_, ?_, ?_⟩
  · rw [afterList_concat hd]
    rcases hc with rfl | rfl <;> decide
  · rw [nameStart_concat hd, hsize]
  · rw [sinceDelimiter_concat hd, List.reverse_nil]

theorem Phase.located_closed (t : List Char) (node : Nat) :
    (Phase.closed node).Located (t ++ ['>']) := by
  refine ⟨(afterList_concat (by decide)).2 rfl, ?_⟩
  rw [sinceDelimiter_concat (by decide)]
  exact Text.isBlank_nil

namespace Reader

variable {r s : Reader} {t : List Char}

/-- The reader has taken the text. -/
structure Located (r : Reader) (t : List Char) : Prop where
  offset_eq : r.offset = Text.byteLength t
  opened_eq : r.opened.map OpenList.offset = unmatched t
  phase : r.phase.Located t
  outside : r.opened = [] → ¬ AfterList t → throughDelimiter t = []

theorem located_start (a : Arena) (parent : Option Nat) : (start a parent).Located [] where
  offset_eq := rfl
  opened_eq := rfl
  phase := ⟨by simp [AfterList, throughDelimiter], rfl, rfl⟩
  outside _ _ := rfl

/-- **One step.** After each character the reader has taken one more. -/
theorem located_step (r s : Reader) (t : List Char) (c : Char) (hr : r.Located t)
    (h : r.step c = .ok s) : s.Located (t ++ [c]) := by
  obtain ⟨hoffset, hopened, hphase, houtside⟩ := hr
  rcases step_cases h with ⟨rfl, h⟩ | ⟨rfl, h⟩ | ⟨rfl, h⟩ | ⟨hc, h⟩
  · obtain ⟨start, reversed, node, b, -, -, -, rfl⟩ := openList_cases h
    refine ⟨by simp [hoffset]; rfl, ?_, ?_, fun hnil => nomatch hnil⟩
    · rw [unmatched_concat, List.map_cons, hopened, hoffset]
      rfl
    · rw [hoffset]
      exact Phase.located_naming t (Or.inl rfl)
  · obtain ⟨node, b, l, outer, -, hopen, rfl⟩ := closeList_cases h
    have hclosed := Phase.located_closed t l.owner
    refine ⟨by simp [hoffset]; rfl, ?_, hclosed, fun _ hnot => absurd hclosed.1 hnot⟩
    rw [unmatched_concat, ← hopened, hopen]
    rfl
  · obtain ⟨node, b, l, outer, -, hopen, rfl⟩ := nextParameter_cases h
    refine ⟨by simp [hoffset]; rfl, ?_, ?_, fun hnil => nomatch hopen.symm.trans hnil⟩
    · rw [unmatched_concat]
      exact hopened
    · rw [hoffset]
      exact Phase.located_naming t (Or.inr rfl)
  · have hopened' : r.opened.map OpenList.offset = unmatched (t ++ [c]) := by
      rw [unmatched_concat, nest_plain hc, hopened]
    have hoffset' : r.offset + c.utf8Size = Text.byteLength (t ++ [c]) := by simp [hoffset]
    have houtside' : r.opened = [] → ¬ AfterList (t ++ [c]) → throughDelimiter (t ++ [c]) = [] := by
      rw [afterList_concat_plain hc, throughDelimiter_concat_plain hc]
      exact houtside
    rcases takeChar_cases h with ⟨start, reversed, hnaming, rfl⟩ | ⟨node, hclosed, hblank, rfl⟩
    · rw [hnaming] at hphase
      obtain ⟨hafter, hstart, hsince⟩ := hphase
      refine ⟨hoffset', hopened', ⟨?_, ?_, ?_⟩, houtside'⟩
      · rwa [afterList_concat_plain hc]
      · rwa [nameStart, throughDelimiter_concat_plain hc]
      · rw [List.reverse_cons, hsince, sinceDelimiter_concat_plain hc]
    · refine ⟨hoffset', hopened', ?_, houtside'⟩
      simp only [hclosed] at hphase ⊢
      refine ⟨(afterList_concat_plain hc).2 hphase.1, ?_⟩
      rw [sinceDelimiter_concat_plain hc]
      exact Text.isBlank_append hphase.2 (by simpa [Text.IsBlank] using hblank)

theorem located_run {a : Arena} {parent : Option Nat} (h : (start a parent).run t = .ok r) :
    r.Located t :=
  run_induction located_step (located_start a parent) h

namespace Located

theorem start_eq (h : r.Located t) {start : Nat} {reversed : List Char}
    (hr : r.phase = .naming start reversed) : start = nameStart t := by
  have hphase := h.phase
  rw [hr] at hphase
  exact hphase.2.1

/-- A name is awaited where the reader has read only blanks of one. -/
theorem awaitsName_iff (h : r.Located t) :
    AwaitsName t ↔
      ∃ start reversed, r.phase = .naming start reversed ∧ Text.IsBlank reversed.reverse := by
  have hphase := h.phase
  cases hr : r.phase with
  | closed node =>
    rw [hr] at hphase
    exact ⟨fun hawaits => absurd hphase.1 hawaits.1, fun ⟨_, _, hnaming, _⟩ => nomatch hnaming⟩
  | naming start reversed =>
    rw [hr] at hphase
    obtain ⟨hafter, -, hsince⟩ := hphase
    constructor
    · rintro ⟨-, hblank⟩
      exact ⟨start, reversed, rfl, hsince ▸ hblank⟩
    · rintro ⟨_, _, hnaming, hblank⟩
      obtain ⟨-, rfl⟩ := Phase.naming.inj hnaming
      exact ⟨hafter, hsince ▸ hblank⟩

theorem afterList_iff (h : r.Located t) : AfterList t ↔ ∃ node, r.phase = .closed node := by
  have hphase := h.phase
  cases hr : r.phase with
  | closed node =>
    rw [hr] at hphase
    exact ⟨fun _ => ⟨node, rfl⟩, fun _ => hphase.1⟩
  | naming start reversed =>
    rw [hr] at hphase
    exact ⟨fun hafter => absurd hafter hphase.1, fun ⟨_, hclosed⟩ => nomatch hclosed⟩

theorem opened_eq_nil_iff (h : r.Located t) : r.opened = [] ↔ unmatched t = [] := by
  rw [← h.opened_eq, List.map_eq_nil_iff]

/-- Outside every list a name is awaited only at the start of the text. -/
theorem isBlank_iff (h : r.Located t) : Text.IsBlank t ↔ AwaitsName t ∧ unmatched t = [] := by
  constructor
  · intro hblank
    have hplain : ∀ c ∈ t, ¬ isDelimiter c := fun c hc =>
      not_isDelimiter_of_isBlank (hblank c hc)
    have hthrough := throughDelimiter_of_plain hplain
    refine ⟨⟨by simp [AfterList, hthrough], ?_⟩, unmatched_of_plain hplain⟩
    rwa [sinceDelimiter_of_through hthrough]
  · rintro ⟨⟨hafter, hblank⟩, hnil⟩
    rwa [sinceDelimiter_of_through (h.outside (h.opened_eq_nil_iff.2 hnil) hafter)] at hblank

theorem nameStart_eq_zero (h : r.Located t) (hawaits : AwaitsName t) (hnil : unmatched t = []) :
    nameStart t = 0 := by
  rw [nameStart, h.outside (h.opened_eq_nil_iff.2 hnil) hawaits.1, Text.byteLength_nil]

end Located

end Reader

end TypeGrading.Descriptor
