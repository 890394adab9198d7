import TypeGrading.Descriptor.Error
import TypeGrading.Proofs.Text.Bytes
import TypeGrading.Proofs.Text.Trimming

/-!
# Cursors

Reading a descriptor by its bytes: a cursor looks at the next byte, searches for one, and cuts the
text at offsets. A cut that is out of range or inside a character stops the reading.

* `Cursor`: the offset reached, those before it, and the arena so far;
* `Halt`, `Halted`: why reading stopped, and where; `Fault.OnBoundary`: a malformation told between
  two characters;
* `peek`, `slice`, `nameEnd`, `skipBlanks`: looking, cutting, searching and skipping;
* `Cursor.Sound`: every offset so far is a boundary, and they go forward;
* `Cursor.At`: the cursor stands between two parts of the text; what each operation does there.
-/

namespace TypeGrading.Descriptor

open TypeGrading.Tree

/-- An offset in a text that is being read, the offsets before it, latest first, and the arena so
far. -/
structure Cursor where
  pos : Nat
  past : List Nat
  arena : Arena

/-- Why reading stopped: a fault of the descriptor, a cut where the text cannot be cut, or a round of
a parameter list that came no nearer to the end. -/
inductive Halt
  | fault (fault : Fault)
  | badCut
  | idle

/-- A reading that stopped: why, and where. -/
structure Halted where
  cause : Halt
  cursor : Cursor

/-- If the fault is a malformation, it is told at a boundary. -/
def Fault.OnBoundary (text : List Char) : Fault → Prop
  | .malformed offset _ => Text.IsBoundary text offset
  | _ => True

theorem Fault.onBoundary_ofEdit (text : List Char) (e : EditError) :
    (Fault.ofEdit e).OnBoundary text := by
  cases e <;> trivial

/-- The byte of a delimiter. -/
def isDelimiterByte (b : UInt8) : Bool :=
  b == '<'.toUInt8 || b == '>'.toUInt8 || b == ','.toUInt8

theorem utf8Size_of_isDelimiter {d : Char} (hd : isDelimiter d) : d.utf8Size = 1 := by
  simp only [isDelimiter, Bool.or_eq_true, beq_iff_eq] at hd
  rcases hd with (rfl | rfl) | rfl <;> rfl

theorem eq_of_isDelimiter {d : Char} (hd : isDelimiter d) (hclose : d ≠ '>') (hcomma : d ≠ ',') :
    d = '<' := by
  simpa [isDelimiter, hclose, hcomma] using hd

theorem isDelimiterByte_toUInt8 {d : Char} (hd : isDelimiter d) : isDelimiterByte d.toUInt8 := by
  simp only [isDelimiter, Bool.or_eq_true, beq_iff_eq] at hd
  rcases hd with (rfl | rfl) | rfl <;> rfl

theorem exists_of_isDelimiterByte {b : UInt8} (hb : isDelimiterByte b) :
    ∃ d, isDelimiter d ∧ b = d.toUInt8 := by
  simp only [isDelimiterByte, Bool.or_eq_true, beq_iff_eq] at hb
  rcases hb with (rfl | rfl) | rfl
  · exact ⟨'<', rfl, rfl⟩
  · exact ⟨'>', rfl, rfl⟩
  · exact ⟨',', rfl, rfl⟩

/-- A search for the byte of a delimiter finds none in a text without delimiters. -/
theorem findIdx?_bytes_plain {t : List Char} (ht : ∀ d ∈ t, ¬ isDelimiter d) :
    (Text.bytes t).findIdx? isDelimiterByte = none := by
  rw [List.findIdx?_eq_none_iff]
  intro b hb
  rw [Bool.eq_false_iff]
  intro hdelimiter
  obtain ⟨d, hd, rfl⟩ := exists_of_isDelimiterByte hdelimiter
  exact ht d ((Text.mem_bytes_iff (utf8Size_of_isDelimiter hd)).1 hb) hd

namespace Cursor

/-- The offsets so far, latest first. -/
def positions (c : Cursor) : List Nat := c.pos :: c.past

/-- The cursor at another offset. -/
def moveTo (c : Cursor) (pos : Nat) : Cursor := { c with pos, past := c.positions }

/-- Stop reading. -/
def halt {α : Type} (c : Cursor) (cause : Halt) : Except Halted α := .error ⟨cause, c⟩

/-- Stop reading with a malformation. -/
def malformed {α : Type} (c : Cursor) (offset : Nat) (reason : Malformation) : Except Halted α :=
  c.halt (.fault (.malformed offset reason))

section Operations

variable (text : List Char) (c : Cursor)

/-- The number of bytes that are not read yet. -/
def ahead : Nat := Text.byteLength text - c.pos

/-- The next byte, none at the end. -/
def peek : Option UInt8 := (Text.bytes text)[c.pos]?

/-- The text between two offsets. -/
def slice (start stop : Nat) : Except Halted (List Char) :=
  match Text.slice? text start stop with
  | some inner => .ok inner
  | none => c.halt .badCut

/-- The offset of the next delimiter, or that of the end. -/
def nameEnd : Except Halted Nat :=
  if c.pos ≤ (Text.bytes text).length then
    .ok <| match ((Text.bytes text).drop c.pos).findIdx? isDelimiterByte with
      | some i => c.pos + i
      | none => (Text.bytes text).length
  else c.halt .badCut

/-- Move over blanks. -/
def skipBlanks : Except Halted Cursor := do
  let rest ← c.slice text c.pos (Text.byteLength text)
  pure (c.moveTo (c.pos + (Text.byteLength rest - Text.byteLength (Text.trimStart rest))))

end Operations

/-! ### Sound cursors -/

/-- Every offset so far lies between two characters, and none before an earlier one. -/
structure Sound (c : Cursor) (text : List Char) : Prop where
  boundary : ∀ p ∈ c.positions, Text.IsBoundary text p
  forward : c.positions.Pairwise (· ≥ ·)

/-- A sound cursor stands between two parts of the text. -/
structure At (c : Cursor) (text front rest : List Char) : Prop where
  text_eq : text = front ++ rest
  pos_eq : c.pos = Text.byteLength front
  sound : c.Sound text

theorem at_start (text : List Char) (a : Arena) : (Cursor.mk 0 [] a).At text [] text where
  text_eq := rfl
  pos_eq := rfl
  sound := ⟨by simpa [positions] using Text.isBoundary_byteLength [] text, by simp [positions]⟩

theorem Sound.moveTo {c : Cursor} {text : List Char} {p : Nat} (h : c.Sound text)
    (hp : Text.IsBoundary text p) (hle : c.pos ≤ p) : (c.moveTo p).Sound text where
  boundary := List.forall_mem_cons.2 ⟨hp, h.boundary⟩
  forward := by
    refine List.pairwise_cons.2 ⟨fun q hq => ?_, h.forward⟩
    rcases List.mem_cons.1 hq with rfl | hq
    · exact hle
    · exact (List.rel_of_pairwise_cons h.forward hq).trans hle

namespace At

variable {c : Cursor} {text front mid rest : List Char}

theorem isBoundary (h : c.At text front rest) : Text.IsBoundary text c.pos :=
  h.sound.boundary _ List.mem_cons_self

/-- A cursor moves over a part of the text. -/
theorem moveTo (h : c.At text front (mid ++ rest)) :
    (c.moveTo (c.pos + Text.byteLength mid)).At text (front ++ mid) rest := by
  have htext : text = front ++ mid ++ rest := by rw [h.text_eq, List.append_assoc]
  have hpos : c.pos + Text.byteLength mid = Text.byteLength (front ++ mid) := by
    rw [h.pos_eq, Text.byteLength_append]
  refine ⟨htext, hpos, h.sound.moveTo ?_ (Nat.le_add_right _ _)⟩
  rw [hpos, htext]
  exact Text.isBoundary_byteLength _ _

/-- A cursor moves over an ASCII character. -/
theorem moveTo_char {d : Char} (hd : d.utf8Size = 1) (h : c.At text front (d :: rest)) :
    (c.moveTo (c.pos + 1)).At text (front ++ [d]) rest := by
  have hmove : (c.moveTo (c.pos + Text.byteLength [d])).At text (front ++ [d]) rest :=
    At.moveTo h
  rwa [Text.byteLength_cons, hd] at hmove

theorem withArena (h : c.At text front rest) (b : Arena) :
    { c with arena := b }.At text front rest :=
  ⟨h.text_eq, h.pos_eq, h.sound.boundary, h.sound.forward⟩

theorem ahead_eq (h : c.At text front rest) : c.ahead text = Text.byteLength rest := by
  rw [ahead, h.text_eq, h.pos_eq, Text.byteLength_append, Nat.add_sub_cancel_left]

theorem peek_eq (h : c.At text front rest) : c.peek text = (Text.bytes rest).head? := by
  rw [peek, h.text_eq, h.pos_eq, Text.bytes_append, ← Text.length_bytes,
    List.getElem?_append_right le_rfl, Nat.sub_self, List.head?_eq_getElem?]

/-- Where the next byte is that of an ASCII character, that character comes next. -/
theorem peek_eq_some_iff {d : Char} (hd : d.utf8Size = 1) (h : c.At text front rest) :
    c.peek text = some d.toUInt8 ↔ rest.head? = some d := by
  rw [h.peek_eq, Text.head?_bytes_eq_iff hd]

theorem peek_eq_none_iff (h : c.At text front rest) : c.peek text = none ↔ rest = [] := by
  rw [h.peek_eq, Text.head?_bytes_eq_none_iff]

theorem slice_eq (h : c.At text front (mid ++ rest)) :
    c.slice text c.pos (c.pos + Text.byteLength mid) = .ok mid := by
  have hslice : Text.slice? text c.pos (c.pos + Text.byteLength mid) = some mid :=
    Text.slice?_eq_some_iff.2 ⟨front, rest, by rw [h.text_eq, List.append_assoc],
      h.pos_eq.symm, rfl⟩
  rw [slice, hslice]

/-- The first delimiter by its byte is the first one by its character. -/
theorem nameEnd_eq (h : c.At text front (mid ++ rest)) (hmid : ∀ d ∈ mid, ¬ isDelimiter d)
    (hrest : ∀ d ∈ rest.head?, isDelimiter d) :
    c.nameEnd text = .ok (c.pos + Text.byteLength mid) := by
  have hdrop : (Text.bytes text).drop c.pos = Text.bytes mid ++ Text.bytes rest := by
    rw [h.text_eq, h.pos_eq, Text.bytes_append, Text.bytes_append, ← Text.length_bytes,
      List.drop_left]
  have hend : c.pos + Text.byteLength mid + Text.byteLength rest = (Text.bytes text).length := by
    rw [Text.length_bytes, h.text_eq, h.pos_eq, Text.byteLength_append, Text.byteLength_append,
      Nat.add_assoc]
  rw [nameEnd, if_pos (by omega), hdrop, List.findIdx?_append, findIdx?_bytes_plain hmid,
    Option.none_or]
  cases rest with
  | nil => rw [← hend]; rfl
  | cons d rest =>
    have hd := hrest d rfl
    rw [Text.bytes_cons, Text.utf8EncodeChar_ascii (utf8Size_of_isDelimiter hd),
      List.singleton_append, List.findIdx?_cons, if_pos (isDelimiterByte_toUInt8 hd)]
    simp

/-- Skipping goes as far as there are blanks. -/
theorem skipBlanks_eq (h : c.At text front (mid ++ rest)) (hmid : Text.IsBlank mid)
    (hrest : ∀ d ∈ rest.head?, ¬ Text.isBlank d) :
    c.skipBlanks text = .ok (c.moveTo (c.pos + Text.byteLength mid)) := by
  have htrim : Text.trimStart (mid ++ rest) = rest := by
    rw [Text.trimStart, List.dropWhile_append_of_pos hmid]
    exact Text.trimStart_eq_self_of_head hrest
  have hend : Text.byteLength text = c.pos + Text.byteLength (mid ++ rest) := by
    rw [h.text_eq, Text.byteLength_append, h.pos_eq]
  have hslice : c.slice text c.pos (Text.byteLength text) = .ok (mid ++ rest) := by
    rw [← List.append_nil (mid ++ rest)] at h
    rw [hend, h.slice_eq]
  rw [skipBlanks, hslice]
  show Except.ok _ = _
  rw [htrim, Text.byteLength_append, Nat.add_sub_cancel]

end At

end Cursor

end TypeGrading.Descriptor
