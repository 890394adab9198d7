import TypeGrading.Pattern.Standard
import TypeGrading.Proofs.Pattern.Anchoring

/-!
# Reading escaped texts

A text in which every character that means something is escaped is read as one literal for each of
its characters.

* `run?_escapedChar`, `run?_escaped`: what is read of such a text;
* `read?_escape`: the expression that it writes.
-/

namespace TypeGrading.Pattern

/-- The expression of a single character. -/
def literalOf (c : Char) : Expr := .literal ⟨c, false⟩

variable {verbose : Bool} {c : Char} {cs s : List Char}

theorem length_escapedChar_pos (c : Char) : 0 < (escapedChar c).length := by
  rw [escapedChar]
  split_ifs <;> simp

theorem Piece.read?_backslash (hc : Reader.isMeta c = true) :
    Piece.read? verbose '\\' (c :: s) = some (.part (literalOf c), s) := by
  simp [Piece.read?, Reader.escape?, Reader.isSelfEscaped, hc, Reader.ofPrimitive, literalOf]

/-- A character that means nothing stands for itself. -/
theorem Piece.read?_of_not_meta (hc : Reader.isMeta c = false) :
    Piece.read? verbose c s = some (.part (.literal ⟨c, false⟩), s) := by
  rw [Piece.read?]
  all_goals
    rintro rfl
    cases hc

namespace Reader

variable {r : Reader} {n : Nat}

theorem run?_escapedChar (hr : r.verbose = false) (n : Nat) (s : List Char) :
    r.run? (n + 1) (escapedChar c ++ s) = (r.add (literalOf c)).run? n s := by
  cases hc : isMeta c with
  | true =>
    have hskip : skipIdle r.verbose (escapedChar c ++ s) = '\\' :: c :: s := by
      simp [skipIdle, hr, escapedChar, hc]
    rw [run?_succ_of_skipIdle_cons hskip, piece?, Piece.read?_backslash hc]
    rfl
  | false =>
    have hskip : skipIdle r.verbose (escapedChar c ++ s) = c :: s := by
      simp [skipIdle, hr, escapedChar, hc]
    rw [run?_succ_of_skipIdle_cons hskip, piece?, Piece.read?_of_not_meta hc]
    rfl

/-- Take some more parts. -/
def addAll (r : Reader) (es : List Expr) : Reader :=
  { r with current := { r.current with parts := es.reverse ++ r.current.parts } }

theorem addAll_add (r : Reader) (e : Expr) (es : List Expr) :
    (r.add e).addAll es = r.addAll (e :: es) := by
  simp [addAll, add, Sequence.add]

/-- An escaped text is read as its characters. -/
theorem run?_escape (hr : r.verbose = false) (hn : (escape cs).length ≤ n) :
    r.run? n (escape cs) = some (r.addAll (cs.map literalOf)) := by
  induction cs generalizing r n with
  | nil => exact run?_nil n r
  | cons c cs ih =>
    have hpos := length_escapedChar_pos c
    rw [escape, List.flatMap_cons, List.length_append] at hn
    cases n with
    | zero => omega
    | succ n =>
      rw [escape, List.flatMap_cons, run?_escapedChar hr, List.map_cons, ← addAll_add]
      exact ih (r := r.add (literalOf c)) hr (by rw [escape]; omega)

end Reader

/-- **An escaped text is the sequence of its characters.** -/
theorem read?_escape (cs : List Char) :
    read? (escape cs) = some (Expr.concatOf (cs.map literalOf)) := by
  refine read?_eq_some_iff.2 ⟨_, Reader.run?_escape rfl le_rfl, rfl, ?_⟩
  simp [Reader.addAll, Reader.start, Sequence.start, Sequence.close]

end TypeGrading.Pattern
