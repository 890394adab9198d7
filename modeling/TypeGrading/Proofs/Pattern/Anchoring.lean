import TypeGrading.Proofs.Pattern.Nesting

/-!
# Reading between the marks

A pattern for names is read in a group between the marks for the start and the end.

* `exists_closesAt`: the group behind the mark for the start is closed somewhere;
* `exists_of_read?_opening`: the text up to there is a pattern;
* `read?_anchored`: where the text is a pattern itself, it is all that is in the group.
-/

namespace TypeGrading.Pattern

open Reader (ClosesAt closing)

variable {s : List Char} {e e' : Expr}

theorem Reader.finish?_eq_some_iff {q : Reader} :
    q.finish? = some e ↔ q.outer = [] ∧ q.current.close = e := by
  rw [Reader.finish?]
  split <;> simp_all

theorem read?_eq_some_iff :
    read? s = some e ↔ ∃ q, Reader.start.run? s.length s = some q ∧ q.outer = [] ∧
      q.current.close = e := by
  simp only [read?, Option.bind_eq_some_iff, Reader.finish?_eq_some_iff]

/-- The mark for the start, and the start of a group. -/
def opening : List Char := ['^', '(', '?', ':']

/-- The group that is open behind the mark for the start. -/
def anchor : OpenGroup := ⟨.none, ⟨[], [.assertion .lineStart]⟩, false⟩

theorem run?_opening (n : Nat) (s : List Char) :
    Reader.start.run? (n + 2) (opening ++ s) = (Reader.start.under anchor).run? n s := by
  rfl

/-- The group behind the mark for the start is closed, and what follows is read behind it. -/
theorem exists_closesAt (h : read? (opening ++ s) = some e) :
    ∃ q y m R, ClosesAt .start s q y ∧ (q.closed anchor).run? m y = some R ∧ R.current.close = e := by
  obtain ⟨R, hrun, hR, he⟩ := read?_eq_some_iff.1 h
  have hlength : (opening ++ s).length = s.length + 2 + 2 := by
    rw [List.length_append]
    exact Nat.add_comm ..
  rw [hlength, run?_opening] at hrun
  obtain ⟨q, y, m, hcloses, hrest⟩ := Reader.closesAt_of_run?_under hrun hR
  exact ⟨q, y, m, R, hcloses, hrest, he⟩

/-- The text up to the end of the group is a pattern. -/
theorem exists_of_read?_opening (h : read? (opening ++ s) = some e) :
    ∃ x y, s = x ++ ')' :: y ∧ (read? x).isSome = true := by
  obtain ⟨q, y, m, R, hcloses, -⟩ := exists_closesAt h
  obtain ⟨x, rfl, hrun⟩ := hcloses.exists_run?
  exact ⟨x, y, rfl, Option.isSome_iff_exists.2
    ⟨_, read?_eq_some_iff.2 ⟨q, hrun, hcloses.outer_eq_nil, rfl⟩⟩⟩

theorem Reader.eq_of_run?_dollar {r R : Reader} {n : Nat} (h : r.run? n ['$'] = some R) :
    R = r.add (.assertion .lineEnd) := by
  have hskip : skipIdle r.verbose ['$'] = ['$'] := by cases r.verbose <;> rfl
  cases n with
  | zero =>
    rw [run?_zero_of_skipIdle_cons hskip] at h
    cases h
  | succ n =>
    rw [run?_succ_of_skipIdle_cons hskip] at h
    simp only [piece?, Piece.read?, take?, Option.map_some, Option.bind_some, run?_nil] at h
    exact (Option.some.inj h).symm

/-- Where a parenthesis stands in a text with the end of a group behind it: in the text, or at the
end of the group. -/
theorem eq_or_exists_of_append_closing {x y : List Char} (h : s ++ closing = x ++ ')' :: y) :
    x = s ∧ y = ['$'] ∨ ∃ z, s = x ++ ')' :: z ∧ y = z ++ closing := by
  rcases List.append_eq_append_iff.1 h with ⟨z, rfl, hz⟩ | ⟨z, rfl, hz⟩
  · rcases z with _ | ⟨c, _ | ⟨d, z⟩⟩
    · exact .inl ⟨List.append_nil s, (List.cons.inj hz).2.symm⟩
    · exact absurd (List.cons.inj (List.cons.inj hz).2).1 (by decide)
    · simp [closing] at hz
  · rcases z with _ | ⟨c, z⟩
    · exact .inl ⟨(List.append_nil x).symm, (List.cons.inj hz).2⟩
    · obtain ⟨rfl, hy⟩ := List.cons.inj hz
      exact .inr ⟨z, rfl, hy⟩

/-- **What is read between the marks.** A pattern is all that is in the group between the marks. -/
theorem read?_anchored (hs : read? s = some e) (h : read? (opening ++ (s ++ closing)) = some e') :
    e' = .concat [.assertion .lineStart, .group .none e, .assertion .lineEnd] := by
  obtain ⟨q, y, m, R, hcloses, hrest, rfl⟩ := exists_closesAt h
  obtain ⟨q', halone, -, rfl⟩ := read?_eq_some_iff.1 hs
  obtain ⟨x, hx, hrun⟩ := hcloses.exists_run?
  rcases eq_or_exists_of_append_closing hx with ⟨rfl, rfl⟩ | ⟨z, -, rfl⟩
  · obtain rfl : q' = q := Option.some.inj (halone.symm.trans hrun)
    rw [Reader.eq_of_run?_dollar hrest]
    rfl
  · have hnone := (hcloses.of_append rfl rfl).run?_eq_none s.length
    rw [halone] at hnone
    cases hnone

end TypeGrading.Pattern
