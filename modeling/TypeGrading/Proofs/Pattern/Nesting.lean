import TypeGrading.Pattern.Reader
import TypeGrading.Proofs.Pattern.Bracketing

/-!
# Patterns within groups

A pattern is read within a group as it is read alone, up to the closing parenthesis that it has no
opening one for.

* `Piece.read?_takes`, `Piece.read?_append`: what a piece takes, and a piece in front of a plain text;
* `run?_eq_of_length_le`: there are at most as many pieces as characters;
* `take?_under`: a piece within one more group;
* `ClosesAt`: a text comes to a closing parenthesis while no group is open;
* `closesAt_of_run?_under`: so does a text that closes a group around it;
* `ClosesAt.exists_run?`: the text up to that parenthesis is a pattern;
* `ClosesAt.of_append`: what closes the group behind the text does not matter then.
-/

namespace TypeGrading.Pattern

open Reader (skipIdle skipLazy Plain Takes)

variable {verbose : Bool} {s t u : List Char} {c : Char}

/-! ### Pieces -/

theorem Piece.read?_takes (verbose : Bool) (c : Char) : Takes (Piece.read? verbose c) := by
  intro s k u h
  rw [Piece.read?.eq_def] at h
  split at h
  · exact (Takes.of_oblivious Reader.opening?_neverGrows fun _ => Reader.opening?_oblivious).map
      Piece.opening h
  · cases h
    exact List.suffix_rfl
  · cases h
    exact List.suffix_rfl
  · exact Reader.brackets?_takes.map (fun set => Piece.part (.oneOf set)) h
  · cases h
    exact Reader.skipLazy_suffix s
  · cases h
    exact Reader.skipLazy_suffix s
  · cases h
    exact Reader.skipLazy_suffix s
  · obtain ⟨⟨n, w⟩, hn, heq⟩ := Option.map_eq_some_iff.1 h
    cases heq
    have hcounts := Takes.of_oblivious Reader.counts?_shrinks.neverGrows
      (fun _ => Reader.counts?_oblivious) hn
    exact ((Reader.skipLazy_suffix _).trans (Reader.skipIdle_suffix verbose w)).trans hcounts
  · exact Reader.escape?_takes.map (fun p => Piece.part (Reader.ofPrimitive p)) h
  all_goals
    cases h
    exact List.suffix_rfl

/-- A piece in front of a plain text is one without it as well, unless it is a boundary with a brace
behind it and only blanks between the brace and the plain text. -/
theorem Piece.read?_append (ht : Plain t) {k : Piece}
    (h : Piece.read? verbose c (s ++ t) = some (k, u)) (hu : t.length ≤ u.length) :
    (∃ v, u = v ++ t ∧ Piece.read? verbose c s = some (k, v)) ∨
      (k = .part (.assertion .boundary) ∧
        ∃ inner, u = '\x7b' :: inner ++ t ∧ skipIdle verbose inner = []) := by
  have hlazy : ∀ {w}, t.length ≤ (skipLazy (w ++ t)).length →
      skipLazy (w ++ t) = skipLazy w ++ t := Reader.skipLazy_append
  rw [Piece.read?.eq_def] at h
  split at h
  · exact .inl (Reader.opening?_oblivious.map Piece.opening h hu)
  · cases h
    exact .inl ⟨s, rfl, rfl⟩
  · cases h
    exact .inl ⟨s, rfl, rfl⟩
  · exact .inl ((Reader.brackets?_oblivious ht).map (fun set => Piece.part (.oneOf set)) h hu)
  · cases h
    exact .inl ⟨_, hlazy hu, rfl⟩
  · cases h
    exact .inl ⟨_, hlazy hu, rfl⟩
  · cases h
    exact .inl ⟨_, hlazy hu, rfl⟩
  · obtain ⟨⟨n, w⟩, hn, heq⟩ := Option.map_eq_some_iff.1 h
    cases heq
    have hskip := hu.trans (Reader.skipLazy_suffix (skipIdle verbose w)).length_le
    obtain ⟨v, rfl, hv⟩ := Reader.counts?_oblivious hn
      (hskip.trans (Reader.skipIdle_length_le verbose w))
    rw [Reader.skipIdle_append hskip] at hu ⊢
    exact .inl ⟨_, hlazy hu, by simp only [Piece.read?, hv, Option.map_some]⟩
  · obtain ⟨⟨p, w⟩, hp, heq⟩ := Option.map_eq_some_iff.1 h
    cases heq
    rcases Reader.escape?_append hp hu with ⟨v, rfl, hv⟩ | ⟨rfl, hidle⟩
    · exact .inl ⟨v, rfl, by simp only [Piece.read?, hv, Option.map_some]⟩
    · exact .inr ⟨rfl, hidle⟩
  · cases h
    exact .inl ⟨s, rfl, rfl⟩
  · cases h
    exact .inl ⟨s, rfl, rfl⟩
  · cases h
    exact .inl ⟨s, rfl, rfl⟩
  · cases h
    exact .inl ⟨s, rfl, by rw [Piece.read?] <;> assumption⟩

theorem Piece.eq_of_read?_closing (h : Piece.read? verbose c s = some (.closing, u)) : c = ')' := by
  rw [Piece.read?.eq_def] at h
  split at h
  · simp at h
  · rfl
  all_goals simp at h

namespace Reader

variable {r r' : Reader} {g : OpenGroup} {n : Nat}

theorem piece?_eq_some_iff :
    r.piece? c s = some (r', u) ↔
      ∃ k, Piece.read? r.verbose c s = some (k, u) ∧ r.take? k = some r' := by
  rw [piece?]
  simp only [Option.bind_eq_some_iff, Option.map_eq_some_iff, Prod.exists, Prod.mk.injEq]
  constructor
  · rintro ⟨k, u', hread, q, htake, rfl, rfl⟩
    exact ⟨k, hread, htake⟩
  · rintro ⟨k, hread, htake⟩
    exact ⟨k, u, hread, r', htake, rfl, rfl⟩

theorem piece?_takes (r : Reader) (c : Char) : Takes (r.piece? c) := by
  intro s r' u h
  obtain ⟨k, hread, -⟩ := piece?_eq_some_iff.1 h
  exact Piece.read?_takes _ _ hread

/-! ### Runs -/

theorem run?_nil (n : Nat) (r : Reader) : r.run? n [] = some r := by
  have hskip : skipIdle r.verbose [] = [] := by cases r.verbose <;> rfl
  cases n <;> simp [run?, hskip]

theorem run?_of_skipIdle_nil (h : skipIdle r.verbose s = []) : r.run? n s = some r := by
  cases n <;> simp [run?, h]

theorem run?_succ_of_skipIdle_cons (h : skipIdle r.verbose s = c :: u) :
    r.run? (n + 1) s = (r.piece? c u).bind fun x => x.1.run? n x.2 := by
  rw [run?.eq_def]
  simp only [h]
  rcases r.piece? c u with _ | ⟨r', v⟩ <;> rfl

theorem run?_zero_of_skipIdle_cons (h : skipIdle r.verbose s = c :: u) : r.run? 0 s = none := by
  rw [run?.eq_def]
  simp only [h]

/-- As many pieces as there are characters are enough. -/
theorem run?_eq_of_length_le {m : Nat} (hn : s.length ≤ n) (hm : s.length ≤ m) :
    r.run? n s = r.run? m s := by
  induction n generalizing m r s with
  | zero =>
    obtain rfl := List.length_eq_zero_iff.1 (Nat.le_zero.1 hn)
    rw [run?_nil, run?_nil]
  | succ n ih =>
    cases m with
    | zero =>
      obtain rfl := List.length_eq_zero_iff.1 (Nat.le_zero.1 hm)
      rw [run?_nil, run?_nil]
    | succ m =>
      rcases hs : skipIdle r.verbose s with _ | ⟨c, u⟩
      · rw [run?_of_skipIdle_nil hs, run?_of_skipIdle_nil hs]
      · rw [run?_succ_of_skipIdle_cons hs, run?_succ_of_skipIdle_cons hs]
        rcases hpiece : r.piece? c u with _ | ⟨r', v⟩
        · rfl
        · have hlt := skipIdle_cons_length_lt hs
          have hle : v.length ≤ u.length := (piece?_takes r c hpiece).length_le
          have hle' : v.length ≤ n ∧ v.length ≤ m := by omega
          exact ih hle'.1 hle'.2

/-! ### One more group -/

/-- The same within one more group. -/
def under (g : OpenGroup) (r : Reader) : Reader := { r with outer := r.outer ++ [g] }

theorem under_outer_ne_nil : (r.under g).outer ≠ [] := by simp [under]

/-- A piece is taken in the same way within one more group, unless it closes that group. -/
theorem take?_under {k : Piece} (h : k = .closing → r.outer ≠ []) :
    (r.under g).take? k = (r.take? k).map (under g) := by
  cases k with
  | opening o =>
    cases o with
    | switch change => rfl
    | group change => rfl
    | namedGroup name =>
      by_cases hname : name ∈ r.names <;> simp [take?, begin?, under, openGroup, hname]
  | closing =>
    obtain ⟨o, outer, houter⟩ := List.exists_cons_of_ne_nil (h rfl)
    simp [take?, closeGroup?, under, houter]
  | bar => rfl
  | part e => rfl
  | repetition min max =>
    simp only [take?, repeat?, Option.map_map, under]
    rfl

/-! ### Closing a group from within -/

/-- Piece by piece, the text comes to a closing parenthesis while no group is open: with what was read
up to there, and the text behind the parenthesis. -/
inductive ClosesAt : Reader → List Char → Reader → List Char → Prop
  | here {q : Reader} {x y : List Char} : skipIdle q.verbose x = ')' :: y → q.outer = [] →
      ClosesAt q x q y
  | later {q q' q'' : Reader} {d : Char} {x y z w : List Char} : skipIdle q.verbose x = d :: y →
      q.piece? d y = some (q', z) → ClosesAt q' z q'' w → ClosesAt q x q'' w

namespace ClosesAt

variable {y : List Char}

theorem outer_eq_nil (h : ClosesAt r s r' y) : r'.outer = [] := by
  induction h with
  | here _ houter => exact houter
  | later _ _ _ ih => exact ih

theorem length_lt (h : ClosesAt r s r' y) : y.length < s.length := by
  induction h with
  | here hskip _ => exact skipIdle_cons_length_lt hskip
  | later hskip hpiece _ ih =>
    have := skipIdle_cons_length_lt hskip
    have := (piece?_takes _ _ hpiece).length_le
    omega

/-- A text that closes a group around it cannot be read alone. -/
theorem run?_eq_none (h : ClosesAt r s r' y) (n : Nat) : r.run? n s = none := by
  induction h generalizing n with
  | here hskip houter =>
    cases n with
    | zero => exact run?_zero_of_skipIdle_cons hskip
    | succ n =>
      rw [run?_succ_of_skipIdle_cons hskip, piece?]
      simp [Piece.read?, take?, closeGroup?, houter]
  | later hskip hpiece _ ih =>
    cases n with
    | zero => exact run?_zero_of_skipIdle_cons hskip
    | succ n => rw [run?_succ_of_skipIdle_cons hskip, hpiece]; exact ih n

end ClosesAt

/-- What was read once a group around it is closed. -/
def closed (g : OpenGroup) (r : Reader) : Reader where
  verbose := g.verbose
  names := r.names
  current := g.waiting.add (.group g.change r.current.close)
  outer := []

/-- **A group around a text is closed from within.** Up to that place the text is read without the
group, and what follows is read behind it. -/
theorem closesAt_of_run?_under {R : Reader} (h : (r.under g).run? n s = some R) (hR : R.outer = []) :
    ∃ r' y m, ClosesAt r s r' y ∧ (r'.closed g).run? m y = some R := by
  induction n generalizing r s with
  | zero =>
    rcases hs : skipIdle r.verbose s with _ | ⟨c, v⟩
    · rw [run?_of_skipIdle_nil (r := r.under g) hs] at h
      cases h
      exact absurd hR under_outer_ne_nil
    · rw [run?_zero_of_skipIdle_cons (r := r.under g) hs] at h
      cases h
  | succ n ih =>
    rcases hs : skipIdle r.verbose s with _ | ⟨c, v⟩
    · rw [run?_of_skipIdle_nil (r := r.under g) hs] at h
      cases h
      exact absurd hR under_outer_ne_nil
    rw [run?_succ_of_skipIdle_cons (r := r.under g) hs] at h
    obtain ⟨⟨q, u⟩, hpiece, h⟩ := Option.bind_eq_some_iff.1 h
    obtain ⟨k, hread, htake⟩ := piece?_eq_some_iff.1 hpiece
    by_cases hclose : k = .closing ∧ r.outer = []
    · obtain ⟨rfl, houter⟩ := hclose
      obtain rfl := Piece.eq_of_read?_closing hread
      cases hread
      refine ⟨r, v, n, .here hs houter, ?_⟩
      simp only [take?, closeGroup?, under, houter, List.nil_append, Option.some.injEq] at htake
      rw [← h, ← htake]
      rfl
    · rw [take?_under (fun hk houter => hclose ⟨hk, houter⟩)] at htake
      obtain ⟨r₁, htake₁, rfl⟩ := Option.map_eq_some_iff.1 htake
      obtain ⟨r', y, m, hcloses, hrun⟩ := ih h
      exact ⟨r', y, m, .later hs (piece?_eq_some_iff.2 ⟨k, hread, htake₁⟩) hcloses, hrun⟩

/-- Behind a brace and blanks there is no count. -/
theorem counts?_of_skipIdle_nil (h : skipIdle verbose s = []) : counts? verbose s = none := by
  rw [counts?, h]
  rfl

theorem piece?_brace_eq_none (h : counts? r.verbose s = none) : r.piece? '\x7b' s = none := by
  rw [piece?, Piece.read?, h]
  rfl

theorem skipIdle_brace : skipIdle verbose ('\x7b' :: s) = '\x7b' :: s := by cases verbose <;> rfl

theorem plain_closing_cons (s : List Char) : Plain (')' :: s) := by
  rintro c ⟨⟩
  decide

/-- **The text up to the parenthesis that closes a group around it is a pattern.** -/
theorem ClosesAt.exists_run? {y : List Char} (h : ClosesAt r s r' y) :
    ∃ x, s = x ++ ')' :: y ∧ r.run? x.length x = some r' := by
  induction h with
  | here hskip houter =>
    obtain ⟨x, rfl, hx, -⟩ := exists_of_skipIdle_cons hskip
    exact ⟨x, rfl, run?_of_skipIdle_nil hx⟩
  | @later q q' q'' d s v z y hskip hpiece _ ih =>
    obtain ⟨x, rfl, hrun⟩ := ih
    obtain ⟨front, rfl, -, hfront⟩ := exists_of_skipIdle_cons hskip
    obtain ⟨taken, rfl⟩ := piece?_takes q d hpiece
    obtain ⟨k, hread, htake⟩ := piece?_eq_some_iff.1 hpiece
    rw [← List.append_assoc] at hread
    rcases Piece.read?_append (plain_closing_cons y) hread (by simp) with
      ⟨w, hw, hpart⟩ | ⟨rfl, inner, hinner, hidle⟩
    · obtain rfl := List.append_cancel_right hw
      refine ⟨front ++ d :: (taken ++ x), by simp, ?_⟩
      have hlength : (front ++ d :: (taken ++ x)).length =
          front.length + taken.length + x.length + 1 := by
        simp only [List.length_append, List.length_cons]
        omega
      rw [hlength, run?_succ_of_skipIdle_cons (hfront _), piece?_eq_some_iff.2 ⟨k, hpart, htake⟩,
        ← hrun]
      exact run?_eq_of_length_le (Nat.le_add_left ..) le_rfl
    · -- a brace behind the boundary, with only blanks up to the parenthesis, is no count
      obtain rfl := List.append_cancel_right hinner
      cases htake
      have hnone : (q.add (.assertion .boundary)).piece? '\x7b' inner = none :=
        piece?_brace_eq_none (counts?_of_skipIdle_nil hidle)
      rw [List.length_cons, run?_succ_of_skipIdle_cons skipIdle_brace, hnone] at hrun
      cases hrun

/-! ### Closing a group behind a text -/

/-- The text that is behind a pattern within a group, up to the end. -/
def closing : List Char := [')', '$']

theorem skipIdle_append_closing (h : skipIdle verbose s = []) :
    skipIdle verbose (s ++ closing) = closing ∨ skipIdle verbose (s ++ closing) = [] := by
  have hdrop : ∀ b, dropIdle b s = [] →
      dropIdle b (s ++ closing) = closing ∨ dropIdle b (s ++ closing) = [] := by
    clear h
    induction s with
    | nil => intro b _; cases b <;> decide
    | cons c s ih =>
      intro b h
      simp only [List.cons_append, dropIdle] at h ⊢
      split_ifs at h ⊢
      · exact ih _ h
      · exact ih _ h
      · exact ih _ h
  cases verbose with
  | false =>
    obtain rfl : s = [] := h
    exact .inl rfl
  | true => exact hdrop false h

/-- Behind a brace and blanks, a closing parenthesis is no count. -/
theorem counts?_append_closing (h : skipIdle verbose s = []) :
    counts? verbose (s ++ closing) = none := by
  rw [counts?]
  rcases skipIdle_append_closing h with h | h <;> rw [h] <;> cases verbose <;> rfl

theorem not_closesAt_brace {y : List Char} (h : counts? r.verbose s = none) :
    ¬ ClosesAt r ('\x7b' :: s) r' y := by
  intro hcloses
  cases hcloses with
  | here hskip _ =>
    rw [skipIdle_brace] at hskip
    exact absurd (List.cons.inj hskip).1 (by decide)
  | later hskip hpiece _ =>
    rw [skipIdle_brace] at hskip
    obtain ⟨rfl, rfl⟩ := List.cons.inj hskip
    rw [piece?_brace_eq_none h] at hpiece
    cases hpiece

/-- Where a group is closed within a text, what closes it behind the text does not matter. -/
theorem ClosesAt.of_append {x y z : List Char} (h : ClosesAt r x r' z) (hx : x = s ++ closing)
    (hz : z = y ++ closing) : ClosesAt r s r' y := by
  induction h generalizing s with
  | here hskip houter =>
    subst hx hz
    obtain ⟨v, hv, hfront⟩ := skipIdle_append_cons hskip (by simp)
    obtain rfl := List.append_cancel_right hv
    exact .here hfront houter
  | @later q q' q'' d x v u z hskip hpiece hcloses ih =>
    subst hx hz
    have hu : closing.length ≤ u.length := by
      have := hcloses.length_lt
      rw [List.length_append] at this
      omega
    obtain ⟨v, rfl, hfront⟩ :=
      skipIdle_append_cons hskip (hu.trans (piece?_takes q d hpiece).length_le)
    obtain ⟨k, hread, htake⟩ := piece?_eq_some_iff.1 hpiece
    rcases Piece.read?_append (plain_closing_cons _) hread hu with
      ⟨w, rfl, hpart⟩ | ⟨rfl, inner, rfl, hidle⟩
    · exact .later hfront (piece?_eq_some_iff.2 ⟨k, hpart, htake⟩) (ih rfl rfl)
    · cases htake
      exact absurd hcloses (not_closesAt_brace (counts?_append_closing hidle))

end Reader

end TypeGrading.Pattern
