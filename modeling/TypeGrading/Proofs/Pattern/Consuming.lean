import Mathlib.Data.List.TakeWhile
import Mathlib.Tactic
import TypeGrading.Pattern.Reader.Operators

/-!
# What readers take

A reader takes a piece off the front of a text. It never gives back more than it was given, and what
it reads in front of a text `t` it also reads where nothing follows, as long as it leaves `t` alone.

* `NeverGrows`, `Shrinks`: the text that is left is not longer, or shorter;
* `Oblivious`: what is read in front of `t` does not depend on `t`;
* `Takes`: the text that is left is the end of the text that was given;
* `numbered?_eq_some_iff`, `property?_eq_some_iff` and so on: what each reader takes, for escapes, groups
  and counts;
* `escape?_append`: an escape in front of `t`.

One reader looks ahead without taking: braces behind `\b` may name a special boundary or belong to a
repetition, and blanks up to the end of the text are neither. `escape?_append` has this as a case of its
own.
-/

namespace TypeGrading.Pattern.Reader

open Text (isBlank)

variable {α β : Type} {verbose : Bool} {s t u : List Char} {c : Char}

/-! ### Readers -/

/-- What is left is not longer than what was given. -/
def NeverGrows (f : List Char → Option (α × List Char)) : Prop :=
  ∀ ⦃s a u⦄, f s = some (a, u) → u.length ≤ s.length

/-- What is left is shorter than what was given. -/
def Shrinks (f : List Char → Option (α × List Char)) : Prop :=
  ∀ ⦃s a u⦄, f s = some (a, u) → u.length < s.length

/-- What is read in front of `t`, without taking any of it, is read without `t` as well. -/
def Oblivious (t : List Char) (f : List Char → Option (α × List Char)) : Prop :=
  ∀ ⦃s a u⦄, f (s ++ t) = some (a, u) → t.length ≤ u.length → ∃ v, u = v ++ t ∧ f s = some (a, v)

/-- What is left is the end of what was given. -/
def Takes (f : List Char → Option (α × List Char)) : Prop :=
  ∀ ⦃s a u⦄, f s = some (a, u) → u <:+ s

theorem Shrinks.neverGrows {f : List Char → Option (α × List Char)} (h : Shrinks f) :
    NeverGrows f :=
  fun _ _ _ hf => (h hf).le

theorem NeverGrows.map {f : List Char → Option (α × List Char)} (h : NeverGrows f) (g : α → β) :
    NeverGrows fun s => (f s).map fun x => (g x.1, x.2) := by
  intro s b u hs
  obtain ⟨x, hx, heq⟩ := Option.map_eq_some_iff.1 hs
  cases heq
  exact h hx

theorem Oblivious.map {f : List Char → Option (α × List Char)} (h : Oblivious t f) (g : α → β) :
    Oblivious t fun s => (f s).map fun x => (g x.1, x.2) := by
  intro s b u hs hu
  obtain ⟨⟨a, r⟩, hx, heq⟩ := Option.map_eq_some_iff.1 hs
  cases heq
  obtain ⟨v, rfl, hv⟩ := h hx hu
  exact ⟨v, rfl, by simp only [hv, Option.map_some]⟩

theorem Takes.map {f : List Char → Option (α × List Char)} (h : Takes f) (g : α → β) :
    Takes fun s => (f s).map fun x => (g x.1, x.2) := by
  intro s b u hs
  obtain ⟨x, hx, heq⟩ := Option.map_eq_some_iff.1 hs
  cases heq
  exact h hx

/-- A text that is not longer than `s` is as long as the end of `s` in some place. -/
theorem exists_append_length_eq {n : Nat} (h : n ≤ s.length) :
    ∃ x t, s = x ++ t ∧ t.length = n :=
  ⟨s.take (s.length - n), s.drop (s.length - n), (List.take_append_drop ..).symm, by
    rw [List.length_drop]
    omega⟩

/-- A reader that leaves alone whatever text stands behind what it takes leaves the end of the text. -/
theorem Takes.of_oblivious {f : List Char → Option (α × List Char)} (hf : NeverGrows f)
    (h : ∀ t, Oblivious t f) : Takes f := by
  intro s a u hs
  obtain ⟨x, t, rfl, ht⟩ := exists_append_length_eq (hf hs)
  obtain ⟨v, rfl, -⟩ := h t hs ht.le
  exact ⟨x, by rw [List.length_eq_zero_iff.1 (by simpa using ht : v.length = 0), List.nil_append]⟩

/-- A reader that does not mind what follows finds nothing where it finds nothing with more behind it. -/
theorem eq_none_of_append {f : List Char → Option (α × List Char)}
    (happend : ∀ {a u}, f s = some (a, u) → f (s ++ t) = some (a, u ++ t))
    (h : f (s ++ t) = none) : f s = none := by
  rcases hs : f s with _ | ⟨a, u⟩
  · rfl
  · rw [happend hs] at h
    cases h

/-! ### Texts -/

/-- What follows a text that was read, in front of `t`. -/
theorem exists_of_append_eq_append {x : List Char} (h : s ++ t = x ++ u) (hu : t.length ≤ u.length) :
    ∃ v, u = v ++ t ∧ s = x ++ v := by
  rcases List.append_eq_append_iff.1 h with ⟨v, rfl, rfl⟩ | ⟨v, rfl, rfl⟩
  · rw [List.length_append] at hu
    obtain rfl := List.length_eq_zero_iff.1 (by omega : v.length = 0)
    exact ⟨[], rfl, by simp⟩
  · exact ⟨v, rfl, rfl⟩

theorem dropWhile_append {p : Char → Bool} (h : t.length ≤ ((s ++ t).dropWhile p).length) :
    (s ++ t).dropWhile p = s.dropWhile p ++ t := by
  induction s with
  | nil => exact (List.dropWhile_suffix p).eq_of_length_le h
  | cons c s ih =>
    simp only [List.cons_append, List.dropWhile_cons] at h ⊢
    split_ifs at h ⊢
    · exact ih h
    · rfl

theorem dropWhile_ne_eq_cons_iff {stop : Char} :
    s.dropWhile (· ≠ stop) = c :: u ↔
      c = stop ∧ s = s.takeWhile (· ≠ stop) ++ stop :: u := by
  have hsplit := List.takeWhile_append_dropWhile (p := fun c => decide (c ≠ stop)) (l := s)
  constructor
  · intro h
    have hc := List.head_dropWhile_not (fun c => decide (c ≠ stop)) (w := by rw [h]; simp)
    simp only [h, List.head_cons, decide_eq_false_iff_not, not_not] at hc
    subst hc
    exact ⟨rfl, by rw [← h, hsplit]⟩
  · rintro ⟨rfl, h⟩
    exact List.append_cancel_left (hsplit.trans h)

/-- A text up to the first character of a kind, and the text behind it. -/
theorem takeWhile_append_cons {x : List Char} {stop : Char} (hx : stop ∉ x) :
    (x ++ stop :: u).takeWhile (· ≠ stop) = x ∧
      (x ++ stop :: u).dropWhile (· ≠ stop) = stop :: u := by
  have hne : ∀ c ∈ x, decide (c ≠ stop) = true := fun c hc =>
    decide_eq_true fun h => hx (h ▸ hc)
  constructor
  · rw [List.takeWhile_append_of_pos hne]
    simp
  · rw [List.dropWhile_append_of_pos hne]
    simp

/-! ### Blanks and comments -/

theorem dropIdle_suffix (b : Bool) (s : List Char) : dropIdle b s <:+ s := by
  induction s generalizing b with
  | nil => exact List.suffix_rfl
  | cons c s ih =>
    rw [dropIdle]
    split_ifs
    · exact (ih _).trans (List.suffix_cons c s)
    · exact (ih _).trans (List.suffix_cons c s)
    · exact (ih _).trans (List.suffix_cons c s)
    · exact List.suffix_rfl

theorem skipIdle_suffix (verbose : Bool) (s : List Char) : skipIdle verbose s <:+ s := by
  rw [skipIdle]
  split_ifs
  · exact dropIdle_suffix ..
  · exact List.suffix_rfl

theorem skipIdle_length_le (verbose : Bool) (s : List Char) :
    (skipIdle verbose s).length ≤ s.length :=
  (skipIdle_suffix verbose s).length_le

theorem dropIdle_append {b : Bool} (h : t.length ≤ (dropIdle b (s ++ t)).length) :
    dropIdle b (s ++ t) = dropIdle b s ++ t := by
  induction s generalizing b with
  | nil => exact (dropIdle_suffix b t).eq_of_length_le h
  | cons c s ih =>
    simp only [List.cons_append, dropIdle] at h ⊢
    split_ifs at h ⊢
    · exact ih h
    · exact ih h
    · exact ih h
    · rfl

theorem skipIdle_append (h : t.length ≤ (skipIdle verbose (s ++ t)).length) :
    skipIdle verbose (s ++ t) = skipIdle verbose s ++ t := by
  rw [skipIdle, skipIdle] at *
  split_ifs at h ⊢
  · exact dropIdle_append h
  · rfl

/-- A piece that stands in front of `t` stands there without `t` as well. -/
theorem skipIdle_append_append {x : List Char} (h : skipIdle verbose (s ++ t) = x ++ u)
    (hu : t.length ≤ u.length) : ∃ v, u = v ++ t ∧ skipIdle verbose s = x ++ v := by
  have happ : skipIdle verbose (s ++ t) = skipIdle verbose s ++ t :=
    skipIdle_append (by rw [h, List.length_append]; omega)
  exact exists_of_append_eq_append (happ.symm.trans h) hu

theorem skipIdle_append_cons (h : skipIdle verbose (s ++ t) = c :: u) (hu : t.length ≤ u.length) :
    ∃ v, u = v ++ t ∧ skipIdle verbose s = c :: v :=
  skipIdle_append_append (x := [c]) h hu

theorem skipIdle_cons_length_lt (h : skipIdle verbose s = c :: u) : u.length < s.length := by
  have := skipIdle_length_le verbose s
  rw [h, List.length_cons] at this
  omega

/-- Where a piece starts, what follows changes nothing. -/
theorem skipIdle_append_of_ne_nil (h : skipIdle verbose s ≠ []) :
    skipIdle verbose (s ++ t) = skipIdle verbose s ++ t := by
  have hdrop : ∀ b, dropIdle b s ≠ [] → dropIdle b (s ++ t) = dropIdle b s ++ t := by
    clear h
    induction s with
    | nil => exact fun b h => absurd rfl h
    | cons c s ih =>
      intro b h
      simp only [List.cons_append, dropIdle] at h ⊢
      split_ifs at h ⊢
      · exact ih _ h
      · exact ih _ h
      · exact ih _ h
      · rfl
  simp only [skipIdle] at h ⊢
  split_ifs at h ⊢
  · exact hdrop false h
  · rfl

theorem skipIdle_append_of_cons (h : skipIdle verbose s = c :: u) :
    skipIdle verbose (s ++ t) = c :: (u ++ t) := by
  rw [skipIdle_append_of_ne_nil (by simp [h]), h, List.cons_append]

/-- What means nothing in front of a character is found alone, and in front of the same character with
another text behind it. -/
theorem exists_of_skipIdle_cons (h : skipIdle verbose s = c :: u) :
    ∃ x, s = x ++ c :: u ∧ skipIdle verbose x = [] ∧
      ∀ y, skipIdle verbose (x ++ c :: y) = c :: y := by
  have hdrop : ∀ b, dropIdle b s = c :: u →
      ∃ x, s = x ++ c :: u ∧ dropIdle b x = [] ∧ ∀ y, dropIdle b (x ++ c :: y) = c :: y := by
    clear h
    induction s with
    | nil => exact fun b h => nomatch h
    | cons d s ih =>
      intro b h
      rw [dropIdle] at h
      split_ifs at h with hcomment hblank hsign
      · obtain ⟨x, rfl, hx, hy⟩ := ih _ h
        exact ⟨d :: x, rfl, by grind [dropIdle], by grind [dropIdle]⟩
      · obtain ⟨x, rfl, hx, hy⟩ := ih _ h
        exact ⟨d :: x, rfl, by grind [dropIdle], by grind [dropIdle]⟩
      · obtain ⟨x, rfl, hx, hy⟩ := ih _ h
        exact ⟨d :: x, rfl, by grind [dropIdle], by grind [dropIdle]⟩
      · cases h
        exact ⟨[], rfl, rfl, by grind [dropIdle]⟩
  cases verbose with
  | false =>
    obtain rfl : s = c :: u := h
    exact ⟨[], rfl, rfl, fun y => rfl⟩
  | true => exact hdrop false h

theorem until?_shrinks {stop : Char} {b : Bool} : Shrinks (until? verbose stop b) := by
  intro s
  induction s generalizing b with
  | nil => simp [until?]
  | cons c s ih =>
    intro cs u h
    rw [List.length_cons, Nat.lt_succ_iff]
    rw [until?] at h
    split_ifs at h
    · exact (ih h).le
    · simp_all
    · exact (ih h).le
    · exact (ih h).le
    · obtain ⟨⟨cs', r⟩, hr, heq⟩ := Option.map_eq_some_iff.1 h
      cases heq
      exact (ih hr).le

theorem until?_oblivious {stop : Char} {b : Bool} :
    Oblivious t (until? verbose stop b) := by
  intro s
  induction s generalizing b with
  | nil =>
    intro cs u h hu
    exact absurd (until?_shrinks h) (by simpa using hu)
  | cons c s ih =>
    intro cs u h hu
    simp only [List.cons_append, until?] at h ⊢
    split_ifs at h ⊢
    · exact ih h hu
    · cases h
      exact ⟨s, rfl, rfl⟩
    · exact ih h hu
    · exact ih h hu
    · obtain ⟨⟨cs', r⟩, hr, heq⟩ := Option.map_eq_some_iff.1 h
      cases heq
      obtain ⟨v, rfl, hv⟩ := ih hr hu
      exact ⟨v, rfl, by rw [hv]; rfl⟩

theorem skipIdle_ne_nil_of_until? {stop : Char} {cs : List Char} (hblank : isBlank stop = false)
    (hsign : stop ≠ '#') (h : until? verbose stop false s = some (cs, u)) :
    skipIdle verbose s ≠ [] := by
  have hdrop : ∀ b cs, until? true stop b s = some (cs, u) → dropIdle b s ≠ [] := by
    clear h
    induction s with
    | nil => simp [until?]
    | cons c s ih =>
      intro b cs h
      grind [until?, dropIdle]
  cases verbose with
  | false =>
    rintro rfl
    cases h
  | true => exact hdrop false cs h

/-! ### Single characters by number -/

theorem exactly?_neverGrows {n : Nat} : NeverGrows (exactly? verbose n) := by
  induction n with
  | zero =>
    intro s a u h
    cases h
    exact le_rfl
  | succ n ih =>
    intro s a u h
    cases s with
    | nil => cases h
    | cons c s =>
      obtain ⟨⟨cs, r⟩, hr, heq⟩ := Option.map_eq_some_iff.1 h
      cases heq
      have := ih hr
      have := skipIdle_length_le verbose s
      rw [List.length_cons]
      omega

theorem exactly?_oblivious {n : Nat} : Oblivious t (exactly? verbose n) := by
  induction n with
  | zero =>
    intro s a u h _
    cases h
    exact ⟨s, rfl, rfl⟩
  | succ n ih =>
    intro s a u h hu
    cases s with
    | nil =>
      cases t with
      | nil => cases h
      | cons c t =>
        obtain ⟨⟨cs, r⟩, hr, heq⟩ := Option.map_eq_some_iff.1 h
        cases heq
        have := exactly?_neverGrows hr
        have := skipIdle_length_le verbose t
        rw [List.length_cons] at hu
        omega
    | cons c s =>
      obtain ⟨⟨cs, r⟩, hr, heq⟩ := Option.map_eq_some_iff.1 h
      cases heq
      change exactly? verbose n (skipIdle verbose (s ++ t)) = _ at hr
      rw [skipIdle_append (hu.trans (exactly?_neverGrows hr))] at hr
      obtain ⟨v, rfl, hv⟩ := ih hr hu
      exact ⟨v, rfl, by rw [exactly?, hv]; rfl⟩

/-- What a character by its number looks like. -/
theorem numbered?_eq_some_iff {width : Nat} {l : Literal} :
    numbered? verbose width s = some (l, u) ↔
      (∃ inner ds, skipIdle verbose s = '\x7b' :: inner ∧
        until? verbose '\x7d' false inner = some (ds, u) ∧
        ∃ c, charOfHex? ds = some c ∧ ⟨c, false⟩ = l) ∨
      ((∀ inner, skipIdle verbose s ≠ '\x7b' :: inner) ∧ ∃ ds,
        exactly? verbose width (skipIdle verbose s) = some (ds, u) ∧
        ∃ c, charOfHex? ds = some c ∧ ⟨c, width == 2⟩ = l) := by
  simp only [numbered?]
  split
  · next inner hs => grind [Option.bind_eq_some_iff]
  · next hs =>
    have hne : ∀ inner, skipIdle verbose s ≠ '\x7b' :: inner := fun inner h => hs inner h
    grind [Option.bind_eq_some_iff]

theorem numbered?_neverGrows {width : Nat} : NeverGrows (numbered? verbose width) := by
  intro s l u h
  rcases numbered?_eq_some_iff.1 h with ⟨inner, ds, hs, hds, -⟩ | ⟨-, ds, hds, -⟩
  · exact ((until?_shrinks hds).trans (skipIdle_cons_length_lt hs)).le
  · exact (exactly?_neverGrows hds).trans (skipIdle_length_le verbose s)

theorem numbered?_oblivious {width : Nat} : Oblivious t (numbered? verbose width) := by
  intro s l u h hu
  rcases numbered?_eq_some_iff.1 h with ⟨inner, ds, hs, hds, hl⟩ | ⟨hs, ds, hds, hl⟩
  · have := until?_shrinks hds
    obtain ⟨w, rfl, hw⟩ := skipIdle_append_cons hs (by omega)
    obtain ⟨v, rfl, hv⟩ := until?_oblivious hds hu
    exact ⟨v, rfl, numbered?_eq_some_iff.2 (.inl ⟨w, ds, hw, hv, hl⟩)⟩
  · rw [skipIdle_append (hu.trans (exactly?_neverGrows hds))] at hs hds
    obtain ⟨v, rfl, hv⟩ := exactly?_oblivious hds hu
    exact ⟨v, rfl, numbered?_eq_some_iff.2
      (.inr ⟨fun inner hi => hs (inner ++ t) (by rw [hi]; rfl), ds, hv, hl⟩)⟩

/-! ### Properties and boundaries -/

/-- What a property looks like. -/
theorem property?_eq_some_iff {name : PropertyName} :
    property? verbose s = some (name, u) ↔
      (∃ inner cs, skipIdle verbose s = '\x7b' :: inner ∧
        until? verbose '\x7d' false inner = some (cs, u) ∧ propertyName cs = name) ∨
      (∃ c, c ≠ '\\' ∧ c ≠ '\x7b' ∧ skipIdle verbose s = c :: u ∧
        .named (String.ofList [c]) = name) := by
  simp only [property?]
  split
  · grind
  · grind
  · grind [Option.map_eq_some_iff]
  · grind

theorem property?_neverGrows : NeverGrows (property? verbose) := by
  intro s name u h
  rcases property?_eq_some_iff.1 h with ⟨inner, cs, hs, hcs, -⟩ | ⟨c, -, -, hs, -⟩
  · exact ((until?_shrinks hcs).trans (skipIdle_cons_length_lt hs)).le
  · exact (skipIdle_cons_length_lt hs).le

theorem property?_oblivious : Oblivious t (property? verbose) := by
  intro s name u h hu
  rcases property?_eq_some_iff.1 h with ⟨inner, cs, hs, hcs, hname⟩ | ⟨c, hc, hc', hs, hname⟩
  · have := until?_shrinks hcs
    obtain ⟨w, rfl, hw⟩ := skipIdle_append_cons hs (by omega)
    obtain ⟨v, rfl, hv⟩ := until?_oblivious hcs hu
    exact ⟨v, rfl, property?_eq_some_iff.2 (.inl ⟨w, cs, hw, hv, hname⟩)⟩
  · obtain ⟨v, rfl, hv⟩ := skipIdle_append_cons hs hu
    exact ⟨v, rfl, property?_eq_some_iff.2 (.inr ⟨c, hc, hc', hv, hname⟩)⟩

/-- What a boundary looks like. -/
theorem boundary?_eq_some_iff {a : Assertion} :
    boundary? verbose s = some (a, u) ↔
      (∃ inner c w cs, s = '\x7b' :: inner ∧ skipIdle verbose inner = c :: w ∧
        isBoundaryNameChar c = true ∧ until? verbose '\x7d' false inner = some (cs, u) ∧
        boundaryNamed? cs = some a) ∨
      (a = .boundary ∧ u = s ∧ ∀ inner, s = '\x7b' :: inner →
        ∃ c w, skipIdle verbose inner = c :: w ∧ isBoundaryNameChar c = false) := by
  simp only [boundary?]
  split
  · split
    · grind
    · split_ifs
      · grind [Option.bind_eq_some_iff]
      · grind
  · grind

theorem boundary?_neverGrows : NeverGrows (boundary? verbose) := by
  intro s a u h
  rcases boundary?_eq_some_iff.1 h with ⟨inner, _, _, cs, rfl, -, -, hcs, -⟩ | ⟨-, rfl, -⟩
  · have := until?_shrinks hcs
    rw [List.length_cons]
    omega
  · exact le_rfl

/-- A boundary in front of `t` is one without `t` as well, unless only blanks stand between a brace
and `t`. -/
theorem boundary?_append {a : Assertion} (h : boundary? verbose (s ++ t) = some (a, u))
    (hu : t.length ≤ u.length) :
    (∃ v, u = v ++ t ∧ boundary? verbose s = some (a, v)) ∨
      (a = .boundary ∧ u = s ++ t ∧ ∃ inner, s = '\x7b' :: inner ∧ skipIdle verbose inner = []) := by
  rcases boundary?_eq_some_iff.1 h with ⟨inner, c, w, cs, hs, hw, hc, hcs, ha⟩ | ⟨rfl, rfl, hs⟩
  · have := until?_shrinks hcs
    cases s with
    | nil =>
      rw [List.nil_append] at hs
      rw [hs, List.length_cons] at hu
      omega
    | cons d s =>
      obtain ⟨rfl, rfl⟩ := List.cons.inj hs
      obtain ⟨v, rfl, hv⟩ := until?_oblivious hcs hu
      have hne := skipIdle_ne_nil_of_until? (by decide) (by decide) hv
      obtain ⟨c', w', hw'⟩ := List.exists_cons_of_ne_nil hne
      obtain ⟨rfl, -⟩ := List.cons.inj ((skipIdle_append_of_cons hw').symm.trans hw)
      exact .inl ⟨v, rfl, boundary?_eq_some_iff.2 (.inl ⟨s, _, w', cs, rfl, hw', hc, hv, ha⟩)⟩
  · by_cases hidle : ∃ inner, s = '\x7b' :: inner ∧ skipIdle verbose inner = []
    · exact .inr ⟨rfl, rfl, hidle⟩
    · refine .inl ⟨s, rfl, boundary?_eq_some_iff.2 (.inr ⟨rfl, rfl, ?_⟩)⟩
      rintro inner rfl
      obtain ⟨c, w, hw, hc⟩ := hs (inner ++ t) rfl
      have hne : skipIdle verbose inner ≠ [] := fun h => hidle ⟨inner, rfl, h⟩
      obtain ⟨c', w', hw'⟩ := List.exists_cons_of_ne_nil hne
      obtain ⟨rfl, -⟩ := List.cons.inj ((skipIdle_append_of_cons hw').symm.trans hw)
      exact ⟨_, w', hw', hc⟩

/-! ### Escapes -/

theorem escape?_shrinks : Shrinks (escape? verbose) := by
  intro s p u h
  cases s with
  | nil => cases h
  | cons c s =>
    rw [List.length_cons, Nat.lt_succ_iff]
    simp only [escape?] at h
    split_ifs at h
    · cases h
      exact le_rfl
    · exact numbered?_neverGrows.map Primitive.literal h
    · exact numbered?_neverGrows.map Primitive.literal h
    · exact numbered?_neverGrows.map Primitive.literal h
    · exact property?_neverGrows.map (Primitive.property · (c = 'P')) h
    · exact boundary?_neverGrows.map Primitive.assertion h
    · obtain ⟨p', -, heq⟩ := Option.map_eq_some_iff.1 h
      rw [← (Prod.mk.inj heq).2]

/-- An escape in front of `t` is one without `t` as well, unless it is a boundary with a brace behind it
and only blanks between the brace and `t`. -/
theorem escape?_append {p : Primitive} (h : escape? verbose (s ++ t) = some (p, u))
    (hu : t.length ≤ u.length) :
    (∃ v, u = v ++ t ∧ escape? verbose s = some (p, v)) ∨
      (p = .assertion .boundary ∧
        ∃ inner, u = '\x7b' :: inner ++ t ∧ skipIdle verbose inner = []) := by
  cases s with
  | nil => exact absurd (escape?_shrinks h) (by simpa using hu)
  | cons c s =>
    simp only [List.cons_append, escape?] at h ⊢
    split_ifs at h ⊢
    · cases h
      exact .inl ⟨s, rfl, rfl⟩
    · exact .inl (numbered?_oblivious.map Primitive.literal h hu)
    · exact .inl (numbered?_oblivious.map Primitive.literal h hu)
    · exact .inl (numbered?_oblivious.map Primitive.literal h hu)
    · exact .inl (property?_oblivious.map (Primitive.property · (c = 'P')) h hu)
    · obtain ⟨⟨a, r⟩, hr, heq⟩ := Option.map_eq_some_iff.1 h
      cases heq
      rcases boundary?_append hr hu with ⟨v, rfl, hv⟩ | ⟨rfl, rfl, inner, rfl, hidle⟩
      · exact .inl ⟨v, rfl, by rw [hv]; rfl⟩
      · exact .inr ⟨rfl, inner, rfl, hidle⟩
    · obtain ⟨p', hp, heq⟩ := Option.map_eq_some_iff.1 h
      obtain ⟨rfl, rfl⟩ := Prod.mk.inj heq
      exact .inl ⟨s, rfl, by rw [hp]; rfl⟩

theorem escape?_takes : Takes (escape? verbose) := by
  intro s p u h
  obtain ⟨x, t, rfl, ht⟩ := exists_append_length_eq (escape?_shrinks h).le
  rcases escape?_append h ht.le with ⟨v, rfl, -⟩ | ⟨-, inner, rfl, -⟩
  · exact ⟨x, by rw [List.length_eq_zero_iff.1 (by simpa using ht : v.length = 0), List.nil_append]⟩
  · rw [List.length_append, List.length_cons] at ht
    omega

/-! ### Groups -/

theorem flagsFrom?_length_lt {f : FlagReading} {change : FlagChange} {last : Char}
    (h : flagsFrom? f s = some (change, last, u)) : u.length < s.length := by
  induction s generalizing f with
  | nil => cases h
  | cons c s ih =>
    rw [List.length_cons, Nat.lt_succ_iff]
    rw [flagsFrom?] at h
    split_ifs at h
    · cases h
      exact le_rfl
    · exact (ih h).le
    · split at h
      · exact (ih h).le
      · cases h

theorem flagsFrom?_append {f : FlagReading} {change : FlagChange} {last : Char}
    (h : flagsFrom? f (s ++ t) = some (change, last, u)) (hu : t.length ≤ u.length) :
    ∃ v, u = v ++ t ∧ flagsFrom? f s = some (change, last, v) := by
  induction s generalizing f with
  | nil => exact absurd (flagsFrom?_length_lt h) (by simpa using hu)
  | cons c s ih =>
    simp only [List.cons_append, flagsFrom?] at h ⊢
    split_ifs at h ⊢
    · cases h
      exact ⟨s, rfl, rfl⟩
    · exact ih h
    · split at h
      · exact ih h
      · cases h

/-- What the name of a group looks like. -/
theorem groupName?_eq_some_iff {o : Opening} :
    groupName? s = some (o, u) ↔
      ∃ name, s = name ++ '>' :: u ∧ '>' ∉ name ∧ isGroupName name = true ∧
        .namedGroup name = o := by
  rw [groupName?]
  constructor
  · intro h
    split at h
    · cases h
    · next c rest hdrop =>
      dsimp only at h
      split_ifs at h with hname
      obtain ⟨rfl, rfl⟩ := Prod.mk.inj (Option.some.inj h)
      refine ⟨_, (dropWhile_ne_eq_cons_iff.1 hdrop).2, fun hmem => ?_, hname, rfl⟩
      simpa using List.mem_takeWhile_imp hmem
  · rintro ⟨name, rfl, hnot, hname, rfl⟩
    obtain ⟨htake, hdrop⟩ := takeWhile_append_cons (u := u) hnot
    rw [hdrop]
    simp only [htake, hname, if_true]

theorem groupName?_shrinks : Shrinks groupName? := by
  intro s o u h
  obtain ⟨name, rfl, -⟩ := groupName?_eq_some_iff.1 h
  rw [List.length_append, List.length_cons]
  omega

theorem groupName?_oblivious : Oblivious t groupName? := by
  intro s o u h hu
  obtain ⟨name, hs, hname⟩ := groupName?_eq_some_iff.1 h
  obtain ⟨v, rfl, rfl⟩ := exists_of_append_eq_append (x := name ++ ['>']) (by simpa using hs) hu
  exact ⟨v, rfl, groupName?_eq_some_iff.2 ⟨name, by simp, hname⟩⟩

/-- What an opening parenthesis may be followed by. -/
theorem opening?_eq_some_iff {o : Opening} :
    opening? verbose s = some (o, u) ↔
      (∃ inner, (skipIdle verbose s = '?' :: 'P' :: '<' :: inner ∨
        skipIdle verbose s = '?' :: '<' :: inner ∧ ∀ w, inner ≠ '=' :: w ∧ inner ≠ '!' :: w) ∧
        groupName? inner = some (o, u)) ∨
      (∃ inner change last, skipIdle verbose s = '?' :: inner ∧
        flags? inner = some (change, last, u) ∧
        (last = ':' ∧ .group change = o ∨
          last ≠ ':' ∧ change ≠ .none ∧ .switch change = o)) ∨
      ((∀ inner, skipIdle verbose s ≠ '?' :: inner) ∧ .group .none = o ∧ skipIdle verbose s = u) := by
  have hflags : ∀ {c : Char} {w x}, c ∈ ['=', '!', '<', 'P'] → flags? (c :: w) ≠ some x := by
    intro c w x hc h
    simp only [List.mem_cons, List.not_mem_nil, or_false] at hc
    rcases hc with rfl | rfl | rfl | rfl <;> cases h
  rw [opening?]
  split
  · grind
  · grind
  · grind
  · grind
  · grind
  · grind
  · next inner _ _ _ _ _ _ heq =>
    simp only [Option.bind_eq_bind, Option.bind_eq_some_iff]
    constructor
    · rintro ⟨⟨change, last, rest⟩, hread, h⟩
      dsimp only at h
      split_ifs at h with hlast hchange
      · cases h
        exact .inr (.inl ⟨inner, change, last, heq, hread, .inl ⟨hlast, rfl⟩⟩)
      · cases h
        exact .inr (.inl ⟨inner, change, last, heq, hread, .inr ⟨hlast, hchange, rfl⟩⟩)
    · rintro (⟨x, hx, -⟩ | ⟨x, change, last, hx, hread, ho⟩ | ⟨hne, -⟩)
      · grind
      · obtain rfl : inner = x := by grind
        refine ⟨_, hread, ?_⟩
        grind
      · exact absurd heq (hne inner)
  · grind

theorem opening?_neverGrows : NeverGrows (opening? verbose) := by
  intro s o u h
  have hskip := skipIdle_length_le verbose s
  rcases opening?_eq_some_iff.1 h with ⟨inner, hs, hname⟩ | ⟨inner, _, _, hs, hflags, -⟩ | ⟨-, -, rfl⟩
  · have := groupName?_shrinks hname
    rcases hs with hs | ⟨hs, -⟩ <;> simp only [hs, List.length_cons] at hskip <;> omega
  · exact ((flagsFrom?_length_lt hflags).trans (skipIdle_cons_length_lt hs)).le
  · exact hskip

theorem opening?_oblivious : Oblivious t (opening? verbose) := by
  intro s o u h hu
  rcases opening?_eq_some_iff.1 h with
    ⟨inner, hs, hname⟩ | ⟨inner, change, last, hs, hflags, ho⟩ | ⟨hs, ho, rfl⟩
  · have := groupName?_shrinks hname
    rcases hs with hs | ⟨hs, hne⟩
    · obtain ⟨w, rfl, hw⟩ := skipIdle_append_append (x := ['?', 'P', '<']) hs (by omega)
      obtain ⟨v, rfl, hv⟩ := groupName?_oblivious hname hu
      exact ⟨v, rfl, opening?_eq_some_iff.2 (.inl ⟨w, .inl hw, hv⟩)⟩
    · obtain ⟨w, rfl, hw⟩ := skipIdle_append_append (x := ['?', '<']) hs (by omega)
      obtain ⟨v, rfl, hv⟩ := groupName?_oblivious hname hu
      have hne : ∀ x, w ≠ '=' :: x ∧ w ≠ '!' :: x := fun x =>
        ⟨fun h => (hne (x ++ t)).1 (by rw [h]; rfl), fun h => (hne (x ++ t)).2 (by rw [h]; rfl)⟩
      exact ⟨v, rfl, opening?_eq_some_iff.2 (.inl ⟨w, .inr ⟨hw, hne⟩, hv⟩)⟩
  · have := flagsFrom?_length_lt hflags
    obtain ⟨w, rfl, hw⟩ := skipIdle_append_cons hs (by omega)
    obtain ⟨v, rfl, hv⟩ := flagsFrom?_append hflags hu
    exact ⟨v, rfl, opening?_eq_some_iff.2 (.inr (.inl ⟨w, change, last, hw, hv, ho⟩))⟩
  · have happ := skipIdle_append hu
    refine ⟨_, happ, opening?_eq_some_iff.2 (.inr (.inr ⟨fun inner hi => ?_, ho, rfl⟩))⟩
    exact hs (inner ++ t) (by rw [happ, hi]; rfl)

/-! ### Repetitions -/

theorem digits_suffix (verbose b : Bool) (s : List Char) : (digits verbose b s).2 <:+ s := by
  induction s generalizing b with
  | nil => exact List.suffix_rfl
  | cons c s ih =>
    rw [digits]
    split_ifs
    · exact (ih _).trans (List.suffix_cons c s)
    · exact (ih _).trans (List.suffix_cons c s)
    · exact (ih _).trans (List.suffix_cons c s)
    · exact (ih _).trans (List.suffix_cons c s)
    · exact List.suffix_rfl

/-- Where nothing is taken, there are no digits. -/
theorem digits_eq_of_length_le {b : Bool} (h : s.length ≤ (digits verbose b s).2.length) :
    digits verbose b s = ([], s) := by
  cases s with
  | nil => rfl
  | cons c s =>
    have hle : ∀ b, (digits verbose b s).2.length ≤ s.length := fun b =>
      (digits_suffix verbose b s).length_le
    rw [digits] at h ⊢
    split_ifs at h ⊢
    · exact absurd h (by have := hle (decide (c ≠ '\n')); simp only [List.length_cons]; omega)
    · exact absurd h (by have := hle false; simp only [List.length_cons]; omega)
    · exact absurd h (by have := hle false; simp only [List.length_cons]; omega)
    · exact absurd h (by have := hle true; simp only [List.length_cons]; omega)
    · rfl

theorem digits_append {b : Bool} (h : t.length ≤ (digits verbose b (s ++ t)).2.length) :
    digits verbose b (s ++ t) = ((digits verbose b s).1, (digits verbose b s).2 ++ t) := by
  induction s generalizing b with
  | nil => exact digits_eq_of_length_le h
  | cons c s ih =>
    simp only [List.cons_append, digits] at h ⊢
    split_ifs at h ⊢
    · exact ih h
    · simp only [ih h]
    · exact ih h
    · exact ih h
    · rfl

theorem count_length_le (verbose : Bool) (s : List Char) :
    (count verbose s).2.length ≤ s.length :=
  calc (count verbose s).2.length
      ≤ (digits verbose false (s.dropWhile isBlank)).2.length := List.length_dropWhile_le ..
    _ ≤ (s.dropWhile isBlank).length := (digits_suffix ..).length_le
    _ ≤ s.length := List.length_dropWhile_le ..

theorem count_append (h : t.length ≤ (count verbose (s ++ t)).2.length) :
    count verbose (s ++ t) = ((count verbose s).1, (count verbose s).2 ++ t) := by
  have hback : t.length ≤ (digits verbose false ((s ++ t).dropWhile isBlank)).2.length :=
    h.trans (List.length_dropWhile_le ..)
  have hfront : t.length ≤ ((s ++ t).dropWhile isBlank).length :=
    hback.trans (digits_suffix ..).length_le
  rw [dropWhile_append hfront] at hback
  simp only [count, dropWhile_append hfront, digits_append hback] at h ⊢
  rw [dropWhile_append h]

/-- A count in front of `t` with a character behind it. -/
theorem count_append_cons {n : Option Nat} (h : count verbose (s ++ t) = (n, c :: u))
    (hu : t.length ≤ u.length) : ∃ v, u = v ++ t ∧ count verbose s = (n, c :: v) := by
  have hle : t.length ≤ (count verbose (s ++ t)).2.length := by
    rw [h, List.length_cons]
    omega
  have happ := count_append hle
  obtain ⟨hn, hrest⟩ := Prod.mk.inj (happ.symm.trans h)
  obtain ⟨v, rfl, hv⟩ := exists_of_append_eq_append (x := [c]) hrest hu
  exact ⟨v, rfl, Prod.ext hn hv⟩

/-- What the counts of a repetition look like. -/
theorem counts?_eq_some_iff {n : Nat} {max : Option Nat} :
    counts? verbose s = some ((n, max), u) ↔
      (count verbose (skipIdle verbose s) = (some n, '\x7d' :: u) ∧ max = some n) ∨
      ∃ w, count verbose (skipIdle verbose s) = (some n, ',' :: w) ∧
        ((skipIdle verbose w = '\x7d' :: u ∧ max = none) ∨
          (∀ x, skipIdle verbose w ≠ '\x7d' :: x) ∧
            ∃ m, count verbose (skipIdle verbose w) = (some m, '\x7d' :: u) ∧ n ≤ m ∧
              max = some m) := by
  rw [counts?]
  split
  · grind
  · split
    · grind
    · split
      · grind
      · next _ hcount _ hbrace _ hnone =>
        refine iff_of_false nofun ?_
        rintro (⟨hn, -⟩ | ⟨x, hn, ⟨hx, -⟩ | ⟨-, m, hm, -, -⟩⟩) <;>
          obtain ⟨-, hw⟩ := Prod.mk.inj (hcount.symm.trans hn) <;>
          obtain ⟨hc, rfl⟩ := List.cons.inj hw
        · exact absurd hc (by decide)
        · exact hbrace u hx
        · exact hnone m u hm
  · grind

theorem counts?_shrinks : Shrinks (counts? verbose) := by
  rintro s ⟨n, max⟩ u h
  have hskip := skipIdle_length_le verbose s
  have hcount := count_length_le verbose (skipIdle verbose s)
  rcases counts?_eq_some_iff.1 h with ⟨hn, -⟩ | ⟨w, hn, hw⟩
  · rw [hn, List.length_cons] at hcount
    omega
  · rw [hn, List.length_cons] at hcount
    rcases hw with ⟨hw, -⟩ | ⟨-, m, hm, -, -⟩
    · have := skipIdle_cons_length_lt hw
      omega
    · have hskip' := skipIdle_length_le verbose w
      have hcount' := count_length_le verbose (skipIdle verbose w)
      rw [hm, List.length_cons] at hcount'
      omega

theorem counts?_oblivious : Oblivious t (counts? verbose) := by
  rintro s ⟨n, max⟩ u h hu
  have hfirst : ∀ {d x}, count verbose (skipIdle verbose (s ++ t)) = (some n, d :: x) →
      t.length ≤ x.length →
      ∃ y, x = y ++ t ∧ count verbose (skipIdle verbose s) = (some n, d :: y) := by
    intro d x hn hx
    have hcount := count_length_le verbose (skipIdle verbose (s ++ t))
    rw [hn, List.length_cons] at hcount
    rw [skipIdle_append (by omega)] at hn
    exact count_append_cons hn hx
  rcases counts?_eq_some_iff.1 h with ⟨hn, hmax⟩ | ⟨w, hn, hw⟩
  · obtain ⟨v, rfl, hv⟩ := hfirst hn hu
    exact ⟨v, rfl, counts?_eq_some_iff.2 (.inl ⟨hv, hmax⟩)⟩
  · rcases hw with ⟨hw, hmax⟩ | ⟨hne, m, hm, hle, hmax⟩
    · obtain ⟨x, rfl, hx⟩ := hfirst hn (hu.trans (skipIdle_cons_length_lt hw).le)
      obtain ⟨v, rfl, hv⟩ := skipIdle_append_cons hw hu
      exact ⟨v, rfl, counts?_eq_some_iff.2 (.inr ⟨x, hx, .inl ⟨hv, hmax⟩⟩)⟩
    · have hcount := count_length_le verbose (skipIdle verbose w)
      rw [hm, List.length_cons] at hcount
      have hskip := skipIdle_length_le verbose w
      obtain ⟨x, rfl, hx⟩ := hfirst hn (by omega)
      have hle' : t.length ≤ (skipIdle verbose (x ++ t)).length := by omega
      rw [skipIdle_append hle'] at hm hne
      obtain ⟨v, rfl, hv⟩ := count_append_cons hm hu
      exact ⟨v, rfl, counts?_eq_some_iff.2 (.inr ⟨x, hx,
        .inr ⟨fun y hy => hne (y ++ t) (by rw [hy]; rfl), m, hv, hle, hmax⟩⟩)⟩

theorem skipLazy_suffix (s : List Char) : skipLazy s <:+ s := by
  rw [skipLazy.eq_def]
  split
  · exact List.suffix_cons ..
  · exact List.suffix_rfl

theorem skipLazy_append (h : t.length ≤ (skipLazy (s ++ t)).length) :
    skipLazy (s ++ t) = skipLazy s ++ t := by
  cases s with
  | nil => exact (skipLazy_suffix t).eq_of_length_le h
  | cons c s =>
    by_cases hc : c = '?'
    · subst hc
      rfl
    · rw [List.cons_append, skipLazy, skipLazy, List.cons_append] <;> simpa using hc

end TypeGrading.Pattern.Reader
