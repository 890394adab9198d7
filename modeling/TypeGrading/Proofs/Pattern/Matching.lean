import Mathlib.Tactic
import TypeGrading.Pattern.Regex

/-!
# Matches

The search for a match computes, from a set of places, the set of places where matches end. It finds
exactly the matches that there are.

* `Has`, `Within`: the places of a set, and that they lie in a text;
* `Turns`: so many matches of an expression one after the other; `spans_repetition_iff`: what a
  repetition matches;
* `has_iterate_iff`, `has_iterate_spread_iff`: exactly, or at most, so many turns;
* `iterate_spread_eq_of_le`: more turns than there are places lead nowhere else;
* `leads_reach`, `found_iff`: the search finds the matches.
-/

namespace TypeGrading.Pattern

namespace Regex

/-! ### Sets of places -/

/-- The place is in the set. -/
def Has (P : Places) (i : Nat) : Prop := P.testBit i = true

/-- Every place of the set is one of the text. -/
def Within (text : List Char) (P : Places) : Prop := ∀ i, Has P i → i ≤ text.length

theorem ne_zero_iff_has {P : Places} : P ≠ 0 ↔ ∃ i, Has P i := by
  constructor
  · exact Nat.exists_testBit_of_ne_zero
  · rintro ⟨i, hi⟩ rfl
    simp [Has] at hi

theorem has_or_iff {P Q : Places} {i : Nat} : Has (P ||| Q) i ↔ Has P i ∨ Has Q i := by
  simp [Has]

theorem has_and_placesWhere_iff {P : Places} {test : Nat → Bool} {n i : Nat} :
    Has (P &&& placesWhere test n) i ↔ Has P i ∧ i < n ∧ test i = true := by
  simp [Has]

theorem has_allPlaces_iff {text : List Char} {i : Nat} :
    Has (allPlaces text) i ↔ i ≤ text.length := by
  simp [Has, allPlaces]

theorem Within.or {text : List Char} {P Q : Places} (h : Within text P) (h' : Within text Q) :
    Within text (P ||| Q) :=
  fun i hi => (has_or_iff.1 hi).elim (h i) (h' i)

/-- The places of a set, one by one. -/
def members (text : List Char) (P : Places) : Finset Nat :=
  (Finset.range (text.length + 1)).filter fun i => P.testBit i

theorem members_subset_or (text : List Char) (P Q : Places) :
    members text P ⊆ members text (P ||| Q) := by
  intro i hi
  simp only [members, Finset.mem_filter, Nat.testBit_or, Bool.or_eq_true] at hi ⊢
  exact ⟨hi.1, Or.inl hi.2⟩

theorem card_members_le (text : List Char) (P : Places) :
    (members text P).card ≤ text.length + 1 := by
  simpa [members] using
    Finset.card_filter_le (Finset.range (text.length + 1)) fun i => P.testBit i = true

theorem eq_of_members_eq {text : List Char} {P Q : Places} (hP : Within text P)
    (hQ : Within text Q) (h : members text P = members text Q) : P = Q := by
  refine Nat.eq_of_testBit_eq fun i => Bool.eq_iff_iff.2 ?_
  have hmem : i ∈ members text P ↔ i ∈ members text Q := by rw [h]
  simp only [members, Finset.mem_filter, Finset.mem_range] at hmem
  exact ⟨fun hi => (hmem.1 ⟨Nat.lt_succ_of_le (hP i hi), hi⟩).2,
    fun hi => (hmem.2 ⟨Nat.lt_succ_of_le (hQ i hi), hi⟩).2⟩

variable {text : List Char} {r : Regex} {i j k n : Nat}

/-! ### Turns -/

/-- So many matches one after the other lead from one place to another. -/
def Turns (text : List Char) (r : Regex) : Nat → Nat → Nat → Prop
  | 0, i, j => i = j ∧ i ≤ text.length
  | n + 1, i, k => ∃ j, Turns text r n i j ∧ Spans text r j k

/-- A match lies in the text. -/
theorem Spans.le_length (h : Spans text r i j) : i ≤ text.length ∧ j ≤ text.length := by
  induction h with
  | empty hi => exact ⟨hi, hi⟩
  | one hc _ => have := (List.getElem?_eq_some_iff.1 hc).1; omega
  | look hi _ => exact ⟨hi, hi⟩
  | seq _ _ ihr ihs => exact ⟨ihr.1, ihs.2⟩
  | altLeft _ ih => exact ih
  | altRight _ ih => exact ih
  | stop hi => exact ⟨hi, hi⟩
  | must _ _ _ ihr ihs => exact ⟨ihr.1, ihs.2⟩
  | may _ _ _ ihr ihs => exact ⟨ihr.1, ihs.2⟩

theorem Turns.le_length (h : Turns text r n i j) : j ≤ text.length := by
  cases n with
  | zero =>
    obtain ⟨rfl, hi⟩ := h
    exact hi
  | succ n =>
    obtain ⟨l, -, hr⟩ := h
    exact hr.le_length.2

theorem Turns.head (hr : Spans text r i j) (h : Turns text r n j k) : Turns text r (n + 1) i k := by
  induction n generalizing k with
  | zero =>
    obtain ⟨rfl, -⟩ := h
    exact ⟨i, ⟨rfl, hr.le_length.1⟩, hr⟩
  | succ n ih =>
    obtain ⟨l, hl, hlk⟩ := h
    exact ⟨l, ih hl, hlk⟩

/-- The first of some turns. -/
theorem turns_succ_iff : Turns text r (n + 1) i k ↔ ∃ j, Spans text r i j ∧ Turns text r n j k := by
  constructor
  · intro h
    induction n generalizing k with
    | zero =>
      obtain ⟨j, ⟨rfl, -⟩, hr⟩ := h
      exact ⟨k, hr, rfl, hr.le_length.2⟩
    | succ n ih =>
      obtain ⟨l, hl, hlk⟩ := h
      obtain ⟨j, hr, hj⟩ := ih hl
      exact ⟨j, hr, l, hj, hlk⟩
  · rintro ⟨j, hr, h⟩
    exact h.head hr

/-- Some turns, and some more behind them. -/
theorem turns_add_iff {m : Nat} :
    Turns text r (m + n) i k ↔ ∃ j, Turns text r m i j ∧ Turns text r n j k := by
  induction n generalizing k with
  | zero =>
    constructor
    · exact fun h => ⟨k, h, rfl, h.le_length⟩
    · rintro ⟨j, h, rfl, -⟩
      exact h
  | succ n ih =>
    constructor
    · rintro ⟨l, h, hr⟩
      obtain ⟨j, hm, hn⟩ := ih.1 h
      exact ⟨j, hm, l, hn, hr⟩
    · rintro ⟨j, hm, l, hn, hr⟩
      exact ⟨l, ih.2 ⟨j, hm, hn⟩, hr⟩

theorem turns_of_spans_repetition {s : Regex} (h : Spans text s i j) {min : Nat}
    {max : Option Nat} (hs : s = .repetition min max r) :
    ∃ n, min ≤ n ∧ (∀ m ∈ max, n ≤ m) ∧ Turns text r n i j := by
  induction h generalizing min max with
  | stop hi =>
    cases hs
    exact ⟨0, le_rfl, fun _ _ => Nat.zero_le _, rfl, hi⟩
  | must hmax hr _ _ ih =>
    cases hs
    obtain ⟨n, hmin, hle, hturns⟩ := ih rfl
    refine ⟨n + 1, by omega, fun m hm => ?_, hturns.head hr⟩
    have := hle (m - 1) (by simp [Option.mem_def.1 hm])
    have : m ≠ 0 := fun h0 => hmax (by rw [Option.mem_def.1 hm, h0])
    omega
  | may hmax hr _ _ ih =>
    cases hs
    obtain ⟨n, hmin, hle, hturns⟩ := ih rfl
    refine ⟨n + 1, by omega, fun m hm => ?_, hturns.head hr⟩
    have := hle (m - 1) (by simp [Option.mem_def.1 hm])
    have : m ≠ 0 := fun h0 => hmax (by rw [Option.mem_def.1 hm, h0])
    omega
  | _ => cases hs

/-- **What a repetition matches.** -/
theorem spans_repetition_iff {min : Nat} {max : Option Nat} :
    Spans text (.repetition min max r) i j ↔
      ∃ n, min ≤ n ∧ (∀ m ∈ max, n ≤ m) ∧ Turns text r n i j := by
  constructor
  · exact fun h => turns_of_spans_repetition h rfl
  · rintro ⟨n, hmin, hmax, hturns⟩
    -- each turn is one that must be made for as long as the least count is positive
    induction n generalizing min max i with
    | zero =>
      obtain rfl := Nat.le_zero.1 hmin
      obtain ⟨rfl, hi⟩ := hturns
      exact .stop hi
    | succ n ih =>
      obtain ⟨l, hr, hturns⟩ := turns_succ_iff.1 hturns
      have hne : max ≠ some 0 := fun h0 => by simpa using hmax 0 (by simp [h0])
      have hle : ∀ m ∈ max.map (· - 1), n ≤ m := by
        intro m hm
        obtain ⟨m', hm', rfl⟩ := Option.mem_map.1 hm
        exact Nat.le_sub_one_of_lt (hmax m' hm')
      cases min with
      | zero => exact .may hne hr (ih (Nat.zero_le _) hle hturns)
      | succ min => exact .must hne hr (ih (Nat.le_of_succ_le_succ hmin) hle hturns)

/-! ### Repeating a step -/

/-- Once a step changes nothing, no later one does. -/
theorem settle_eq_iterate (step : Places → Places) (n : Nat) (from_ : Places) :
    settle step n from_ = step^[n] from_ := by
  induction n generalizing from_ with
  | zero => rfl
  | succ n ih =>
    rw [settle, Function.iterate_succ_apply]
    split_ifs with h
    · rw [h, Function.iterate_fixed h]
    · exact ih _

variable {P : Places} {step : Places → Places}

/-- A step leads from places of the text to where matches end. -/
def Leads (text : List Char) (r : Regex) (step : Places → Places) : Prop :=
  ∀ P, Within text P → ∀ j, Has (step P) j ↔ ∃ i, Has P i ∧ Spans text r i j

theorem Leads.within (h : Leads text r step) (hP : Within text P) : Within text (step P) := by
  intro j hj
  obtain ⟨i, -, hr⟩ := (h P hP j).1 hj
  exact hr.le_length.2

theorem Leads.within_iterate (h : Leads text r step) (hP : Within text P) (n : Nat) :
    Within text (step^[n] P) := by
  induction n with
  | zero => exact hP
  | succ n ih =>
    rw [Function.iterate_succ_apply']
    exact h.within ih

/-- Exactly so many turns. -/
theorem has_iterate_iff (h : Leads text r step) (hP : Within text P) :
    Has (step^[n] P) j ↔ ∃ i, Has P i ∧ Turns text r n i j := by
  induction n generalizing j with
  | zero =>
    constructor
    · exact fun hj => ⟨j, hj, rfl, hP j hj⟩
    · rintro ⟨i, hi, rfl, -⟩
      exact hi
  | succ n ih =>
    rw [Function.iterate_succ_apply', h _ (h.within_iterate hP n)]
    constructor
    · rintro ⟨l, hl, hr⟩
      obtain ⟨i, hi, hturns⟩ := ih.1 hl
      exact ⟨i, hi, l, hturns, hr⟩
    · rintro ⟨i, hi, l, hturns, hr⟩
      exact ⟨l, ih.2 ⟨i, hi, hturns⟩, hr⟩

/-- The places of a set, and those that a step leads to from there. -/
def spread (step : Places → Places) (P : Places) : Places := P ||| step P

theorem Leads.within_spread (h : Leads text r step) (hP : Within text P) (n : Nat) :
    Within text ((spread step)^[n] P) := by
  induction n with
  | zero => exact hP
  | succ n ih =>
    rw [Function.iterate_succ_apply']
    exact ih.or (h.within ih)

/-- At most so many turns. -/
theorem has_iterate_spread_iff (h : Leads text r step) (hP : Within text P) :
    Has ((spread step)^[n] P) j ↔ ∃ m ≤ n, ∃ i, Has P i ∧ Turns text r m i j := by
  induction n generalizing j with
  | zero =>
    constructor
    · exact fun hj => ⟨0, le_rfl, j, hj, rfl, hP j hj⟩
    · rintro ⟨m, hm, i, hi, hturns⟩
      obtain rfl := Nat.le_zero.1 hm
      obtain ⟨rfl, -⟩ := hturns
      exact hi
  | succ n ih =>
    rw [Function.iterate_succ_apply', spread, has_or_iff, h _ (h.within_spread hP n)]
    constructor
    · rintro (hj | ⟨l, hl, hr⟩)
      · obtain ⟨m, hm, hturns⟩ := ih.1 hj
        exact ⟨m, Nat.le_succ_of_le hm, hturns⟩
      · obtain ⟨m, hm, i, hi, hturns⟩ := ih.1 hl
        exact ⟨m + 1, Nat.succ_le_succ hm, i, hi, l, hturns, hr⟩
    · rintro ⟨m, hm, i, hi, hturns⟩
      rcases Nat.le_or_eq_of_le_succ hm with hm | rfl
      · exact Or.inl (ih.2 ⟨m, hm, i, hi, hturns⟩)
      · obtain ⟨l, hturns, hr⟩ := hturns
        exact Or.inr ⟨l, ih.2 ⟨n, le_rfl, i, hi, hturns⟩, hr⟩

/-- A growing set of places in a text grows at most as often as there are places. -/
theorem iterate_spread_eq_of_le (h : Leads text r step) (hP : Within text P)
    (hn : text.length + 1 ≤ n) :
    (spread step)^[n] P = (spread step)^[text.length + 1] P := by
  have hwithin := h.within_spread hP
  have hgrows : ∀ n, members text ((spread step)^[n] P) ⊆ members text ((spread step)^[n + 1] P) := by
    intro n
    rw [Function.iterate_succ_apply']
    exact members_subset_or ..
  have hmono : Monotone fun n => (members text ((spread step)^[n] P)).card :=
    monotone_nat_of_le_succ fun n => Finset.card_le_card (hgrows n)
  have hstill : ∀ n, (members text ((spread step)^[n] P)).card =
      (members text ((spread step)^[n + 1] P)).card →
      (members text ((spread step)^[n + 1] P)).card =
        (members text ((spread step)^[n + 2] P)).card := by
    intro n hcard
    have heq := eq_of_members_eq (hwithin n) (hwithin (n + 1))
      (Finset.eq_of_subset_of_card_le (hgrows n) hcard.ge)
    rw [Function.iterate_succ_apply' (spread step) (n + 1), ← heq,
      ← Function.iterate_succ_apply' (spread step), ← heq]
  have hsub : members text ((spread step)^[text.length + 1] P) ⊆ members text ((spread step)^[n] P) :=
    monotone_nat_of_le_succ hgrows hn
  have hcard : (members text ((spread step)^[n] P)).card =
      (members text ((spread step)^[text.length + 1] P)).card :=
    Nat.stabilises_of_monotone hmono (fun n => card_members_le ..) hstill hn
  exact (eq_of_members_eq (hwithin _) (hwithin _) (Finset.eq_of_subset_of_card_le hsub hcard.le)).symm

/-- Any number of turns. -/
theorem has_iterate_spread_length_iff (h : Leads text r step) (hP : Within text P) :
    Has ((spread step)^[text.length + 1] P) j ↔ ∃ m i, Has P i ∧ Turns text r m i j := by
  constructor
  · intro hj
    obtain ⟨m, -, i, hi, hturns⟩ := (has_iterate_spread_iff h hP).1 hj
    exact ⟨m, i, hi, hturns⟩
  · rintro ⟨m, i, hi, hturns⟩
    rw [← iterate_spread_eq_of_le h hP (Nat.le_max_left (text.length + 1) m)]
    exact (has_iterate_spread_iff h hP).2 ⟨m, Nat.le_max_right .., i, hi, hturns⟩

/-! ### The search -/

theorem has_one_iff {test : Char → Bool} {P : Places} :
    Has (reach text (.one test) P) j ↔ ∃ i, Has P i ∧ Spans text (.one test) i j := by
  have hbit : Has (reach text (.one test) P) j ↔
      1 ≤ j ∧ Has (P &&& placesWhere (fun i => text[i]?.any test) text.length) (j - 1) := by
    simp [Has, reach, Nat.testBit_shiftLeft]
  rw [hbit, has_and_placesWhere_iff]
  constructor
  · rintro ⟨hj, hP, -, htest⟩
    obtain ⟨c, hc, htest⟩ := (Option.any_eq_true _ _).1 htest
    have h := Spans.one hc htest
    rw [Nat.sub_add_cancel hj] at h
    exact ⟨j - 1, hP, h⟩
  · rintro ⟨i, hi, h⟩
    cases h with
    | one hc htest =>
      have := (List.getElem?_eq_some_iff.1 hc).1
      exact ⟨by omega, by simpa using hi, by simpa using this, by simp [hc, htest]⟩

/-- **The search finds the matches** that start at places of the text. -/
theorem leads_reach (text : List Char) (r : Regex) : Leads text r (r.reach text) := by
  induction r with
  | empty =>
    intro P hP j
    constructor
    · exact fun hj => ⟨j, hj, .empty (hP j hj)⟩
    · rintro ⟨i, hi, h⟩
      cases h
      exact hi
  | one test => exact fun P _ j => has_one_iff
  | look test =>
    intro P _ j
    rw [reach, has_and_placesWhere_iff]
    constructor
    · rintro ⟨hj, hlt, htest⟩
      exact ⟨j, hj, .look (Nat.le_of_lt_succ hlt) htest⟩
    · rintro ⟨i, hi, h⟩
      cases h with
      | look hle htest => exact ⟨hi, Nat.lt_succ_of_le hle, htest⟩
  | seq r s ihr ihs =>
    intro P hP j
    rw [reach, ihs _ (ihr.within hP)]
    constructor
    · rintro ⟨k, hk, hs⟩
      obtain ⟨i, hi, hr⟩ := (ihr P hP k).1 hk
      exact ⟨i, hi, .seq hr hs⟩
    · rintro ⟨i, hi, h⟩
      cases h with
      | seq hr hs => exact ⟨_, (ihr P hP _).2 ⟨i, hi, hr⟩, hs⟩
  | alt r s ihr ihs =>
    intro P hP j
    rw [reach, has_or_iff, ihr P hP, ihs P hP]
    constructor
    · rintro (⟨i, hi, h⟩ | ⟨i, hi, h⟩)
      · exact ⟨i, hi, .altLeft h⟩
      · exact ⟨i, hi, .altRight h⟩
    · rintro ⟨i, hi, h⟩
      cases h with
      | altLeft h => exact Or.inl ⟨i, hi, h⟩
      | altRight h => exact Or.inr ⟨i, hi, h⟩
  | repetition min max r ih =>
    intro P hP j
    simp only [spans_repetition_iff, reach]
    split_ifs with hnone
    · refine ⟨fun hj => absurd hj (by simp [Has]), ?_⟩
      rintro ⟨i, hi, n, hmin, hmax, -⟩
      rcases hnone with rfl | hnone
      · simp [Has] at hi
      · obtain ⟨m, rfl, hm⟩ := (Option.any_eq_true _ _).1 hnone
        have := hmax m rfl
        have : m < min := of_decide_eq_true hm
        omega
    rw [settle_eq_iterate, settle_eq_iterate]
    -- first the turns that must be made, then those that may be
    have hstart : Within text ((reach text r)^[min] P) := ih.within_iterate hP min
    cases max with
    | none =>
      refine (has_iterate_spread_length_iff ih hstart).trans ?_
      constructor
      · rintro ⟨m, l, hl, hmore⟩
        obtain ⟨i, hi, hmust⟩ := (has_iterate_iff ih hP).1 hl
        exact ⟨i, hi, min + m, Nat.le_add_right .., by simp, turns_add_iff.2 ⟨l, hmust, hmore⟩⟩
      · rintro ⟨i, hi, n, hmin, -, hturns⟩
        rw [← Nat.add_sub_cancel' hmin, turns_add_iff] at hturns
        obtain ⟨l, hmust, hmore⟩ := hturns
        exact ⟨n - min, l, (has_iterate_iff ih hP).2 ⟨i, hi, hmust⟩, hmore⟩
    | some M =>
      have hM : min ≤ M := by simp at hnone; omega
      refine (has_iterate_spread_iff ih hstart).trans ?_
      constructor
      · rintro ⟨m, hm, l, hl, hmore⟩
        obtain ⟨i, hi, hmust⟩ := (has_iterate_iff ih hP).1 hl
        have hle : min + m ≤ M := Nat.add_le_of_le_sub' hM hm
        exact ⟨i, hi, min + m, Nat.le_add_right .., by simpa using hle,
          turns_add_iff.2 ⟨l, hmust, hmore⟩⟩
      · rintro ⟨i, hi, n, hmin, hmax, hturns⟩
        rw [← Nat.add_sub_cancel' hmin, turns_add_iff] at hturns
        obtain ⟨l, hmust, hmore⟩ := hturns
        exact ⟨n - min, Nat.sub_le_sub_right (hmax M rfl) min, l,
          (has_iterate_iff ih hP).2 ⟨i, hi, hmust⟩, hmore⟩

/-- **A text has a match somewhere** if and only if the search finds one. -/
theorem found_iff : r.found text = true ↔ ∃ i j, Spans text r i j := by
  have hall : Within text (allPlaces text) := fun i hi => has_allPlaces_iff.1 hi
  simp only [found, decide_eq_true_eq, ne_zero_iff_has, leads_reach text r _ hall, has_allPlaces_iff]
  constructor
  · rintro ⟨j, i, -, h⟩
    exact ⟨i, j, h⟩
  · rintro ⟨i, j, h⟩
    exact ⟨j, i, h.le_length.1, h⟩

end Regex

end TypeGrading.Pattern
