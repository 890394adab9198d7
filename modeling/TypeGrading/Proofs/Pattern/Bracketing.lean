import TypeGrading.Pattern.Reader.Brackets
import TypeGrading.Proofs.Pattern.Consuming

/-!
# What readers take: sets between brackets

A set between brackets ends with its bracket, so what stands behind it does not matter, as long as it
does not start with one of the characters that a set is looking for.

* `Plain`: a text that does not start like the end of an item;
* `asciiClass?_append_iff`, `endsItem_append`: looking ahead in front of a plain text;
* `item?_oblivious`, `step?_append`, `run?_append`: items, pieces and whole sets;
* `brackets?_takes`, `brackets?_oblivious`.
-/

namespace TypeGrading.Pattern.Reader

open Text (isBlank)

variable {verbose : Bool} {s t u : List Char} {c : Char}

/-- The text starts with none of the characters that are looked for behind a hyphen. -/
def Plain (t : List Char) : Prop := ∀ c ∈ t.head?, isBlank c = false ∧ c ∉ [']', '-', '#']

/-! ### The start of a set -/

theorem hyphens_suffix (verbose b : Bool) (s : List Char) : (hyphens verbose b s).2 <:+ s := by
  induction s generalizing b with
  | nil => exact List.suffix_rfl
  | cons c s ih =>
    rw [hyphens]
    split_ifs
    · exact (ih _).trans (List.suffix_cons c s)
    · exact (ih _).trans (List.suffix_cons c s)
    · exact (ih _).trans (List.suffix_cons c s)
    · exact (ih _).trans (List.suffix_cons c s)
    · exact List.suffix_rfl

/-- Where nothing is taken, there are no hyphens. -/
theorem hyphens_eq_of_length_le {b : Bool} (h : s.length ≤ (hyphens verbose b s).2.length) :
    hyphens verbose b s = (0, s) := by
  cases s with
  | nil => rfl
  | cons c s =>
    have hlt : ∀ b, ¬ (c :: s).length ≤ (hyphens verbose b s).2.length := fun b =>
      Nat.not_le.2 (Nat.lt_succ_of_le (hyphens_suffix verbose b s).length_le)
    rw [hyphens] at h ⊢
    split_ifs at h ⊢
    · exact absurd h (hlt _)
    · exact absurd h (hlt _)
    · exact absurd h (hlt _)
    · exact absurd h (hlt _)
    · rfl

theorem hyphens_append {b : Bool} (h : t.length ≤ (hyphens verbose b (s ++ t)).2.length) :
    hyphens verbose b (s ++ t) = ((hyphens verbose b s).1, (hyphens verbose b s).2 ++ t) := by
  induction s generalizing b with
  | nil => exact hyphens_eq_of_length_le h
  | cons c s ih =>
    simp only [List.cons_append, hyphens] at h ⊢
    split_ifs at h ⊢
    · exact ih h
    · simp only [ih h]
    · exact ih h
    · exact ih h
    · rfl

/-- What the start of a set looks like. -/
theorem openLevel_eq_iff {l : Level} :
    openLevel verbose s = (l, u) ↔
      ∃ negated w,
        (negated = true ∧ (∃ x, skipIdle verbose s = '^' :: x ∧ skipIdle verbose x = w) ∨
          negated = false ∧ skipIdle verbose s = w ∧ ∀ x, w ≠ '^' :: x) ∧
        (hyphens verbose false w = (0, ']' :: u) ∧
            l = ⟨negated, none, [.literal ⟨']', false⟩]⟩ ∨
          ∃ n, hyphens verbose false w = (n, u) ∧ (n = 0 → ∀ x, u ≠ ']' :: x) ∧
            l = ⟨negated, none, List.replicate n (.literal ⟨'-', false⟩)⟩) := by
  rw [openLevel]
  split
  next negated w heq =>
  split at heq
  · next x hx =>
    obtain ⟨rfl, rfl⟩ := Prod.mk.inj heq
    split
    · grind
    · next n v hne hv =>
      constructor
      · intro h
        cases h
        exact ⟨true, _, .inl ⟨rfl, x, hx, rfl⟩, .inr ⟨n, hv, fun hn y hy => hne y hn hy, rfl⟩⟩
      · grind
  · next hplain =>
    obtain ⟨rfl, rfl⟩ := Prod.mk.inj heq
    split
    · grind
    · next n v hne hv =>
      constructor
      · intro h
        cases h
        exact ⟨false, _, .inr ⟨rfl, rfl, fun y hy => hplain y hy⟩,
          .inr ⟨n, hv, fun hn y hy => hne y hn hy, rfl⟩⟩
      · grind

theorem openLevel_suffix (verbose : Bool) (s : List Char) : (openLevel verbose s).2 <:+ s := by
  obtain ⟨⟨l, u⟩, hl⟩ : ∃ x, openLevel verbose s = x := ⟨_, rfl⟩
  obtain ⟨negated, w, hw, hu⟩ := openLevel_eq_iff.1 hl
  rw [hl]
  have hskip := skipIdle_suffix verbose s
  have hw : w <:+ s := by
    rcases hw with ⟨-, x, hx, rfl⟩ | ⟨-, rfl, -⟩
    · rw [hx] at hskip
      exact (skipIdle_suffix verbose x).trans ((List.suffix_cons _ x).trans hskip)
    · exact hskip
  have hhyphens := hyphens_suffix verbose false w
  rcases hu with ⟨hu, -⟩ | ⟨n, hu, -⟩
  · rw [hu] at hhyphens
    exact (List.suffix_cons _ u).trans (hhyphens.trans hw)
  · rw [hu] at hhyphens
    exact hhyphens.trans hw

theorem openLevel_length_le (verbose : Bool) (s : List Char) :
    (openLevel verbose s).2.length ≤ s.length :=
  (openLevel_suffix verbose s).length_le

theorem openLevel_append (h : t.length ≤ (openLevel verbose (s ++ t)).2.length) :
    openLevel verbose (s ++ t) = ((openLevel verbose s).1, (openLevel verbose s).2 ++ t) := by
  obtain ⟨negated, w, hw, hu⟩ := openLevel_eq_iff.1 (rfl : openLevel verbose (s ++ t) = (_, _))
  have hback : t.length ≤ (hyphens verbose false w).2.length := by
    rcases hu with ⟨hu, -⟩ | ⟨n, hu, -⟩ <;> rw [hu]
    · exact h.trans (Nat.le_succ _)
    · exact h
  have hlen := hback.trans (hyphens_suffix verbose false w).length_le
  -- what stands in front of `t` once the mark for a negated set is read
  obtain ⟨x, rfl, hx⟩ : ∃ x, w = x ++ t ∧
      (negated = true ∧ (∃ y, skipIdle verbose s = '^' :: y ∧ skipIdle verbose y = x) ∨
        negated = false ∧ skipIdle verbose s = x ∧ ∀ y, x ≠ '^' :: y) := by
    rcases hw with ⟨hneg, y, hy, rfl⟩ | ⟨hneg, rfl, hne⟩
    · obtain ⟨z, rfl, hz⟩ := skipIdle_append_cons hy (hlen.trans (skipIdle_length_le ..))
      exact ⟨_, skipIdle_append hlen, .inl ⟨hneg, z, hz, rfl⟩⟩
    · have happ := skipIdle_append hlen
      exact ⟨_, happ, .inr ⟨hneg, rfl, fun y hy => hne (y ++ t) (by rw [happ, hy]; rfl)⟩⟩
  rw [hyphens_append hback] at hu
  obtain ⟨v, hv, hlevel⟩ : ∃ v, (openLevel verbose (s ++ t)).2 = v ++ t ∧
      openLevel verbose s = ((openLevel verbose (s ++ t)).1, v) := by
    rcases hu with ⟨hu, hl⟩ | ⟨n, hu, hne, hl⟩
    · obtain ⟨hn, hrest⟩ := Prod.mk.inj hu
      obtain ⟨v, hv, hx'⟩ := exists_of_append_eq_append (x := [']']) hrest h
      exact ⟨v, hv, openLevel_eq_iff.2 ⟨negated, x, hx, .inl ⟨Prod.ext hn hx', hl⟩⟩⟩
    · obtain ⟨hn, hrest⟩ := Prod.mk.inj hu
      refine ⟨_, hrest.symm, openLevel_eq_iff.2 ⟨negated, x, hx, .inr ⟨n, Prod.ext hn rfl, ?_, hl⟩⟩⟩
      exact fun h0 y hy => hne h0 (y ++ t) (by rw [← hrest, hy]; rfl)
  rw [hlevel, ← hv]

theorem namedClass?_eq_some_iff {negated : Bool} {set : CharSet} :
    namedClass? negated s = some (set, u) ↔
      ∃ name k, s = name ++ ':' :: ']' :: u ∧ ':' ∉ name ∧ asciiClassNamed? name = some k ∧
        .asciiClass k negated = set := by
  rw [namedClass?]
  constructor
  · intro h
    split at h
    · next rest hdrop =>
      obtain ⟨k, hk, heq⟩ := Option.map_eq_some_iff.1 h
      cases heq
      refine ⟨_, k, (dropWhile_ne_eq_cons_iff.1 hdrop).2, fun hmem => ?_, hk, rfl⟩
      simpa using List.mem_takeWhile_imp hmem
    · cases h
  · rintro ⟨name, k, rfl, hnot, hk, rfl⟩
    obtain ⟨htake, hdrop⟩ := takeWhile_append_cons (u := ']' :: u) hnot
    rw [hdrop, htake]
    simp [hk]

/-- What the name of a class between colons looks like. -/
theorem asciiClass?_eq_some_iff {set : CharSet} :
    asciiClass? s = some (set, u) ↔
      ∃ negated name k,
        s = ':' :: ((if negated then ['^'] else []) ++ (name ++ ':' :: ']' :: u)) ∧
        (negated = false → ∀ w, name ≠ '^' :: w) ∧ ':' ∉ name ∧
        asciiClassNamed? name = some k ∧ .asciiClass k negated = set := by
  rw [asciiClass?.eq_def]
  constructor
  · intro h
    split at h
    · obtain ⟨name, k, rfl, hname⟩ := namedClass?_eq_some_iff.1 h
      exact ⟨true, name, k, rfl, nofun, hname⟩
    · next x hne =>
      obtain ⟨name, k, rfl, hname⟩ := namedClass?_eq_some_iff.1 h
      refine ⟨false, name, k, rfl, ?_, hname⟩
      rintro - w rfl
      exact hne _ rfl
    · cases h
  · rintro ⟨_ | _, name, k, rfl, hne, hname⟩
    · split
      · next heq =>
        rcases name with _ | ⟨d, name⟩
        · cases heq
        · obtain ⟨rfl, -⟩ := List.cons.inj (List.cons.inj heq).2
          exact absurd rfl (hne rfl name)
      · next heq =>
        obtain ⟨-, rfl⟩ := List.cons.inj heq
        exact namedClass?_eq_some_iff.2 ⟨name, k, rfl, hname⟩
      · next hnone => exact absurd rfl (hnone _)
    · exact namedClass?_eq_some_iff.2 ⟨name, k, rfl, hname⟩

theorem asciiClass?_shrinks : Shrinks asciiClass? := by
  intro s set u h
  obtain ⟨negated, name, k, rfl, -⟩ := asciiClass?_eq_some_iff.1 h
  simp only [List.length_cons, List.length_append]
  omega

theorem asciiClass?_append {set : CharSet} (h : asciiClass? s = some (set, u)) :
    asciiClass? (s ++ t) = some (set, u ++ t) := by
  obtain ⟨negated, name, k, rfl, hname⟩ := asciiClass?_eq_some_iff.1 h
  exact asciiClass?_eq_some_iff.2 ⟨negated, name, k, by simp, hname⟩

theorem asciiClass?_oblivious : Oblivious t asciiClass? := by
  intro s set u h hu
  obtain ⟨negated, name, k, hs, hname⟩ := asciiClass?_eq_some_iff.1 h
  obtain ⟨v, rfl, rfl⟩ := exists_of_append_eq_append
    (x := ':' :: ((if negated then ['^'] else []) ++ (name ++ [':', ']']))) (by simpa using hs) hu
  exact ⟨v, rfl, asciiClass?_eq_some_iff.2 ⟨negated, name, k, by simp, hname⟩⟩

theorem asciiClass?_takes : Takes asciiClass? :=
  .of_oblivious asciiClass?_shrinks.neverGrows fun _ => asciiClass?_oblivious

/-! ### Items -/

/-- What stands for a character or a set looks like. -/
theorem primitive?_eq_some_iff {p : Primitive} :
    primitive? verbose s = some (p, u) ↔
      ∃ c r, s = c :: r ∧ (c = '\\' ∧ escape? verbose r = some (p, u) ∨
        c ≠ '\\' ∧ p = .literal ⟨c, false⟩ ∧ u = r) := by
  rw [primitive?.eq_def]
  split <;> grind

theorem primitive?_shrinks : Shrinks (primitive? verbose) := by
  intro s p u h
  obtain ⟨c, r, rfl, ⟨-, hescape⟩ | ⟨-, -, rfl⟩⟩ := primitive?_eq_some_iff.1 h
  · exact (escape?_shrinks hescape).trans (Nat.lt_succ_self _)
  · exact Nat.lt_succ_self _

theorem primitive?_takes : Takes (primitive? verbose) := by
  intro s p u h
  obtain ⟨c, r, rfl, ⟨-, hescape⟩ | ⟨-, -, rfl⟩⟩ := primitive?_eq_some_iff.1 h
  · exact (escape?_takes hescape).trans (List.suffix_cons c r)
  · exact List.suffix_cons c u

/-- What stands for a character or a set in front of `t` stands for it without `t` as well; a boundary
stands for neither. -/
theorem primitive?_append {p : Primitive} (h : primitive? verbose (s ++ t) = some (p, u))
    (hu : t.length ≤ u.length) (hp : p ≠ .assertion .boundary) :
    ∃ v, u = v ++ t ∧ primitive? verbose s = some (p, v) := by
  rcases s with _ | ⟨c, s⟩
  · exact absurd (primitive?_shrinks h) (by simpa using hu)
  obtain ⟨_, _, heq, hc⟩ := primitive?_eq_some_iff.1 h
  obtain ⟨rfl, rfl⟩ := List.cons.inj heq
  rcases hc with ⟨hc, hescape⟩ | ⟨hc, hliteral, rfl⟩
  · obtain ⟨v, rfl, hv⟩ := (escape?_append hescape hu).resolve_right fun h => hp h.1
    exact ⟨v, rfl, primitive?_eq_some_iff.2 ⟨c, s, rfl, .inl ⟨hc, hv⟩⟩⟩
  · exact ⟨s, rfl, primitive?_eq_some_iff.2 ⟨c, s, rfl, .inr ⟨hc, hliteral, rfl⟩⟩⟩

theorem behindHyphen?_of_plain (ht : Plain t) (verbose : Bool) :
    behindHyphen? verbose t = t.head? ∧ (t.dropWhile isBlank).head? = t.head? := by
  rcases t with _ | ⟨c, t⟩
  · cases verbose <;> exact ⟨rfl, rfl⟩
  · obtain ⟨hblank, hc⟩ := ht c rfl
    have hsign : c ≠ '#' := by simp_all
    have hdrop : (c :: t).dropWhile isBlank = c :: t := by simp [hblank]
    exact ⟨by cases verbose <;> simp [behindHyphen?, hdrop, hsign], by rw [hdrop]⟩

/-- The character behind a hyphen is found in the text, or it is the first one of what follows. -/
theorem behindHyphen?_append (verbose : Bool) (s : List Char) (ht : Plain t) :
    behindHyphen? verbose (s ++ t) = behindHyphen? verbose s ∨
      behindHyphen? verbose s = none ∧ behindHyphen? verbose (s ++ t) = t.head? := by
  obtain ⟨hbehind, hhead⟩ := behindHyphen?_of_plain ht verbose
  cases verbose with
  | false =>
    rcases s with _ | ⟨d, s⟩
    · exact .inr ⟨rfl, hbehind⟩
    · exact .inl rfl
  | true =>
    rcases hs : s.dropWhile isBlank with _ | ⟨d, x⟩
    · have happ : (s ++ t).dropWhile isBlank = t.dropWhile isBlank := by
        simp [List.dropWhile_append, hs]
      refine .inr ⟨by simp [behindHyphen?, hs], ?_⟩
      simp only [behindHyphen?, happ, if_true] at hbehind ⊢
      exact hbehind
    · have happ : (s ++ t).dropWhile isBlank = d :: (x ++ t) := by
        simp [List.dropWhile_append, hs]
      by_cases hd : d = '#'
      · subst hd
        simp only [behindHyphen?, hs, happ, if_true]
        rcases hx : x.dropWhile isBlank with _ | ⟨e, y⟩
        · exact .inr ⟨rfl, by simpa [List.dropWhile_append, hx] using hhead⟩
        · exact .inl (by simp [List.dropWhile_append, hx])
      · exact .inl (by simp [behindHyphen?, hs, happ, hd])

/-- A plain text ends no item in front of it. -/
theorem endsItem_append (ht : Plain t) : endsItem verbose (s ++ t) = endsItem verbose s := by
  rcases behindHyphen?_append verbose s ht with h | ⟨hnone, h⟩
  · rw [endsItem, h, endsItem]
  · rw [endsItem, h, endsItem, hnone]
    rcases hc : t.head? with _ | c
    · rfl
    · obtain ⟨-, hc⟩ := ht c hc
      simp_all

/-- What a range looks like. -/
theorem rangeFrom?_eq_some_iff {first : Primitive} {set : CharSet} :
    rangeFrom? verbose first s = some (set, u) ↔
      ∃ a b, first = .literal a ∧ primitive? verbose (skipIdle verbose s) = some (.literal b, u) ∧
        a.char ≤ b.char ∧ .range a b = set := by
  simp only [rangeFrom?, Option.bind_eq_bind, Option.bind_eq_some_iff]
  constructor
  · rintro ⟨⟨last, rest⟩, hlast, h⟩
    dsimp only at h
    split at h
    · split_ifs at h with hle
      cases h
      exact ⟨_, _, rfl, hlast, hle, rfl⟩
    · cases h
  · rintro ⟨a, b, rfl, hb, hle, rfl⟩
    exact ⟨_, hb, by simp [hle]⟩

/-- What an item looks like. -/
theorem item?_eq_some_iff {set : CharSet} :
    item? verbose s = some (set, u) ↔
      ∃ first rest, primitive? verbose s = some (first, rest) ∧
        (first.toSet? = some set ∧ rest = u ∧
            (∀ x, skipIdle verbose rest = '-' :: x → endsItem verbose x = true) ∨
          ∃ x, skipIdle verbose rest = '-' :: x ∧ endsItem verbose x = false ∧
            rangeFrom? verbose first x = some (set, u)) := by
  simp only [item?, Option.bind_eq_bind, Option.bind_eq_some_iff, Prod.exists]
  refine exists_congr fun first => exists_congr fun rest => and_congr_right fun _ => ?_
  split
  · next x hx =>
    split_ifs with hends
    · grind [Option.map_eq_some_iff]
    · grind
  · grind [Option.map_eq_some_iff]

theorem rangeFrom?_shrinks {first : Primitive} : Shrinks (rangeFrom? verbose first) := by
  intro s set u h
  obtain ⟨a, b, -, hb, -⟩ := rangeFrom?_eq_some_iff.1 h
  exact (primitive?_shrinks hb).trans_le (skipIdle_length_le ..)

theorem rangeFrom?_oblivious {first : Primitive} : Oblivious t (rangeFrom? verbose first) := by
  intro s set u h hu
  obtain ⟨a, b, ha, hb, hab⟩ := rangeFrom?_eq_some_iff.1 h
  rw [skipIdle_append (hu.trans (primitive?_shrinks hb).le)] at hb
  obtain ⟨v, rfl, hv⟩ := primitive?_append hb hu nofun
  exact ⟨v, rfl, rangeFrom?_eq_some_iff.2 ⟨a, b, ha, hv, hab⟩⟩

theorem rangeFrom?_takes {first : Primitive} : Takes (rangeFrom? verbose first) :=
  .of_oblivious rangeFrom?_shrinks.neverGrows fun _ => rangeFrom?_oblivious

theorem item?_takes : Takes (item? verbose) := by
  intro s set u h
  obtain ⟨first, rest, hfirst, ⟨-, rfl, -⟩ | ⟨x, hx, -, hrange⟩⟩ := item?_eq_some_iff.1 h
  · exact primitive?_takes hfirst
  · have hidle := skipIdle_suffix verbose rest
    rw [hx] at hidle
    exact ((rangeFrom?_takes hrange).trans (List.suffix_cons ..)).trans
      (hidle.trans (primitive?_takes hfirst))

theorem item?_shrinks : Shrinks (item? verbose) := by
  intro s set u h
  obtain ⟨first, rest, hfirst, ⟨-, rfl, -⟩ | ⟨x, hx, -, hrange⟩⟩ := item?_eq_some_iff.1 h
  · exact primitive?_shrinks hfirst
  · have := primitive?_shrinks hfirst
    have := skipIdle_cons_length_lt hx
    have := rangeFrom?_shrinks hrange
    omega

theorem item?_oblivious (ht : Plain t) : Oblivious t (item? verbose) := by
  intro s set u h hu
  obtain ⟨first, rest, hfirst, ⟨hset, rfl, hends⟩ | ⟨x, hx, hends, hrange⟩⟩ :=
    item?_eq_some_iff.1 h
  · obtain ⟨v, rfl, hv⟩ := primitive?_append hfirst hu (by rintro rfl; cases hset)
    refine ⟨v, rfl, item?_eq_some_iff.2 ⟨first, v, hv, .inl ⟨hset, rfl, fun x hx => ?_⟩⟩⟩
    rw [← endsItem_append ht]
    exact hends (x ++ t) (skipIdle_append_of_cons hx)
  · obtain ⟨a, b, rfl, -⟩ := rangeFrom?_eq_some_iff.1 hrange
    have hlt := rangeFrom?_shrinks hrange
    have hle := skipIdle_cons_length_lt hx
    obtain ⟨w, rfl, hw⟩ := primitive?_append hfirst (by omega) nofun
    obtain ⟨y, rfl, hy⟩ := skipIdle_append_cons hx (by omega)
    obtain ⟨v, rfl, hv⟩ := rangeFrom?_oblivious hrange hu
    rw [endsItem_append ht] at hends
    exact ⟨v, rfl, item?_eq_some_iff.2 ⟨_, w, hw, .inr ⟨y, hy, hends, hv⟩⟩⟩

/-! ### Pieces -/

/-- What an operator looks like. -/
theorem operator?_eq_some_iff {op : SetOp} :
    operator? s = some (op, u) ↔
      (s = '&' :: '&' :: u ∧ op = .intersection) ∨ (s = '-' :: '-' :: u ∧ op = .difference) ∨
        (s = '~' :: '~' :: u ∧ op = .symmetricDifference) := by
  rw [operator?.eq_def]
  split <;> grind

theorem operator?_shrinks : Shrinks operator? := by
  intro s op u h
  rw [operator?_eq_some_iff] at h
  rcases h with ⟨rfl, -⟩ | ⟨rfl, -⟩ | ⟨rfl, -⟩ <;> simp only [List.length_cons] <;> omega

theorem operator?_append {op : SetOp} (h : operator? s = some (op, u)) :
    operator? (s ++ t) = some (op, u ++ t) := by
  rw [operator?_eq_some_iff] at h ⊢
  rcases h with ⟨rfl, hop⟩ | ⟨rfl, hop⟩ | ⟨rfl, hop⟩
  · exact .inl ⟨rfl, hop⟩
  · exact .inr (.inl ⟨rfl, hop⟩)
  · exact .inr (.inr ⟨rfl, hop⟩)

theorem operator?_oblivious : Oblivious t operator? := by
  intro s op u h hu
  rw [operator?_eq_some_iff] at h
  rcases h with ⟨h, hop⟩ | ⟨h, hop⟩ | ⟨h, hop⟩
  · obtain ⟨v, rfl, rfl⟩ := exists_of_append_eq_append (x := ['&', '&']) h hu
    exact ⟨v, rfl, operator?_eq_some_iff.2 (.inl ⟨rfl, hop⟩)⟩
  · obtain ⟨v, rfl, rfl⟩ := exists_of_append_eq_append (x := ['-', '-']) h hu
    exact ⟨v, rfl, operator?_eq_some_iff.2 (.inr (.inl ⟨rfl, hop⟩))⟩
  · obtain ⟨v, rfl, rfl⟩ := exists_of_append_eq_append (x := ['~', '~']) h hu
    exact ⟨v, rfl, operator?_eq_some_iff.2 (.inr (.inr ⟨rfl, hop⟩))⟩

theorem operator?_takes : Takes operator? :=
  .of_oblivious operator?_shrinks.neverGrows fun _ => operator?_oblivious

namespace Brackets

variable {b : Brackets}

/-- The text that is left. -/
def Progress.rest : Progress → List Char
  | .going _ rest => rest
  | .complete _ rest => rest

/-- The same with more text left. -/
def Progress.before (t : List Char) : Progress → Progress
  | .going b rest => .going b (rest ++ t)
  | .complete set rest => .complete set (rest ++ t)

/-- What one more piece of a set is. -/
theorem step?_eq_some_iff {p : Progress} :
    b.step? verbose s = some p ↔ ∃ c r, skipIdle verbose s = c :: r ∧
      (c = '[' ∧
          ((∃ item rest, asciiClass? r = some (item, rest) ∧
              p = .going { b with current := b.current.add item } rest) ∨
            asciiClass? r = none ∧
              p = .going ⟨(openLevel verbose r).1, b.current :: b.outer⟩ (openLevel verbose r).2) ∨
        c = ']' ∧
          (b.outer = [] ∧ p = .complete b.current.close r ∨
            ∃ level outer, b.outer = level :: outer ∧
              p = .going ⟨level.add b.current.close, outer⟩ r) ∨
        c ≠ '[' ∧ c ≠ ']' ∧
          ((∃ op rest, operator? (c :: r) = some (op, rest) ∧
              p = .going { b with current := b.current.operator op } rest) ∨
            operator? (c :: r) = none ∧ ∃ item rest, item? verbose (c :: r) = some (item, rest) ∧
              p = .going { b with current := b.current.add item } rest)) := by
  rw [step?]
  split
  · grind
  · next r hr =>
    split <;> grind
  · next r hr =>
    split <;> grind
  · next c r hc hc' hr =>
    split
    · grind
    · grind [Option.map_eq_some_iff]

theorem step?_shrinks {p : Progress} (h : b.step? verbose s = some p) :
    p.rest.length < s.length := by
  obtain ⟨c, r, hr, h⟩ := step?_eq_some_iff.1 h
  refine lt_of_le_of_lt ?_ (skipIdle_cons_length_lt hr)
  rcases h with ⟨-, ⟨item, rest, hclass, rfl⟩ | ⟨-, rfl⟩⟩ | ⟨-, ⟨-, rfl⟩ | ⟨_, _, -, rfl⟩⟩ |
    ⟨-, -, ⟨op, rest, hop, rfl⟩ | ⟨-, item, rest, hitem, rfl⟩⟩
  · exact (asciiClass?_shrinks hclass).le
  · exact openLevel_length_le verbose r
  · exact le_rfl
  · exact le_rfl
  · exact Nat.le_of_lt_succ (operator?_shrinks hop)
  · exact Nat.le_of_lt_succ (item?_shrinks hitem)

theorem step?_rest_suffix {p : Progress} (h : b.step? verbose s = some p) : p.rest <:+ s := by
  obtain ⟨c, r, hr, h⟩ := step?_eq_some_iff.1 h
  have hs : c :: r <:+ s := hr ▸ skipIdle_suffix verbose s
  have hr : r <:+ s := (List.suffix_cons c r).trans hs
  rcases h with ⟨-, ⟨item, rest, hclass, rfl⟩ | ⟨-, rfl⟩⟩ | ⟨-, ⟨-, rfl⟩ | ⟨_, _, -, rfl⟩⟩ |
    ⟨-, -, ⟨op, rest, hop, rfl⟩ | ⟨-, item, rest, hitem, rfl⟩⟩
  · exact (asciiClass?_takes hclass).trans hr
  · exact (openLevel_suffix verbose r).trans hr
  · exact hr
  · exact hr
  · exact (operator?_takes hop).trans hs
  · exact (item?_takes hitem).trans hs

/-- One more piece in front of a plain text is one without it as well. -/
theorem step?_append (ht : Plain t) {p : Progress} (h : b.step? verbose (s ++ t) = some p)
    (hp : t.length ≤ p.rest.length) :
    ∃ q : Progress, p = q.before t ∧ b.step? verbose s = some q := by
  obtain ⟨c, r, hr, h⟩ := step?_eq_some_iff.1 h
  rcases h with ⟨rfl, ⟨item, rest, hclass, rfl⟩ | ⟨hclass, rfl⟩⟩ |
    ⟨rfl, ⟨houter, rfl⟩ | ⟨level, outer, houter, rfl⟩⟩ |
    ⟨hc, hc', ⟨op, rest, hop, rfl⟩ | ⟨hop, item, rest, hitem, rfl⟩⟩
  · obtain ⟨x, rfl, hx⟩ := skipIdle_append_cons hr (hp.trans (asciiClass?_shrinks hclass).le)
    obtain ⟨v, rfl, hv⟩ := asciiClass?_oblivious hclass hp
    exact ⟨.going _ v, rfl, step?_eq_some_iff.2 ⟨_, x, hx, .inl ⟨rfl, .inl ⟨item, v, hv, rfl⟩⟩⟩⟩
  · obtain ⟨x, rfl, hx⟩ := skipIdle_append_cons hr (hp.trans (openLevel_length_le ..))
    have hnone : asciiClass? x = none := eq_none_of_append (fun h => asciiClass?_append h) hclass
    refine ⟨.going _ (openLevel verbose x).2, ?_,
      step?_eq_some_iff.2 ⟨_, x, hx, .inl ⟨rfl, .inr ⟨hnone, rfl⟩⟩⟩⟩
    rw [openLevel_append hp]
    rfl
  · obtain ⟨x, rfl, hx⟩ := skipIdle_append_cons hr hp
    exact ⟨.complete _ x, rfl,
      step?_eq_some_iff.2 ⟨_, x, hx, .inr (.inl ⟨rfl, .inl ⟨houter, rfl⟩⟩)⟩⟩
  · obtain ⟨x, rfl, hx⟩ := skipIdle_append_cons hr hp
    exact ⟨.going _ x, rfl,
      step?_eq_some_iff.2 ⟨_, x, hx, .inr (.inl ⟨rfl, .inr ⟨level, outer, houter, rfl⟩⟩)⟩⟩
  · have hlt := operator?_shrinks hop
    obtain ⟨x, rfl, hx⟩ := skipIdle_append_cons hr (hp.trans (Nat.le_of_lt_succ hlt))
    obtain ⟨v, rfl, hv⟩ := operator?_oblivious (s := c :: x) hop hp
    exact ⟨.going _ v, rfl, step?_eq_some_iff.2
      ⟨c, x, hx, .inr (.inr ⟨hc, hc', .inl ⟨op, v, hv, rfl⟩⟩)⟩⟩
  · have hlt := item?_shrinks hitem
    obtain ⟨x, rfl, hx⟩ := skipIdle_append_cons hr (hp.trans (Nat.le_of_lt_succ hlt))
    obtain ⟨v, rfl, hv⟩ := item?_oblivious ht (s := c :: x) hitem hp
    have hnone : operator? (c :: x) = none := eq_none_of_append (fun h => operator?_append h) hop
    exact ⟨.going _ v, rfl, step?_eq_some_iff.2
      ⟨c, x, hx, .inr (.inr ⟨hc, hc', .inr ⟨hnone, item, v, hv, rfl⟩⟩)⟩⟩

/-- What holds of the text that is left by each piece, and of pieces one after the other, holds of what is
left by a whole set. -/
theorem run?_of_step? {R : List Char → List Char → Prop}
    (htrans : ∀ {x y z}, R x y → R y z → R x z)
    (hstep : ∀ {b : Brackets} {s p}, b.step? verbose s = some p → R p.rest s) {n : Nat}
    {set : CharSet} (h : b.run? verbose n s = some (set, u)) : R u s := by
  induction n generalizing b s with
  | zero => cases h
  | succ n ih =>
    rw [run?] at h
    split at h
    · cases h
    · next hpiece =>
      cases h
      exact hstep hpiece
    · next hpiece => exact htrans (ih h) (hstep hpiece)

theorem run?_shrinks (n : Nat) (b : Brackets) : Shrinks (run? verbose n b) := fun _ _ _ h =>
  run?_of_step? (R := fun u s => u.length < s.length) Nat.lt_trans step?_shrinks h

theorem run?_takes (n : Nat) (b : Brackets) : Takes (run? verbose n b) := fun _ _ _ h =>
  run?_of_step? List.IsSuffix.trans step?_rest_suffix h

theorem run?_oblivious (ht : Plain t) (n : Nat) (b : Brackets) :
    Oblivious t (run? verbose n b) := by
  induction n generalizing b with
  | zero => exact fun _ _ _ h => nomatch h
  | succ n ih =>
    intro s set u h hu
    rw [run?] at h
    split at h
    · cases h
    · next hstep =>
      cases h
      obtain ⟨q, hq, hstep'⟩ := step?_append ht hstep hu
      cases q with
      | going => cases hq
      | complete set' v =>
        cases hq
        exact ⟨v, rfl, by rw [run?, hstep']⟩
    · next hstep =>
      obtain ⟨q, hq, hstep'⟩ := step?_append ht hstep (hu.trans (run?_shrinks n _ h).le)
      cases q with
      | complete => cases hq
      | going b' w =>
        cases hq
        obtain ⟨v, rfl, hv⟩ := ih _ h hu
        exact ⟨v, rfl, by rw [run?, hstep']; exact hv⟩

/-- As many turns as there are characters are enough. -/
theorem run?_eq_of_length_le {n m : Nat} (hn : s.length ≤ n) (hm : s.length ≤ m) :
    run? verbose n b s = run? verbose m b s := by
  have hnone : ∀ k b, run? verbose k b [] = none := by
    intro k b
    cases k with
    | zero => rfl
    | succ k =>
      have hskip : skipIdle verbose [] = [] := by cases verbose <;> rfl
      simp [run?, step?, hskip]
  induction n generalizing m b s with
  | zero =>
    obtain rfl := List.length_eq_zero_iff.1 (Nat.le_zero.1 hn)
    rw [hnone, hnone]
  | succ n ih =>
    cases m with
    | zero =>
      obtain rfl := List.length_eq_zero_iff.1 (Nat.le_zero.1 hm)
      rw [hnone, hnone]
    | succ m =>
      rw [run?, run?]
      rcases hstep : b.step? verbose s with _ | ⟨b', rest⟩ | ⟨set, rest⟩
      · rfl
      · have hlt : rest.length < s.length := step?_shrinks hstep
        exact ih (by omega) (by omega)
      · rfl

end Brackets

theorem brackets?_takes : Takes (brackets? verbose) := by
  intro s set u h
  exact (Brackets.run?_takes _ _ h).trans (openLevel_suffix verbose s)

theorem brackets?_oblivious (ht : Plain t) : Oblivious t (brackets? verbose) := by
  intro s set u h hu
  rw [brackets?] at h
  rw [openLevel_append (hu.trans (Brackets.run?_shrinks _ _ h).le)] at h
  obtain ⟨v, rfl, hv⟩ := Brackets.run?_oblivious ht _ _ h hu
  refine ⟨v, rfl, ?_⟩
  rw [brackets?, ← hv]
  exact Brackets.run?_eq_of_length_le le_rfl (List.length_append ▸ Nat.le_add_right ..)

end TypeGrading.Pattern.Reader
