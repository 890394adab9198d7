import TypeGrading.Proofs.Pattern.Escaping
import TypeGrading.Proofs.Pattern.Manual
import TypeGrading.Proofs.Pattern.Matching

/-!
# The manual of the standard engine

Texts write what is read from them, and an expression has the matches of what it means.

* `Item.expr`, `standardManual`: the manual;
* `follow_iff`: items one after the other match where the sequence of their meanings does;
* `describes_standard`: the engine does what the manual says.
-/

namespace TypeGrading.Pattern

variable {text : List Char} {i j k : Nat}

/-! ### Sequences -/

namespace Regex

variable {r : Regex} {rs : List Regex} {c : Char}

theorem spans_sequence_cons_iff :
    Spans text (.sequence (r :: rs)) i k ↔
      ∃ j, Spans text r i j ∧ Spans text (.sequence rs) j k := by
  cases rs with
  | nil =>
    constructor
    · exact fun h => ⟨k, h, .empty h.le_length.2⟩
    · rintro ⟨j, hr, h⟩
      cases h
      exact hr
  | cons s rs =>
    constructor
    · intro h
      cases h with
      | seq hr hs => exact ⟨_, hr, hs⟩
    · rintro ⟨j, hr, hs⟩
      exact .seq hr hs

theorem spans_empty_iff : Spans text .empty i j ↔ i ≤ text.length ∧ j = i := by
  constructor
  · intro h
    cases h with
    | empty hi => exact ⟨hi, rfl⟩
  · rintro ⟨hi, rfl⟩
    exact .empty hi

theorem spans_just_iff : Spans text (.one (· == c)) i j ↔ text[i]? = some c ∧ j = i + 1 := by
  constructor
  · intro h
    cases h with
    | one hd htest => exact ⟨by rw [hd, eq_of_beq htest], rfl⟩
  · rintro ⟨hc, rfl⟩
    exact .one hc (beq_self_eq_true c)

theorem spans_lineStart_iff :
    Spans text (.look (Assertion.lineStart.holds .default)) i j ↔ i = 0 ∧ j = i := by
  have hnone : before? text i = none ↔ i = 0 ∨ text.length < i := by
    rw [before?]
    split_ifs with h0
    · simp [h0]
    · simp only [List.getElem?_eq_none_iff]
      omega
  constructor
  · intro h
    cases h with
    | look hi htest =>
      simp only [Assertion.holds, Modes.default, Option.isNone_iff_eq_none, Bool.false_and,
        Bool.or_false, hnone] at htest
      omega
  · rintro ⟨rfl, rfl⟩
    exact .look (Nat.zero_le _) rfl

theorem spans_lineEnd_iff :
    Spans text (.look (Assertion.lineEnd.holds .default)) i j ↔ i = text.length ∧ j = i := by
  constructor
  · intro h
    cases h with
    | look hi htest =>
      simp only [Assertion.holds, Modes.default, Option.isNone_iff_eq_none, Bool.false_and,
        Bool.or_false, List.getElem?_eq_none_iff] at htest
      omega
  · rintro ⟨rfl, rfl⟩
    exact .look le_rfl (by simp [Assertion.holds, Modes.default])

end Regex

theorem Expr.meaning?_concatOf (m : Modes) (es : List Expr) :
    (Expr.concatOf es).meaning? m = (Expr.meanings? m es).map fun x => (.sequence x.1, x.2) := by
  rcases es with _ | ⟨e, _ | ⟨e', es⟩⟩
  · rfl
  · rcases he : e.meaning? m with _ | ⟨r, m'⟩ <;> simp [concatOf, meanings?, he, Regex.sequence]
  · rfl

/-! ### The manual -/

/-- The expression that an item writes. -/
def Item.expr : Item Expr → Expr
  | .start => .assertion .lineStart
  | .finish => .assertion .lineEnd
  | .char c => literalOf c
  | .group e => .group .none e

/-- Texts write what is read from them; expressions match what their meaning matches. -/
def standardManual : Manual where
  Expr := Expr
  read? s := read? s.toList
  sequence items := Expr.concatOf (items.map Item.expr)
  Matches e text i j := ∃ r m, e.meaning? .default = some (r, m) ∧ Regex.Spans text r i j

/-- Items switch nothing. -/
theorem Item.eq_default_of_meaning? {item : Item Expr} {r : Regex} {m : Modes}
    (h : item.expr.meaning? .default = some (r, m)) : m = .default := by
  cases item with
  | start => cases h; rfl
  | finish => cases h; rfl
  | char c => cases h; rfl
  | group e =>
    obtain ⟨x, -, heq⟩ := Option.map_eq_some_iff.1 h
    exact (Prod.mk.inj heq).2.symm

/-- An item matches where its meaning does. -/
theorem spans_item_iff {item : Item Expr} :
    standardManual.Spans text item i j ↔
      ∃ r, item.expr.meaning? .default = some (r, .default) ∧ Regex.Spans text r i j := by
  cases item with
  | start =>
    refine Regex.spans_lineStart_iff.symm.trans ⟨fun h => ⟨_, rfl, h⟩, ?_⟩
    rintro ⟨_, ⟨⟩, h⟩
    exact h
  | finish =>
    refine Regex.spans_lineEnd_iff.symm.trans ⟨fun h => ⟨_, rfl, h⟩, ?_⟩
    rintro ⟨_, ⟨⟩, h⟩
    exact h
  | char c =>
    refine Regex.spans_just_iff.symm.trans ⟨fun h => ⟨_, rfl, h⟩, ?_⟩
    rintro ⟨_, ⟨⟩, h⟩
    exact h
  | group e =>
    constructor
    · rintro ⟨r, m, he, h⟩
      exact ⟨r, Option.map_eq_some_iff.2 ⟨(r, m), he, rfl⟩, h⟩
    · rintro ⟨r, hr, h⟩
      obtain ⟨⟨r', m⟩, he, heq⟩ := Option.map_eq_some_iff.1 hr
      cases heq
      exact ⟨_, m, he, h⟩

theorem Expr.meanings?_cons_eq_some_iff {m m' : Modes} {e : Expr} {es : List Expr}
    {rs : List Regex} :
    Expr.meanings? m (e :: es) = some (rs, m') ↔ ∃ r n rs', e.meaning? m = some (r, n) ∧
      Expr.meanings? n es = some (rs', m') ∧ rs = r :: rs' := by
  simp only [Expr.meanings?, Option.bind_eq_bind, Option.bind_eq_some_iff]
  constructor
  · rintro ⟨⟨r, n⟩, hr, ⟨rs', n'⟩, hrs, heq⟩
    cases heq
    exact ⟨r, n, rs', hr, hrs, rfl⟩
  · rintro ⟨r, n, rs', hr, hrs, rfl⟩
    exact ⟨(r, n), hr, (rs', m'), hrs, rfl⟩

/-- Items one after the other match where the sequence of their meanings does. -/
theorem follow_iff {items : List (Item Expr)} :
    standardManual.Follow text items i k ↔
      ∃ rs m, Expr.meanings? .default (items.map Item.expr) = some (rs, m) ∧
        Regex.Spans text (.sequence rs) i k := by
  induction items generalizing i with
  | nil =>
    refine Regex.spans_empty_iff.symm.trans ⟨fun h => ⟨[], _, rfl, h⟩, ?_⟩
    rintro ⟨_, _, ⟨⟩, h⟩
    exact h
  | cons item items ih =>
    rw [List.map_cons]
    simp only [Expr.meanings?_cons_eq_some_iff]
    constructor
    · rintro ⟨j, hitem, hrest⟩
      obtain ⟨r, hr, hspans⟩ := spans_item_iff.1 hitem
      obtain ⟨rs, m, hrs, hspans'⟩ := ih.1 hrest
      exact ⟨r :: rs, m, ⟨r, _, rs, hr, hrs, rfl⟩, Regex.spans_sequence_cons_iff.2 ⟨j, hspans, hspans'⟩⟩
    · rintro ⟨_, m, ⟨r, n, rs, hr, hrs, rfl⟩, hspans⟩
      obtain rfl := Item.eq_default_of_meaning? hr
      obtain ⟨j, hspans, hrest⟩ := Regex.spans_sequence_cons_iff.1 hspans
      exact ⟨j, spans_item_iff.2 ⟨r, hr, hspans⟩, ih.2 ⟨rs, m, hrs, hrest⟩⟩

theorem matches_sequence_iff {items : List (Item Expr)} :
    standardManual.Matches (standardManual.sequence items) text i j ↔
      standardManual.Follow text items i j := by
  have hmeaning := Expr.meaning?_concatOf .default (items.map Item.expr)
  rw [follow_iff]
  constructor
  · rintro ⟨r, m, hr, h⟩
    obtain ⟨⟨rs, n⟩, hrs, heq⟩ := Option.map_eq_some_iff.1 (hmeaning.symm.trans hr)
    cases heq
    exact ⟨rs, n, hrs, h⟩
  · rintro ⟨rs, m, hrs, h⟩
    exact ⟨_, m, hmeaning.trans (congrArg _ hrs), h⟩

/-! ### The engine -/

theorem compile?_eq_some_iff {s : List Char} {r : Regex} :
    compile? s = some r ↔
      ∃ e m, read? s = some e ∧ e.meaning? .default = some (r, m) ∧ e.depth ≤ maxDepth := by
  simp only [compile?, Option.bind_eq_bind, Option.bind_eq_some_iff]
  constructor
  · rintro ⟨e, he, ⟨r', m⟩, hr, h⟩
    dsimp only at h
    split_ifs at h with hdepth
    cases h
    exact ⟨e, m, he, hr, hdepth⟩
  · rintro ⟨e, m, he, hr, hdepth⟩
    exact ⟨e, he, (r, m), hr, if_pos hdepth⟩

theorem compile_standard_eq_ok_iff {s : String} {r : Regex} :
    Engine.standard.compile s = .ok r ↔ compile? s.toList = some r := by
  simp only [Engine.standard]
  cases compile? s.toList <;> simp

theorem toList_anchored (s : String) :
    ("^(?:" ++ s ++ ")$").toList = opening ++ (s.toList ++ Reader.closing) := by
  simp [opening, Reader.closing]

theorem toList_escape_standard (text : String) :
    (Engine.standard.escape text).toList = escape text.toList :=
  String.toList_ofList

/-- **The standard engine does what its manual says.** -/
theorem describes_standard : standardManual.Describes .standard where
  isMatch_iff {s r} h := by
    obtain ⟨e, m, he, hr, -⟩ := compile?_eq_some_iff.1 (compile_standard_eq_ok_iff.1 h)
    refine ⟨e, he, fun text => Regex.found_iff.trans ?_⟩
    constructor
    · rintro ⟨i, j, hspans⟩
      exact ⟨i, j, r, m, hr, hspans⟩
    · rintro ⟨i, j, r', m', hr', hspans⟩
      obtain ⟨rfl, -⟩ := Prod.mk.inj (Option.some.inj (hr.symm.trans hr'))
      exact ⟨i, j, hspans⟩
  compile_of_read?_eq_none {s} h := by
    refine ⟨"regex parse error", ?_⟩
    have hnone : compile? s.toList = none := by
      change read? s.toList = none at h
      simp [compile?, h]
    simp [Engine.standard, hnone]
  matches_sequence_iff := matches_sequence_iff
  group_closes {s e} h := by
    change read? ("^(?:" ++ s).toList = some e at h
    rw [String.toList_append] at h
    obtain ⟨x, y, hs, hx⟩ := exists_of_read?_opening h
    refine ⟨String.ofList x, String.ofList y, String.toList_inj.1 (by simp [hs]), ?_⟩
    change (read? (String.ofList x).toList).isSome = true
    rwa [String.toList_ofList]
  read?_anchored {s e e'} hs h := by
    change read? ("^(?:" ++ s ++ ")$").toList = some e' at h
    rw [toList_anchored] at h
    exact read?_anchored hs h
  read?_escape text := by
    change read? (Engine.standard.escape text).toList = _
    rw [toList_escape_standard, read?_escape]
    change _ = some (Expr.concatOf ((text.toList.map Item.char).map Item.expr))
    rw [List.map_map]
    rfl

end TypeGrading.Pattern
