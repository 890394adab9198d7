import TypeGrading.Proofs.Text.Trimming
import TypeGrading.Proofs.Tree.Growing

/-!
# The grammar of descriptors

A descriptor is a segment, or a segment with a parameter list:

`TypeDesc := Seg | Seg '<' TypeDesc (',' TypeDesc)* '>' Gap`

A segment is a text without delimiters that is not blank, a gap is a blank text. A `Phrase` is a
derivation in this grammar.

* `Phrase.text`, `Phrase.nesting`, `Phrase.expr`: the text derived, how many lists are open at once
  in it, and the type expression it denotes;
* `text_append_cancel`, `text_injective`: a text has at most one derivation.
-/

namespace TypeGrading.Descriptor

open TypeGrading.Tree

/-- A text that can stand where a name is expected. -/
@[ext] structure Segment where
  chars : List Char
  not_blank : ¬ Text.IsBlank chars
  plain : ∀ c ∈ chars, ¬ isDelimiter c

/-- What may stand after a closed list. -/
@[ext] structure Gap where
  chars : List Char
  blank : Text.IsBlank chars

/-- The gap of no characters. -/
def Gap.empty : Gap := ⟨[], Text.isBlank_nil⟩

/-- A derivation of a descriptor: a segment, or a segment with its first parameter, the parameters
after a comma each, and the gap after the list. -/
inductive Phrase where
  | segment (seg : Segment)
  | list (seg : Segment) (first : Phrase) (others : List Phrase) (gap : Gap)

/-- The name that a segment denotes. -/
def Segment.name (s : Segment) : String := String.ofList (Text.trim s.chars)

namespace Phrase

/-- Induction over the parameters. -/
@[elab_as_elim, induction_eliminator]
theorem induct {motive : Phrase → Prop} (segment : ∀ seg, motive (.segment seg))
    (list : ∀ seg first others gap, motive first → (∀ p ∈ others, motive p) →
      motive (.list seg first others gap)) : ∀ p, motive p
  | .segment seg => segment seg
  | .list seg first others gap =>
    list seg first others gap (induct segment list first) fun p _ => induct segment list p

/-- The text derived. -/
def text : Phrase → List Char
  | .segment seg => seg.chars
  | .list seg first others gap =>
    seg.chars ++ '<' :: (first.text ++ ((others.map fun p => ',' :: p.text).flatten ++
      '>' :: gap.chars))

/-- The greatest number of lists open at once. -/
def nesting : Phrase → Nat
  | .segment _ => 0
  | .list _ first others _ =>
    max (first.nesting + 1) ((others.map fun p => p.nesting + 1).foldr max 0)

/-- The type expression denoted: the trimmed segment, applied to what the parameters denote. -/
def expr : Phrase → TypeExpr
  | .segment seg => .app seg.name []
  | .list seg first others _ => .app seg.name (first.expr :: others.map expr)

theorem nesting_list_le_iff {seg : Segment} {first : Phrase} {others : List Phrase} {gap : Gap}
    {k : Nat} : (list seg first others gap).nesting ≤ k ↔
      ∀ p ∈ first :: others, p.nesting + 1 ≤ k := by
  rw [nesting, max_le_iff, TypeExpr.foldr_max_le_iff, List.forall_mem_cons, List.forall_mem_map]

/-- As many lists are open at once in the text as stand around the innermost name. -/
theorem height_expr (p : Phrase) : p.expr.height = p.nesting := by
  induction p with
  | segment seg => simp [expr, nesting]
  | list seg first others gap ihf iho =>
    apply eq_of_forall_ge_iff
    intro k
    rw [expr, TypeExpr.height_app_le_iff, nesting_list_le_iff]
    simp only [List.forall_mem_cons, List.forall_mem_map, ihf]
    exact and_congr_right fun _ => forall₂_congr fun p hp => by rw [iho p hp]

/-! ### Unambiguity -/

/-- What can follow a whole descriptor inside another one. -/
def Ends (rest : List Char) : Prop := ∀ c ∈ rest.head?, c = ',' ∨ c = '>'

/-- A run of characters of one kind ends where the next kind begins. -/
theorem append_cancel_of_forall {P : Char → Prop} {x y s t : List Char} (hx : ∀ c ∈ x, P c)
    (hy : ∀ c ∈ y, P c) (hs : ∀ c ∈ s.head?, ¬ P c) (ht : ∀ c ∈ t.head?, ¬ P c)
    (h : x ++ s = y ++ t) : x = y ∧ s = t := by
  induction x generalizing y with
  | nil =>
    cases y with
    | nil => exact ⟨rfl, h⟩
    | cons c y =>
      rw [List.nil_append, List.cons_append] at h
      exact absurd (hy c (by simp)) (hs c (by simp [h]))
  | cons c x ih =>
    cases y with
    | nil =>
      rw [List.nil_append, List.cons_append] at h
      exact absurd (hx c (by simp)) (ht c (by simp [← h]))
    | cons d y =>
      rw [List.cons_append, List.cons_append] at h
      obtain ⟨rfl, htail⟩ := List.cons.inj h
      obtain ⟨rfl, hst⟩ := ih (fun e he => hx e (List.mem_cons_of_mem _ he))
        (fun e he => hy e (List.mem_cons_of_mem _ he)) htail
      exact ⟨rfl, hst⟩

theorem not_plain_of_ends {s : List Char} (hs : Ends s) : ∀ c ∈ s.head?, ¬ ¬ isDelimiter c := by
  intro c hc
  rcases hs c hc with rfl | rfl <;> decide

theorem not_blank_of_ends {s : List Char} (hs : Ends s) : ∀ c ∈ s.head?, ¬ Text.isBlank c := by
  intro c hc
  rcases hs c hc with rfl | rfl <;> decide

theorem segment_cancel {x y : Segment} {s t : List Char} (hs : ∀ c ∈ s.head?, ¬ ¬ isDelimiter c)
    (ht : ∀ c ∈ t.head?, ¬ ¬ isDelimiter c) (h : x.chars ++ s = y.chars ++ t) : x = y ∧ s = t := by
  obtain ⟨hxy, hst⟩ := append_cancel_of_forall x.plain y.plain hs ht h
  exact ⟨Segment.ext hxy, hst⟩

theorem gap_cancel {x y : Gap} {s t : List Char} (hs : Ends s) (ht : Ends t)
    (h : x.chars ++ s = y.chars ++ t) : x = y ∧ s = t := by
  obtain ⟨hxy, hst⟩ := append_cancel_of_forall x.blank y.blank (not_blank_of_ends hs)
    (not_blank_of_ends ht) h
  exact ⟨Gap.ext hxy, hst⟩

/-- The parameters after the first one, each with its comma. -/
def others (ps : List Phrase) : List Char := (ps.map fun p => ',' :: p.text).flatten

theorem text_list (seg : Segment) (first : Phrase) (ps : List Phrase) (gap : Gap) :
    (list seg first ps gap).text =
      seg.chars ++ '<' :: (first.text ++ (others ps ++ '>' :: gap.chars)) := by
  rw [text, others]

theorem others_cons (p : Phrase) (ps : List Phrase) :
    others (p :: ps) = ',' :: (p.text ++ others ps) := by simp [others]

theorem ends_others (ps : List Phrase) (u : List Char) : Ends (others ps ++ '>' :: u) := by
  intro c hc
  cases ps with
  | nil => simp [others] at hc; simp [← hc]
  | cons p ps => simp [others_cons] at hc; simp [← hc]

/-- Two lists of parameters with the same text are the same, if each parameter is told from its
text. -/
theorem others_cancel {ps qs : List Phrase} {u v : List Char}
    (ih : ∀ p ∈ ps, ∀ {q : Phrase} {s t : List Char}, Ends s → Ends t →
      p.text ++ s = q.text ++ t → p = q ∧ s = t)
    (h : others ps ++ '>' :: u = others qs ++ '>' :: v) : ps = qs ∧ u = v := by
  induction ps generalizing qs with
  | nil =>
    cases qs with
    | nil => simpa [others] using h
    | cons q qs => simp [others] at h
  | cons p ps ihps =>
    cases qs with
    | nil => simp [others] at h
    | cons q qs =>
      simp only [others_cons, List.cons_append, List.append_assoc, List.cons.injEq, true_and] at h
      obtain ⟨rfl, htail⟩ := ih p (by simp) (ends_others ps u) (ends_others qs v) h
      obtain ⟨rfl, huv⟩ := ihps (fun r hr => ih r (by simp [hr])) htail
      exact ⟨rfl, huv⟩

/-- A descriptor is told from what follows it, and its derivation from its text. -/
theorem text_append_cancel {p q : Phrase} {s t : List Char} (hs : Ends s) (ht : Ends t)
    (h : p.text ++ s = q.text ++ t) : p = q ∧ s = t := by
  -- the segment before `<` or the end is cut off first; what is left then decides the form
  induction p generalizing q s t with
  | segment seg =>
    cases q with
    | segment seg' =>
      rw [text, text] at h
      obtain ⟨rfl, hst⟩ := segment_cancel (not_plain_of_ends hs) (not_plain_of_ends ht) h
      exact ⟨rfl, hst⟩
    | list seg' first' ps' gap' =>
      rw [text, text_list, List.append_assoc, List.cons_append] at h
      obtain ⟨-, rfl⟩ := segment_cancel (not_plain_of_ends hs) (by simp [isDelimiter]) h
      simp [Ends] at hs
  | list seg first ps gap ihf iho =>
    cases q with
    | segment seg' =>
      rw [text, text_list, List.append_assoc, List.cons_append] at h
      obtain ⟨-, rfl⟩ := segment_cancel (by simp [isDelimiter]) (not_plain_of_ends ht) h
      simp [Ends] at ht
    | list seg' first' ps' gap' =>
      simp only [text_list, List.cons_append, List.append_assoc] at h
      obtain ⟨rfl, hlist⟩ := segment_cancel (by simp [isDelimiter]) (by simp [isDelimiter]) h
      obtain ⟨rfl, hothers⟩ := ihf (ends_others ps _) (ends_others ps' _) (List.cons.inj hlist).2
      obtain ⟨rfl, hgap⟩ := others_cancel iho hothers
      obtain ⟨rfl, hst⟩ := gap_cancel hs ht hgap
      exact ⟨rfl, hst⟩

/-- **A descriptor has one derivation.** -/
theorem text_injective : Function.Injective text := by
  intro p q h
  exact (text_append_cancel (s := []) (t := []) (by simp [Ends]) (by simp [Ends]) (by rw [h])).1

end Phrase

end TypeGrading.Descriptor
