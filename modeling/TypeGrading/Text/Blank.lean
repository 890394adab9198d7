/-!
# Blank text

What counts as blank around a type name, and how it is cut off.

* `isBlank`: the Unicode property `White_Space`;
* `trim`: a text without the blanks at its two ends;
* `byteLength`: the width of a text in UTF-8 bytes, the unit of every offset.
-/

namespace TypeGrading.Text

/-- The characters with the Unicode property `White_Space`. -/
def isBlank (c : Char) : Bool :=
  let n := c.toNat
  (0x09 ≤ n && n ≤ 0x0D) || n == 0x20 || n == 0x85 || n == 0xA0 || n == 0x1680 ||
    (0x2000 ≤ n && n ≤ 0x200A) || n == 0x2028 || n == 0x2029 || n == 0x202F ||
    n == 0x205F || n == 0x3000

/-- The text without the blanks at its start. -/
def trimStart (s : List Char) : List Char := s.dropWhile isBlank

/-- The text without the blanks at its two ends. -/
def trim (s : List Char) : List Char := (trimStart (trimStart s).reverse).reverse

/-- The text holds blanks only. -/
def IsBlank (s : List Char) : Prop := ∀ c ∈ s, isBlank c

instance (s : List Char) : Decidable (IsBlank s) :=
  List.decidableBAll (fun c => isBlank c = true) s

/-- The number of UTF-8 bytes of a text. -/
def byteLength : List Char → Nat
  | [] => 0
  | c :: s => c.utf8Size + byteLength s

/-- Trimming at the start cuts off blanks and nothing else. -/
theorem exists_append_trimStart (s : List Char) : ∃ b, IsBlank b ∧ s = b ++ trimStart s := by
  induction s with
  | nil => exact ⟨[], by simp [IsBlank], rfl⟩
  | cons c s ih =>
    by_cases h : isBlank c
    · obtain ⟨b, hb, hs⟩ := ih
      refine ⟨c :: b, ?_, ?_⟩
      · intro d hd
        rcases List.mem_cons.1 hd with rfl | hd
        · exact h
        · exact hb d hd
      · simp only [trimStart, List.dropWhile_cons, h, if_true, List.cons_append]
        exact congrArg (c :: ·) hs
    · exact ⟨[], by simp [IsBlank], by simp [trimStart, h]⟩

/-- Nothing is left of a text after trimming at the start exactly when it is blank. -/
theorem trimStart_eq_nil_iff {s : List Char} : trimStart s = [] ↔ IsBlank s := by
  constructor
  · intro h
    obtain ⟨b, hb, hs⟩ := exists_append_trimStart s
    rw [h, List.append_nil] at hs
    exact hs ▸ hb
  · intro h
    induction s with
    | nil => rfl
    | cons c s ih =>
      have hc : isBlank c = true := h c (by simp)
      simp only [trimStart, List.dropWhile_cons, hc, if_true]
      exact ih fun d hd => h d (by simp [hd])

/-- Nothing is left of a text after trimming exactly when it is blank. -/
theorem trim_eq_nil_iff {s : List Char} : trim s = [] ↔ IsBlank s := by
  obtain ⟨b, hb, hs⟩ := exists_append_trimStart s
  rw [trim, List.reverse_eq_nil_iff, trimStart_eq_nil_iff]
  constructor
  · intro h c hc
    rw [hs] at hc
    rcases List.mem_append.1 hc with hc | hc
    · exact hb c hc
    · exact h c (by simpa using hc)
  · intro h c hc
    exact h c (by rw [hs]; simp only [List.mem_append]; exact Or.inr (by simpa using hc))

@[simp] theorem byteLength_nil : byteLength [] = 0 := rfl

@[simp] theorem byteLength_cons (c : Char) (s : List Char) :
    byteLength (c :: s) = c.utf8Size + byteLength s := rfl

@[simp] theorem byteLength_append (s t : List Char) :
    byteLength (s ++ t) = byteLength s + byteLength t := by
  induction s with
  | nil => simp
  | cons c s ih => simp [ih, Nat.add_assoc]

end TypeGrading.Text
