import Mathlib.Tactic
import TypeGrading.Text.Blank

/-!
# Bytes of a text

A text as UTF-8 bytes, and the places between its characters.

* `bytes`: the bytes of a text; `length_bytes`, `bytes_toList` tie them to `byteLength` and to core;
* `mem_utf8EncodeChar_iff`: no byte of another character is that of an ASCII character;
* `head?_bytes_eq_iff`, `findIdx?_bytes`: looking at a byte, and looking for one;
* `IsBoundary`: the places between characters, `isBoundary_toList_iff`: those of core;
* `cut?`, `slice?`: a text is cut between characters only.
-/

namespace TypeGrading.Text

/-- The UTF-8 bytes of a text. -/
def bytes (t : List Char) : List UInt8 := t.flatMap String.utf8EncodeChar

@[simp] theorem bytes_nil : bytes [] = [] := rfl

@[simp] theorem bytes_cons (c : Char) (t : List Char) :
    bytes (c :: t) = String.utf8EncodeChar c ++ bytes t := rfl

@[simp] theorem bytes_append (s t : List Char) : bytes (s ++ t) = bytes s ++ bytes t :=
  List.flatMap_append

/-- The bytes of a string are those that core stores. -/
theorem bytes_toList (s : String) : (bytes s.toList).toByteArray = s.toByteArray :=
  String.utf8Encode_toList

@[simp] theorem length_bytes (t : List Char) : (bytes t).length = byteLength t := by
  induction t with
  | nil => rfl
  | cons c t ih => simp [ih]

theorem byteLength_toList (s : String) : byteLength s.toList = s.utf8ByteSize := by
  rw [← length_bytes, String.utf8ByteSize, ← bytes_toList, List.size_toByteArray]

/-! ### ASCII characters -/

section Ascii

variable {c d : Char} {t : List Char}

theorem utf8EncodeChar_ascii (hd : d.utf8Size = 1) : String.utf8EncodeChar d = [d.toUInt8] :=
  String.utf8EncodeChar_eq_singleton hd

/-- A byte with the highest bit clear is the whole code of its character. -/
theorem toNat_of_mem_utf8EncodeChar {b : UInt8} (h : b ∈ String.utf8EncodeChar c)
    (hb : b.toNat ≤ 127) : b.toNat = c.val.toNat := by
  simp only [String.utf8EncodeChar] at h
  -- one case for each length of the encoding; in the longer ones every byte is above 127
  split_ifs at h <;> simp only [List.mem_cons, List.not_mem_nil, or_false] at h
  · subst h
    rw [UInt8.toNat_ofNat']
    omega
  · rcases h with rfl | rfl <;> rw [UInt8.toNat_ofNat'] at hb ⊢ <;> omega
  · rcases h with rfl | rfl | rfl <;> rw [UInt8.toNat_ofNat'] at hb ⊢ <;> omega
  · rcases h with rfl | rfl | rfl | rfl <;> rw [UInt8.toNat_ofNat'] at hb ⊢ <;> omega

/-- **ASCII bytes are characters.** The byte of an ASCII character is in the encoding of no other
character. -/
theorem mem_utf8EncodeChar_iff (hd : d.utf8Size = 1) :
    d.toUInt8 ∈ String.utf8EncodeChar c ↔ c = d := by
  constructor
  · intro h
    have hsmall : d.val.toNat ≤ 127 := Char.utf8Size_eq_one_iff.1 hd
    have hbyte : d.toUInt8.toNat = d.val.toNat := by
      rw [Char.toUInt8, UInt32.toNat_toUInt8]
      exact Nat.mod_eq_of_lt (by omega)
    have hcode := toNat_of_mem_utf8EncodeChar h (hbyte ▸ hsmall)
    exact Char.ext (UInt32.toNat_inj.1 (hcode.symm.trans hbyte))
  · rintro rfl
    rw [utf8EncodeChar_ascii hd]
    exact List.mem_singleton_self _

theorem mem_bytes_iff (hd : d.utf8Size = 1) : d.toUInt8 ∈ bytes t ↔ d ∈ t := by
  simp only [bytes, List.mem_flatMap, mem_utf8EncodeChar_iff hd, exists_eq_right]

/-- Where the next byte is that of an ASCII character, that character comes next. -/
theorem head?_bytes_eq_iff (hd : d.utf8Size = 1) :
    (bytes t).head? = some d.toUInt8 ↔ t.head? = some d := by
  cases t with
  | nil => simp
  | cons c t =>
    rw [bytes_cons, List.head?_append_of_ne_nil _ String.utf8EncodeChar_ne_nil, List.head?_cons,
      Option.some.injEq]
    constructor
    · intro h
      exact (mem_utf8EncodeChar_iff hd).1 (List.mem_of_mem_head? h)
    · rintro rfl
      rw [utf8EncodeChar_ascii hd, List.head?_cons]

theorem head?_bytes_eq_none_iff : (bytes t).head? = none ↔ t = [] := by
  cases t with
  | nil => simp
  | cons c t => simp [String.utf8EncodeChar_ne_nil]

end Ascii

/-! ### Boundaries -/

/-- The offset lies between two characters, or at an end of the text. -/
def IsBoundary (t : List Char) (n : Nat) : Prop :=
  ∃ front rest, t = front ++ rest ∧ byteLength front = n

theorem isBoundary_byteLength (front rest : List Char) :
    IsBoundary (front ++ rest) (byteLength front) := ⟨front, rest, rfl, rfl⟩

theorem IsBoundary.le {t : List Char} {n : Nat} (h : IsBoundary t n) : n ≤ byteLength t := by
  obtain ⟨front, rest, rfl, rfl⟩ := h
  rw [byteLength_append]
  exact Nat.le_add_right _ _

/-- The boundaries of a string are the valid positions of core. -/
theorem isBoundary_toList_iff {s : String} {n : Nat} :
    IsBoundary s.toList n ↔ String.Pos.Raw.IsValid s ⟨n⟩ := by
  rw [String.Pos.Raw.isValid_iff_exists_append]
  constructor
  · rintro ⟨front, rest, hs, rfl⟩
    refine ⟨String.ofList front, String.ofList rest, ?_, ?_⟩
    · rw [← String.ofList_append, ← hs, String.ofList_toList]
    · rw [String.Pos.Raw.ext_iff, String.byteIdx_rawEndPos, ← byteLength_toList, String.toList_ofList]
  · rintro ⟨front, rest, rfl, h⟩
    refine ⟨front.toList, rest.toList, String.toList_append, ?_⟩
    rw [byteLength_toList, ← String.byteIdx_rawEndPos, ← h]

/-! ### Cutting -/

/-- The two parts of a text before and behind an offset; none where the offset lies behind the end or
inside a character. -/
def cut? : List Char → Nat → Option (List Char × List Char)
  | t, 0 => some ([], t)
  | [], _ + 1 => none
  | c :: t, n + 1 =>
    if c.utf8Size ≤ n + 1 then
      (cut? t (n + 1 - c.utf8Size)).map fun (front, rest) => (c :: front, rest)
    else none

/-- The part of a text between two offsets; none where they are not two boundaries in order. -/
def slice? (t : List Char) (start stop : Nat) : Option (List Char) :=
  if start ≤ stop then
    (cut? t start).bind fun (_, rest) => (cut? rest (stop - start)).map Prod.fst
  else none

theorem cut?_append (front rest : List Char) :
    cut? (front ++ rest) (byteLength front) = some (front, rest) := by
  induction front with
  | nil => cases rest <;> rfl
  | cons c front ih =>
    have hc := c.utf8Size_pos
    obtain ⟨k, hk⟩ := Nat.exists_eq_add_one.2 (Nat.add_pos_left hc (byteLength front))
    have hle : c.utf8Size ≤ k + 1 := hk ▸ Nat.le_add_right _ _
    have hrest : k + 1 - c.utf8Size = byteLength front := by omega
    rw [byteLength_cons, hk, List.cons_append, cut?, if_pos hle, hrest, ih]
    rfl

theorem cut?_eq_some_iff {t front rest : List Char} {n : Nat} :
    cut? t n = some (front, rest) ↔ t = front ++ rest ∧ byteLength front = n := by
  constructor
  · intro h
    fun_induction cut? t n generalizing front with
    | case1 t =>
      obtain ⟨rfl, rfl⟩ := Prod.mk.inj (Option.some.inj h)
      exact ⟨rfl, rfl⟩
    | case2 => cases h
    | case3 c t n hc ih =>
      obtain ⟨⟨front', rest'⟩, hcut, heq⟩ := Option.map_eq_some_iff.1 h
      obtain ⟨rfl, rfl⟩ := Prod.mk.inj heq
      obtain ⟨rfl, hlen⟩ := ih hcut
      exact ⟨rfl, by rw [byteLength_cons, hlen]; omega⟩
    | case4 => cases h
  · rintro ⟨rfl, rfl⟩
    exact cut?_append front rest

/-- **Slices.** They are taken between two boundaries in order, and nowhere else. -/
theorem slice?_eq_some_iff {t inner : List Char} {start stop : Nat} :
    slice? t start stop = some inner ↔ ∃ front rest, t = front ++ inner ++ rest ∧
      byteLength front = start ∧ start + byteLength inner = stop := by
  unfold slice?
  constructor
  · intro h
    split_ifs at h with hle
    obtain ⟨⟨front, tail⟩, hfront, h⟩ := Option.bind_eq_some_iff.1 h
    obtain ⟨⟨inner', rest⟩, hinner, rfl⟩ := Option.map_eq_some_iff.1 h
    obtain ⟨rfl, hstart⟩ := cut?_eq_some_iff.1 hfront
    obtain ⟨rfl, hlen⟩ := cut?_eq_some_iff.1 hinner
    exact ⟨front, rest, (List.append_assoc _ _ _).symm, hstart, by simp only; omega⟩
  · rintro ⟨front, rest, rfl, rfl, rfl⟩
    rw [if_pos (Nat.le_add_right _ _), List.append_assoc, cut?_append, Nat.add_sub_cancel_left]
    simp only [Option.bind_some, cut?_append, Option.map_some]

end TypeGrading.Text
