import Mathlib
import TypeGrading.Config.Reader
import TypeGrading.Text.Json

/-!
# Reading JSON back

A document that is written out can be read again.

* `Json.Within`: documents without repeated names, nested only so deep;
* `Json.ReadsBack`: what is read of a document that was written is the document;
* `Json.value?`, `Json.read?`: a reader;
* `stringBody_escapeChar`, `items?_blockBody`: texts, and lists of items between brackets;
* `Json.readsBack_pretty`: the reader reads back what is written with one item a line.
-/

namespace TypeGrading.Text.Json

open Config (stringBody escapeCode unicodeEscape isJsonBlank)

/-- The document is nested at most so deep, and no object in it has two fields of one name. Whole numbers
have no bound, as the positions in a tree have none. -/
inductive Within : Nat → Json → Prop
  | text {n s} : Within n (.text s)
  | number {n i} : Within n (.number i)
  | list {n items} : (∀ j ∈ items, Within n j) → Within (n + 1) (.list items)
  | object {n fields} : (fields.map Prod.fst).Nodup → (∀ f ∈ fields, Within n f.2) →
      Within (n + 1) (.object fields)

/-- How deep a document may be nested that is read. -/
def maxDepth : Nat := 127

/-- What is read of a document that was written is the document. -/
def ReadsBack (read? : String → Option Json) (write : Json → String) : Prop :=
  ∀ j, Within maxDepth j → read? (write j) = some j

/-! ### A reader -/

variable {α : Type}

/-- The text without the blanks in front of it. -/
def skipBlanks (s : List Char) : List Char := s.dropWhile isJsonBlank

/-- Items with commas between them, up to a closing bracket; at most `n` of them. -/
def items? (item? : List Char → Option (α × List Char)) (close : Char) :
    Nat → List Char → Option (List α × List Char)
  | 0, _ => none
  | n + 1, s => do
    let (a, s) ← item? s
    match skipBlanks s with
    | [] => none
    | c :: s =>
      if c = close then some ([a], s)
      else if c = ',' then (items? item? close n s).map fun (as, s) => (a :: as, s)
      else none

/-- Items up to a closing bracket, or none at all. -/
def many? (item? : List Char → Option (α × List Char)) (close : Char) (s : List Char) :
    Option (List α × List Char) :=
  match skipBlanks s with
  | [] => none
  | c :: rest => if c = close then some ([], rest) else items? item? close s.length s

/-- The field of an object whose value is read by `value?`. -/
def field? (value? : List Char → Option (Json × List Char)) (s : List Char) :
    Option ((String × Json) × List Char) :=
  match skipBlanks s with
  | '"' :: s => do
    let (name, s) ← (stringBody s []).toOption
    match skipBlanks s with
    | ':' :: s => (value? s).map fun (j, s) => ((name, j), s)
    | _ => none
  | _ => none

/-- The characters of whole numbers. -/
def isNumberChar (c : Char) : Bool := c.isDigit || c == '-'

/-- A whole number. -/
def number? (s : List Char) : Option (Json × List Char) :=
  (String.ofList (s.takeWhile isNumberChar)).toInt?.map fun n =>
    (.number n, s.dropWhile isNumberChar)

/-- A document that is nested at most so deep. -/
def value? : Nat → List Char → Option (Json × List Char)
  | 0, _ => none
  | n + 1, s =>
    match skipBlanks s with
    | '"' :: s => (stringBody s []).toOption.map fun (body, s) => (Json.text body, s)
    | '[' :: s => (many? (value? n) ']' s).map fun (items, s) => (Json.list items, s)
    | '\x7b' :: s =>
      (many? (field? (value? n)) '\x7d' s).map fun (fields, s) => (Json.object fields, s)
    | s => number? s

/-- Read a document, with nothing but blanks behind it. -/
def read? (s : String) : Option Json :=
  match value? (maxDepth + 1) s.toList with
  | some (j, rest) => if skipBlanks rest = [] then some j else none
  | none => none

/-! ### Texts -/

variable {c : Char} {s rest : List Char} {n level : Nat}

theorem stringBody_backslash {d : Char} {reversed : List Char} (h : escapeCode s = .ok (d, n)) :
    stringBody ('\\' :: s) reversed = stringBody (s.drop n) (d :: reversed) := by
  rw [stringBody]
  simp [h]

theorem stringBody_plain {reversed : List Char} (hquote : c ≠ '"') (hbackslash : c ≠ '\\')
    (hcontrol : 0x20 ≤ c.toNat) :
    stringBody (c :: s) reversed = stringBody s (c :: reversed) := by
  rw [stringBody]
  simp [hquote, hbackslash, Nat.not_lt.2 hcontrol]

/-- The four digits that write a control character. -/
def controlDigits (n : Nat) : List Char :=
  (if n < 0x10 then ['0', '0', '0'] else ['0', '0']) ++ hex n

theorem escapeCode_control (hn : n < 0x20) (s : List Char) :
    escapeCode ('u' :: (controlDigits n ++ s)) = .ok (Char.ofNat n, 5) ∧
      ('u' :: (controlDigits n ++ s)).drop 5 = s := by
  interval_cases n <;> exact ⟨rfl, rfl⟩

/-- A character that is written is read back. -/
theorem stringBody_escapeChar (c : Char) (s reversed : List Char) :
    stringBody (escapeChar c ++ s) reversed = stringBody s (c :: reversed) := by
  have hcontrol (hc : c.toNat < 0x20) :
      stringBody ('\\' :: 'u' :: (controlDigits c.toNat ++ s)) reversed =
        stringBody s (c :: reversed) := by
    obtain ⟨hcode, hdrop⟩ := escapeCode_control hc s
    rw [stringBody_backslash hcode, hdrop, Char.ofNat_toNat]
  have hletter {d e : Char} (h : escapeCode (e :: s) = .ok (d, 1)) :
      stringBody (['\\', e] ++ s) reversed = stringBody s (d :: reversed) :=
    stringBody_backslash h
  have hchar {n : Nat} (h : c.toNat = n) : c = Char.ofNat n := by rw [← h, Char.ofNat_toNat]
  rw [escapeChar]
  split_ifs with hquote hbackslash hnewline hreturn htab hback hfeed hsmall hlarge
  · subst hquote
    exact hletter rfl
  · subst hbackslash
    exact hletter rfl
  · exact hnewline ▸ hletter rfl
  · exact hreturn ▸ hletter rfl
  · exact htab ▸ hletter rfl
  · exact hchar hback ▸ hletter rfl
  · exact hchar hfeed ▸ hletter rfl
  · simpa [controlDigits, hsmall] using hcontrol (by omega)
  · simpa [controlDigits, hsmall] using hcontrol hlarge
  · exact stringBody_plain hquote hbackslash (Nat.le_of_not_lt hlarge)

/-- A text that is written is read back. -/
theorem stringBody_escaped (text : List Char) (rest reversed : List Char) :
    stringBody (text.flatMap escapeChar ++ '"' :: rest) reversed =
      .ok (String.ofList (reversed.reverse ++ text), rest) := by
  induction text generalizing reversed with
  | nil =>
    rw [List.flatMap_nil, List.nil_append, stringBody]
    simp
  | cons c text ih =>
    rw [List.flatMap_cons, List.append_assoc, stringBody_escapeChar, ih]
    simp

theorem toList_escape (text : String) :
    (escape text).toList = '"' :: (text.toList.flatMap escapeChar ++ ['"']) := by
  simp [escape]

theorem stringBody_escape (text : String) (rest : List Char) :
    stringBody (text.toList.flatMap escapeChar ++ '"' :: rest) [] = .ok (text, rest) := by
  rw [stringBody_escaped, List.reverse_nil, List.nil_append, String.ofList_toList]

/-! ### Numbers -/

/-- The text starts with none of the characters of numbers. -/
def Delimited (s : List Char) : Prop := ∀ c ∈ s.head?, isNumberChar c = false

theorem isNumberChar_of_mem_toString {i : Int} (h : c ∈ (toString i).toList) :
    isNumberChar c = true := by
  have hdigits {m : Nat} (h : c ∈ m.repr.toList) : isNumberChar c = true := by
    rw [Nat.toList_repr] at h
    simp [isNumberChar, Nat.isDigit_of_mem_toDigits (by decide) le_rfl h]
  rw [Int.toString_eq_repr, Int.repr_eq_if] at h
  split_ifs at h
  · exact hdigits h
  · rw [String.toList_append, List.mem_append] at h
    rcases h with h | h
    · obtain rfl : c = '-' := by simpa using h
      rfl
    · exact hdigits h

theorem isJsonBlank_of_isNumberChar (h : isNumberChar c = true) : isJsonBlank c = false := by
  by_contra hblank
  simp only [isJsonBlank, Bool.not_eq_false, Bool.or_eq_true, beq_iff_eq] at hblank
  rcases hblank with ((rfl | rfl) | rfl) | rfl <;> cases h

theorem exists_toList_toString (i : Int) :
    ∃ c t, (toString i).toList = c :: t ∧ isNumberChar c = true := by
  have hne : (toString i).toList ≠ [] := by
    rw [Int.toString_eq_repr, Int.repr_eq_if]
    split_ifs
    · rw [Nat.toList_repr]
      exact Nat.toDigits_ne_nil
    · simp
  obtain ⟨c, t, ht⟩ := List.exists_cons_of_ne_nil hne
  exact ⟨c, t, ht, isNumberChar_of_mem_toString (ht ▸ List.mem_cons_self)⟩

theorem number?_toString (i : Int) (hrest : Delimited rest) :
    number? ((toString i).toList ++ rest) = some (.number i, rest) := by
  have hall : ∀ c ∈ (toString i).toList, isNumberChar c = true :=
    fun c => isNumberChar_of_mem_toString
  have hnone : rest.takeWhile isNumberChar = [] ∧ rest.dropWhile isNumberChar = rest := by
    rcases rest with _ | ⟨c, rest⟩
    · exact ⟨rfl, rfl⟩
    · have hc := hrest c rfl
      simp [hc]
  rw [number?, List.takeWhile_append_of_pos hall, List.dropWhile_append_of_pos hall, hnone.1,
    hnone.2, List.append_nil, String.ofList_toList, Int.toString_eq_repr, Int.toInt?_repr]
  rfl

/-! ### Items between brackets -/

theorem skipBlanks_cons (h : isJsonBlank c = false) (s : List Char) :
    skipBlanks (c :: s) = c :: s := by
  simp [skipBlanks, h]

theorem toList_margin (level : Nat) :
    (margin level).toList = '\n' :: List.replicate (2 * level) ' ' := by
  simp [margin]

theorem skipBlanks_margin (level : Nat) (s : List Char) :
    skipBlanks ((margin level).toList ++ s) = skipBlanks s := by
  refine List.dropWhile_append_of_pos fun c hc => ?_
  rw [toList_margin, List.mem_cons] at hc
  rcases hc with rfl | hc
  · rfl
  · rw [List.eq_of_mem_replicate hc]
    rfl

/-- What stands between the brackets around some items. -/
def blockBody (level : Nat) : List (List Char) → List Char
  | [] => []
  | [item] => (margin (level + 1)).toList ++ item ++ (margin level).toList
  | item :: items => (margin (level + 1)).toList ++ item ++ ',' :: blockBody level items

theorem toList_intercalate_margin (level : Nat) {items : List String} (h : items ≠ []) :
    (",".intercalate (items.map (margin (level + 1) ++ ·))).toList ++ (margin level).toList =
      blockBody level (items.map String.toList) := by
  rw [String.toList_intercalate, List.map_map]
  induction items with
  | nil => exact absurd rfl h
  | cons x items ih =>
    cases items with
    | nil => simp [blockBody]
    | cons y items =>
      rw [List.map_cons, List.map_cons] at ih ⊢
      rw [List.map_cons, List.intercalate_cons_cons, List.append_assoc, List.append_assoc]
      rw [ih nofun]
      simp [blockBody]

theorem toList_block (opening closing : String) (level : Nat) (items : List String) :
    (block opening closing level items).toList =
      opening.toList ++ (blockBody level (items.map String.toList) ++ closing.toList) := by
  rw [block]
  split_ifs with h
  · simp [h, blockBody]
  · rw [← toList_intercalate_margin level h]
    simp only [String.toList_append, List.append_assoc]

theorem delimited_margin (level : Nat) (s : List Char) :
    Delimited ((margin level).toList ++ s) := by
  rw [toList_margin]
  rintro c ⟨⟩
  rfl

theorem delimited_cons (h : isNumberChar c = false) : Delimited (c :: s) := by
  rintro d ⟨⟩
  exact h

section Items

variable {item? : List Char → Option (α × List Char)} {print : α → List Char} {close : Char}
  {as : List α}

/-- Items that can be read one by one are read up to the closing bracket. -/
theorem items?_blockBody (hclose : isJsonBlank close = false) (hcomma : close ≠ ',')
    (hitem : ∀ a ∈ as, ∀ s, Delimited s →
      item? ((margin (level + 1)).toList ++ print a ++ s) = some (a, s))
    (hne : as ≠ []) (hn : as.length ≤ n) (rest : List Char) :
    items? item? close n (blockBody level (as.map print) ++ close :: rest) = some (as, rest) := by
  induction as generalizing n with
  | nil => exact absurd rfl hne
  | cons a as ih =>
    cases n with
    | zero => simp at hn
    | succ n =>
      cases as with
      | nil =>
        have hread := hitem a (by simp) ((margin level).toList ++ close :: rest)
          (delimited_margin level _)
        simp only [items?, List.map_cons, List.map_nil, blockBody, List.append_assoc] at hread ⊢
        simp [hread, skipBlanks_margin, skipBlanks_cons hclose]
      | cons b as =>
        have hread := hitem a (by simp)
          (',' :: (blockBody level ((b :: as).map print) ++ close :: rest)) (delimited_cons rfl)
        have hrest := ih (fun c hc => hitem c (List.mem_cons_of_mem a hc)) nofun
          (Nat.le_of_succ_le_succ hn)
        simp only [List.map_cons] at hread hrest
        simp only [items?, List.map_cons, blockBody, List.append_assoc, List.cons_append] at hread ⊢
        simp [hread, skipBlanks_cons (c := ',') rfl, hcomma.symm, hrest]

theorem length_le_blockBody (level : Nat) (items : List (List Char)) :
    items.length ≤ (blockBody level items).length := by
  induction items with
  | nil => exact le_rfl
  | cons x items ih =>
    cases items with
    | nil =>
      simp only [blockBody, toList_margin, List.length_append, List.length_cons, List.length_nil]
      omega
    | cons y items =>
      simp only [blockBody, toList_margin, List.length_append, List.length_cons] at ih ⊢
      omega

theorem exists_blockBody_eq (level : Nat) (x : List Char) (items : List (List Char)) :
    ∃ s, blockBody level (x :: items) = (margin (level + 1)).toList ++ (x ++ s) := by
  cases items with
  | nil => exact ⟨_, List.append_assoc ..⟩
  | cons y items => exact ⟨_, List.append_assoc ..⟩

/-- What stands between brackets is read up to the closing one. -/
theorem many?_blockBody (hclose : isJsonBlank close = false) (hcomma : close ≠ ',')
    (hitem : ∀ a ∈ as, ∀ s, Delimited s →
      item? ((margin (level + 1)).toList ++ print a ++ s) = some (a, s))
    (hstart : ∀ a ∈ as, ∃ c t, print a = c :: t ∧ isJsonBlank c = false ∧ c ≠ close)
    (rest : List Char) :
    many? item? close (blockBody level (as.map print) ++ close :: rest) = some (as, rest) := by
  cases as with
  | nil => simp [many?, blockBody, skipBlanks_cons hclose]
  | cons a as =>
    obtain ⟨c, t, hprint, hblank, hc⟩ := hstart a (by simp)
    obtain ⟨s, hbody⟩ := exists_blockBody_eq level (print a) (as.map print)
    have hskip : skipBlanks (blockBody level ((a :: as).map print) ++ close :: rest) =
        c :: (t ++ (s ++ close :: rest)) := by
      rw [List.map_cons, hbody, hprint, List.append_assoc, skipBlanks_margin]
      simp [skipBlanks_cons hblank]
    simp only [many?, hskip, if_neg hc]
    refine items?_blockBody hclose hcomma hitem nofun ?_ rest
    have := length_le_blockBody level ((a :: as).map print)
    rw [List.length_map] at this
    rw [List.length_append]
    omega

end Items

/-! ### Documents -/

/-- A document starts with none of the characters that separate documents. -/
theorem exists_toList_prettyAt (level : Nat) (j : Json) :
    ∃ c t, (j.prettyAt level).toList = c :: t ∧ isJsonBlank c = false ∧ c ≠ ']' := by
  cases j with
  | text s => exact ⟨'"', _, by rw [prettyAt, toList_escape], by decide, by decide⟩
  | number i =>
    obtain ⟨c, t, ht, hc⟩ := exists_toList_toString i
    refine ⟨c, t, by rw [prettyAt, ht], isJsonBlank_of_isNumberChar hc, ?_⟩
    rintro rfl
    cases hc
  | list items => exact ⟨'[', _, by rw [prettyAt, toList_block]; rfl, by decide, by decide⟩
  | object fields =>
    exact ⟨'\x7b', _, by rw [prettyAt, toList_block]; rfl, by decide, by decide⟩

theorem skipBlanks_prettyAt (level : Nat) (j : Json) (s : List Char) :
    skipBlanks ((j.prettyAt level).toList ++ s) = (j.prettyAt level).toList ++ s := by
  obtain ⟨c, t, ht, hc, -⟩ := exists_toList_prettyAt level j
  rw [ht, List.cons_append, skipBlanks_cons hc]

theorem toList_field (level : Nat) (name : String) (j : Json) :
    (escape name ++ ": " ++ j.prettyAt level).toList =
      '"' :: (name.toList.flatMap escapeChar ++ '"' :: ':' :: ' ' :: (j.prettyAt level).toList) := by
  simp [toList_escape]

theorem field?_prettyAt {value? : List Char → Option (Json × List Char)} {name : String} {j : Json}
    (hs : skipBlanks s = (escape name ++ ": " ++ j.prettyAt level).toList ++ rest)
    (h : value? (' ' :: ((j.prettyAt level).toList ++ rest)) = some (j, rest)) :
    field? value? s = some ((name, j), rest) := by
  rw [toList_field] at hs
  simp [field?, hs, stringBody_escape, skipBlanks_cons (c := ':') rfl, Except.toOption, h]

/-- **A document is read back.** -/
theorem value?_prettyAt {j : Json} (h : Within n j) (hrest : Delimited rest)
    (hs : skipBlanks s = (j.prettyAt level).toList ++ rest) :
    value? (n + 1) s = some (j, rest) := by
  induction h generalizing level s rest with
  | text =>
    rw [prettyAt, toList_escape, List.cons_append, List.append_assoc] at hs
    simp [value?, hs, stringBody_escape, Except.toOption]
  | @number n i =>
    rw [prettyAt] at hs
    obtain ⟨c, t, ht, hc⟩ := exists_toList_toString i
    have hnumber := number?_toString i hrest
    rw [ht, List.cons_append] at hs hnumber
    rw [value?, hs]
    split
    · next heq => cases (List.cons.inj heq).1; cases hc
    · next heq => cases (List.cons.inj heq).1; cases hc
    · next heq => cases (List.cons.inj heq).1; cases hc
    · exact hnumber
  | @list n items _ ih =>
    rw [prettyAt, toList_block, List.map_map, List.append_assoc, List.append_assoc] at hs
    have hitems : many? (value? (n + 1)) ']' (blockBody level
        (items.map fun j => (j.prettyAt (level + 1)).toList) ++ ']' :: rest) =
          some (items, rest) := by
      refine many?_blockBody rfl (by decide) (fun j hj s hs => ?_)
        (fun j _ => exists_toList_prettyAt (level + 1) j) rest
      have hskip := skipBlanks_prettyAt (level + 1) j s
      exact ih j hj hs (by rw [List.append_assoc, skipBlanks_margin, hskip])
    rw [value?, hs]
    exact congrArg (Option.map _) hitems
  | @object n fields _ _ ih =>
    rw [prettyAt, toList_block, List.map_map, List.append_assoc, List.append_assoc] at hs
    have hfields : many? (field? (value? (n + 1))) '\x7d' (blockBody level
        (fields.map fun f => (escape f.1 ++ ": " ++ f.2.prettyAt (level + 1)).toList) ++
          '\x7d' :: rest) = some (fields, rest) := by
      refine many?_blockBody rfl (by decide) (fun f hf s hs => ?_)
        (fun f _ => ⟨'"', _, toList_field .., by decide, by decide⟩) rest
      refine field?_prettyAt ?_ (ih f hf hs (skipBlanks_prettyAt (level + 1) f.2 s))
      rw [List.append_assoc, skipBlanks_margin, toList_field, List.cons_append, skipBlanks_cons rfl]
    rw [value?, hs]
    exact congrArg (Option.map _) hfields

/-- **What is written with one item a line is read back.** -/
theorem readsBack_pretty : ReadsBack read? pretty := by
  intro j hj
  have hstart : skipBlanks j.pretty.toList = (j.prettyAt 0).toList ++ [] := by
    simpa [pretty] using skipBlanks_prettyAt 0 j []
  have hread : value? (maxDepth + 1) j.pretty.toList = some (j, []) :=
    value?_prettyAt hj nofun hstart
  simp [read?, hread, skipBlanks]

end TypeGrading.Text.Json
