import TypeGrading.Config.Basic
import TypeGrading.Text.Blank
import TypeGrading.Text.Hex

/-!
# Reading configs

A config is a JSON object with the fields `extends`, `root` and `hierarchy`, or a JSON array of
them in this order; every field may be missing.

* `stringBody`, `wrongValue`: JSON strings, and values of a kind that is not wanted;
* `Scan`: a part of the text is read off its front;
* `Config.parse`: a whole text.

The first problem from left to right is reported. A value of a wrong kind is one where it starts,
unless the value itself is no JSON.
-/

namespace TypeGrading.Config

/-! ### Strings -/

/-- The number that four hexadecimal digits write at the front of a text. -/
def fourDigits (s : List Char) : Except TextFault Nat :=
  let digits := s.take 4
  if Text.byteLength digits < 4 then .error .truncated
  else
    match Text.ofHex? digits with
    | some n => .ok n
    | none => .error .malformed

/-- The character that follows `\u`, and how many characters write it. Characters outside the basic
plane are written as two surrogates. -/
def unicodeEscape (s : List Char) : Except TextFault (Char × Nat) := do
  let n ← fourDigits s
  if 0xDC00 ≤ n ∧ n ≤ 0xDFFF then throw .malformed
  if n < 0xD800 ∨ 0xDBFF < n then return (Char.ofNat n, 4)
  match s.drop 4 with
  | [] | ['\\'] => throw .truncated
  | '\\' :: 'u' :: rest =>
    let m ← fourDigits rest
    if m < 0xDC00 ∨ 0xDFFF < m then throw .malformed
    return (Char.ofNat (0x10000 + (n - 0xD800) * 0x400 + (m - 0xDC00)), 10)
  | _ => throw .malformed

/-- The character that follows a backslash, and how many characters write it. -/
def escapeCode (s : List Char) : Except TextFault (Char × Nat) :=
  match s with
  | [] => .error .truncated
  | '"' :: _ => .ok ('"', 1)
  | '\\' :: _ => .ok ('\\', 1)
  | '/' :: _ => .ok ('/', 1)
  | 'b' :: _ => .ok (Char.ofNat 0x08, 1)
  | 'f' :: _ => .ok (Char.ofNat 0x0C, 1)
  | 'n' :: _ => .ok ('\n', 1)
  | 'r' :: _ => .ok ('\r', 1)
  | 't' :: _ => .ok ('\t', 1)
  | 'u' :: rest => (unicodeEscape rest).map fun (c, n) => (c, n + 1)
  | _ => .error .malformed

/-- The string whose opening quote has been read, and the text behind its closing quote. -/
def stringBody (s : List Char) (reversed : List Char) : Except TextFault (String × List Char) :=
  match s with
  | [] => .error .truncated
  | c :: rest =>
    if c = '"' then .ok (String.ofList reversed.reverse, rest)
    else if c = '\\' then
      match escapeCode rest with
      | .ok (d, n) => stringBody (rest.drop n) (d :: reversed)
      | .error e => .error e
    else if c.toNat < 0x20 then .error .malformed
    else stringBody rest (c :: reversed)
termination_by s.length
decreasing_by all_goals (simp only [List.length_drop, List.length_cons]; omega)

/-! ### Values of a wrong kind -/

/-- The number of a list of decimal digits. -/
def ofDigits (digits : List Char) : Nat :=
  digits.foldl (fun n c => 10 * n + (c.toNat - '0'.toNat)) 0

/-- The decimal `m * 10 ^ e` is too great for a double: it rounds beyond the greatest finite one. -/
def exceedsDouble (m : Nat) (e : Int) : Bool :=
  let size : Int := (toString m).length + e
  let limit := Nat.pow 2 1024 - Nat.pow 2 970
  if m = 0 ∨ size < 300 then false
  else if 310 < size then true
  else if 0 ≤ e then limit ≤ m * Nat.pow 10 e.toNat
  else limit * Nat.pow 10 (-e).toNat ≤ m

/-- Digits that have to come next: what is wrong if there are none. -/
def noDigits (rest : List Char) : TextFault := if rest = [] then .truncated else .malformed

/-- The exponent of a number, 0 if it has none. -/
def exponent (s : List Char) : Except TextFault Int :=
  match s with
  | e :: rest =>
    if e = 'e' ∨ e = 'E' then
      let (negative, unsigned) := match rest with
        | '+' :: r => (false, r)
        | '-' :: r => (true, r)
        | r => (false, r)
      let digits := unsigned.takeWhile Char.isDigit
      if digits = [] then .error (noDigits unsigned)
      else .ok (if negative then -(ofDigits digits : Int) else ofDigits digits)
    else .ok 0
  | [] => .ok 0

/-- What a number is as a value, its sign having been read: of a wrong kind, if it is one. -/
def numberFault (s : List Char) : TextFault :=
  let whole := s.takeWhile Char.isDigit
  let rest := s.dropWhile Char.isDigit
  if whole = [] then noDigits rest
  else if whole.head? = some '0' ∧ 1 < whole.length then .malformed
  else
    let (fraction, bare, rest) := match rest with
      | '.' :: r => (r.takeWhile Char.isDigit, false, r.dropWhile Char.isDigit)
      | r => ([], true, r)
    if fraction = [] ∧ ¬ bare then noDigits rest
    else
      match exponent rest with
      | .error e => e
      | .ok e =>
        if exceedsDouble (ofDigits (whole ++ fraction)) (e - fraction.length) then .malformed
        else .mistyped

/-- What is wrong with a text that should go on with a word. -/
def wordFault : List Char → List Char → Option TextFault
  | [], _ => none
  | _ :: _, [] => some .truncated
  | w :: word, c :: rest => if w = c then wordFault word rest else some .malformed

/-- What a value is that is not of the kind wanted: of a wrong kind, if it is one. -/
def wrongValue (s : List Char) : TextFault :=
  match s with
  | [] => .truncated
  | 'n' :: rest => (wordFault ['u', 'l', 'l'] rest).getD .mistyped
  | 't' :: rest => (wordFault ['r', 'u', 'e'] rest).getD .mistyped
  | 'f' :: rest => (wordFault ['a', 'l', 's', 'e'] rest).getD .mistyped
  | '-' :: rest => numberFault rest
  | '"' :: rest =>
    match stringBody rest [] with
    | .ok _ => .mistyped
    | .error e => e
  | '[' :: _ => .mistyped
  | c :: rest =>
    if c.isDigit then numberFault (c :: rest)
    else if c = '\x7b' then .mistyped
    else .malformed

/-! ### Reading off the front -/

/-- Something read off the front of a text. -/
abbrev Scan := StateT (List Char) (Except TextFault)

/-- The four blanks that JSON allows between its parts. -/
def isJsonBlank (c : Char) : Bool := c == ' ' || c == '\n' || c == '\t' || c == '\r'

/-- The next character that is not blank. -/
def next : Scan (Option Char) := do
  modify (·.dropWhile isJsonBlank)
  return (← get).head?

/-- Leave out one character. -/
def skip : Scan Unit := modify List.tail

/-- Leave out a word. -/
def skipWord (word : List Char) : Scan Unit := do
  match wordFault word (← get) with
  | some e => throw e
  | none => modify (·.drop word.length)

/-- The rest of a string whose opening quote comes next. -/
def quoted : Scan String := do
  let (s, rest) ← stringBody (← get).tail []
  set rest
  return s

/-- A string. -/
def textValue : Scan String := do
  match ← next with
  | some '"' => quoted
  | _ => throw (wrongValue (← get))

/-- A string or `null`. -/
def optionalText : Scan (Option String) := do
  match ← next with
  | some 'n' =>
    skip
    skipWord ['u', 'l', 'l']
    return none
  | _ => some <$> textValue

/-- Whether another item of an array follows; its comma, if it needs one, is left out. -/
def anotherItem (first : Bool) : Scan Bool := do
  match ← next with
  | none => throw .truncated
  | some ']' => return false
  | some c =>
    if first then return true
    if c ≠ ',' then throw .malformed
    skip
    if (← next) = some ']' then throw .malformed
    return true

/-- The key of another field of an object, if one follows. -/
def anotherKey (first : Bool) : Scan (Option String) := do
  match ← next with
  | none => throw .truncated
  | some '\x7d' => return none
  | some c =>
    if first then
      if c ≠ '"' then throw .malformed
      some <$> quoted
    else
      if c ≠ ',' then throw .malformed
      skip
      match ← next with
      | some '"' => some <$> quoted
      | some _ => throw .malformed
      | none => throw .truncated

/-- Leave out the colon behind a key. -/
def colon : Scan Unit := do
  match ← next with
  | some ':' => skip
  | some _ => throw .malformed
  | none => throw .truncated

/-- The strings of an array from here on; `fuel` bounds their number. -/
def textsFrom : (fuel : Nat) → (reversed : List String) → Scan (List String)
  | 0, _ => throw .malformed
  | fuel + 1, reversed => do
    if ← anotherItem reversed.isEmpty then textsFrom fuel ((← textValue) :: reversed)
    else
      skip
      return reversed.reverse

/-- An array of strings. -/
def texts : Scan (List String) := do
  match ← next with
  | some '[' =>
    skip
    textsFrom ((← get).length + 1) []
  | _ => throw (wrongValue (← get))

/-- The entries of a hierarchy from here on; `fuel` bounds their number. -/
def entriesFrom : (fuel : Nat) → (first : Bool) → Table String (List String) →
    Scan (Table String (List String))
  | 0, _, _ => throw .malformed
  | fuel + 1, first, entries => do
    match ← anotherKey first with
    | none =>
      skip
      return entries
    | some key =>
      colon
      let names ← texts
      entriesFrom fuel false (entries.put key names)

/-- An object of arrays of strings; of two fields of one name the later wins. -/
def entries : Scan (Table String (List String)) := do
  match ← next with
  | some '\x7b' =>
    skip
    entriesFrom ((← get).length + 1) true Table.empty
  | _ => throw (wrongValue (← get))

/-! ### The record -/

/-- The fields of a config that have been read. -/
structure Fields where
  extends? : Option (Option String)
  root : Option (Option String)
  supertypes : Option (Table String (List String))

/-- The config of some fields; the others are as if nothing was said. -/
def Fields.toConfig (f : Fields) : Config where
  extends? := f.extends?.join
  root := f.root.join
  supertypes := f.supertypes.getD Table.empty

/-- The fields of an object from here on. A field that is unknown or repeated is refused as soon as
its key has been read. Each of the three fields comes once, so `fuel` is 4. -/
def fieldsFrom : (fuel : Nat) → (first : Bool) → Fields → Scan Fields
  | 0, _, _ => throw .mistyped
  | fuel + 1, first, f => do
    match ← anotherKey first with
    | none =>
      skip
      return f
    | some "extends" =>
      if f.extends?.isSome then throw .mistyped
      colon
      let value ← optionalText
      fieldsFrom fuel false { f with extends? := some value }
    | some "root" =>
      if f.root.isSome then throw .mistyped
      colon
      let value ← optionalText
      fieldsFrom fuel false { f with root := some value }
    | some "hierarchy" =>
      if f.supertypes.isSome then throw .mistyped
      colon
      let value ← entries
      fieldsFrom fuel false { f with supertypes := some value }
    | some _ => throw .mistyped

/-- The fields of an array from here on. -/
def positional : Scan Fields := do
  if ¬ (← anotherItem true) then return ⟨none, none, none⟩
  let base ← optionalText
  if ¬ (← anotherItem false) then return ⟨some base, none, none⟩
  let root ← optionalText
  if ¬ (← anotherItem false) then return ⟨some base, some root, none⟩
  let supertypes ← entries
  return ⟨some base, some root, some supertypes⟩

/-- Leave out the end of an array. -/
def closeArray : Scan Unit := do
  match ← next with
  | some ']' => skip
  | some _ => throw .malformed
  | none => throw .truncated

/-- A config, and nothing but blanks behind it. -/
def wholeText : Scan Config := do
  let fields ← match ← next with
    | some '[' => do
      skip
      let f ← positional
      closeArray
      pure f
    | some '\x7b' => do
      skip
      fieldsFrom 4 true ⟨none, none, none⟩
    | _ => throw (wrongValue (← get))
  match ← next with
  | none => return fields.toConfig
  | some _ => throw .malformed

/-- Read a config in JSON. -/
def parse : Reading := fun source => (wholeText.run source.toList).map Prod.fst

end TypeGrading.Config
