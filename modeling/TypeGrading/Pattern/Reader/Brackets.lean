import TypeGrading.Pattern.Reader.Escape

/-!
# Reading patterns: sets between brackets

A set is read piece by piece. Sets may stand in sets, so the outer ones wait while an inner one is
read.

* `Level`: a set that is being read;
* `Brackets`, `Brackets.step?`: all open sets, and one more piece;
* `brackets?`: a whole set.
-/

namespace TypeGrading.Pattern.Reader

open Text (isBlank)

/-! ### Sets that are being read -/

/-- A set that is being read: what its latest operator has on its left, and what was read since, the
latest first. -/
structure Level where
  negated : Bool
  pending : Option (SetOp × CharSet)
  items : List CharSet

namespace Level

/-- What was read so far, the latest operator applied. -/
def value (l : Level) : CharSet :=
  let items := CharSet.unionOf l.items.reverse
  match l.pending with
  | none => items
  | some (op, left) => .combined op left items

/-- Take one more item. -/
def add (l : Level) (item : CharSet) : Level := { l with items := item :: l.items }

/-- Take an operator: all that was read is on its left. -/
def operator (l : Level) (op : SetOp) : Level :=
  { l with pending := some (op, l.value), items := [] }

/-- The set that is complete. -/
def close (l : Level) : CharSet := .bracketed l.negated l.value

end Level

/-! ### Items -/

/-- The hyphens at the front and the text behind them. -/
def hyphens (verbose inComment : Bool) : List Char → Nat × List Char
  | [] => (0, [])
  | c :: s =>
    if inComment then hyphens verbose (c ≠ '\n') s
    else if c = '-' then
      let (n, rest) := hyphens verbose false s
      (n + 1, rest)
    else if verbose && isBlank c then hyphens verbose false s
    else if verbose && c = '#' then hyphens verbose true s
    else (0, c :: s)

/-- A set whose opening bracket has been read. Hyphens at its start stand for themselves; a closing
bracket does if it comes first. -/
def openLevel (verbose : Bool) (s : List Char) : Level × List Char :=
  let hyphen : CharSet := .literal ⟨'-', false⟩
  let (negated, s) := match skipIdle verbose s with
    | '^' :: s => (true, skipIdle verbose s)
    | s => (false, s)
  match hyphens verbose false s with
  | (0, ']' :: s) => (⟨negated, none, [.literal ⟨']', false⟩]⟩, s)
  | (n, s) => (⟨negated, none, List.replicate n hyphen⟩, s)

/-- The class of ASCII characters that a name stands for. -/
def asciiClassNamed? (name : List Char) : Option AsciiClass :=
  [("alnum", AsciiClass.alnum), ("alpha", .alpha), ("ascii", .ascii), ("blank", .blank),
    ("cntrl", .cntrl), ("digit", .digit), ("graph", .graph), ("lower", .lower), ("print", .print),
    ("punct", .punct), ("space", .space), ("upper", .upper), ("word", .word),
    ("xdigit", .xdigit)].lookup (String.ofList name)

/-- The class of ASCII characters whose name goes up to the next colon, a bracket behind it. -/
def namedClass? (negated : Bool) (s : List Char) : Option (CharSet × List Char) :=
  match s.dropWhile (· ≠ ':') with
  | ':' :: ']' :: rest =>
    (asciiClassNamed? (s.takeWhile (· ≠ ':'))).map fun k => (.asciiClass k negated, rest)
  | _ => none

/-- The class of ASCII characters whose name stands between colons, its opening bracket having been
read. -/
def asciiClass? : List Char → Option (CharSet × List Char)
  | ':' :: '^' :: s => namedClass? true s
  | ':' :: s => namedClass? false s
  | _ => none

/-- What stands for a character or a set of characters. -/
def primitive? (verbose : Bool) : List Char → Option (Primitive × List Char)
  | [] => none
  | '\\' :: s => escape? verbose s
  | c :: s => some (.literal ⟨c, false⟩, s)

/-- The set that is meant within brackets; places between characters are no sets. -/
def Primitive.toSet? : Primitive → Option CharSet
  | .literal l => some (.literal l)
  | .shorthand k negated => some (.shorthand k negated)
  | .property name negated => some (.property name negated)
  | .dot | .assertion _ => none

/-- The character behind a hyphen, as far as it is looked for: nothing is looked for behind what
follows a number sign. -/
def behindHyphen? (verbose : Bool) (s : List Char) : Option Char :=
  if verbose then
    match s.dropWhile isBlank with
    | '#' :: s => (s.dropWhile isBlank).head?
    | s => s.head?
  else s.head?

/-- The hyphen in front of `s` is no part of a range. -/
def endsItem (verbose : Bool) (s : List Char) : Bool :=
  behindHyphen? verbose s == some ']' || behindHyphen? verbose s == some '-'

/-- A range, its first character and the hyphen having been read. -/
def rangeFrom? (verbose : Bool) (first : Primitive) (s : List Char) :
    Option (CharSet × List Char) := do
  let (last, rest) ← primitive? verbose (skipIdle verbose s)
  match first, last with
  | .literal a, .literal b => if a.char ≤ b.char then some (.range a b, rest) else none
  | _, _ => none

/-- A range, or what is no range. -/
def item? (verbose : Bool) (s : List Char) : Option (CharSet × List Char) := do
  let (first, rest) ← primitive? verbose s
  let alone := first.toSet?.map fun set => (set, rest)
  match skipIdle verbose rest with
  | '-' :: s => if endsItem verbose s then alone else rangeFrom? verbose first s
  | _ => alone

/-! ### Whole sets -/

/-- The innermost set that is open, and those around it. -/
structure Brackets where
  current : Level
  outer : List Level

/-- The operator that two equal characters write. -/
def operator? : List Char → Option (SetOp × List Char)
  | '&' :: '&' :: s => some (.intersection, s)
  | '-' :: '-' :: s => some (.difference, s)
  | '~' :: '~' :: s => some (.symmetricDifference, s)
  | _ => none

/-- What becomes of open sets: they stay open, or the outermost one is complete. -/
inductive Brackets.Progress
  | going (b : Brackets) (rest : List Char)
  | complete (set : CharSet) (rest : List Char)

/-- Read one more piece. -/
def Brackets.step? (verbose : Bool) (b : Brackets) (s : List Char) : Option Brackets.Progress :=
  let taking (item : CharSet) (rest : List Char) : Progress :=
    .going { b with current := b.current.add item } rest
  match skipIdle verbose s with
  | [] => none
  | '[' :: rest =>
    match asciiClass? rest with
    | some (item, rest) => some (taking item rest)
    | none =>
      let (level, rest) := openLevel verbose rest
      some (.going ⟨level, b.current :: b.outer⟩ rest)
  | ']' :: rest =>
    match b.outer with
    | [] => some (.complete b.current.close rest)
    | level :: outer => some (.going ⟨level.add b.current.close, outer⟩ rest)
  | c :: rest =>
    match operator? (c :: rest) with
    | some (op, rest) => some (.going { b with current := b.current.operator op } rest)
    | none => (item? verbose (c :: rest)).map fun (item, rest) => taking item rest

/-- Read pieces, at most `fuel` of them, until the outermost set is complete. -/
def Brackets.run? (verbose : Bool) : Nat → Brackets → List Char → Option (CharSet × List Char)
  | 0, _, _ => none
  | fuel + 1, b, s =>
    match b.step? verbose s with
    | none => none
    | some (.complete set rest) => some (set, rest)
    | some (.going b rest) => Brackets.run? verbose fuel b rest

/-- A set whose opening bracket has been read. No piece is empty, so there are at most as many as
characters. -/
def brackets? (verbose : Bool) (s : List Char) : Option (CharSet × List Char) :=
  let (level, rest) := openLevel verbose s
  Brackets.run? verbose rest.length ⟨level, []⟩ rest

end TypeGrading.Pattern.Reader
