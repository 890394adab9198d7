import TypeGrading.Pattern.Reader.Escape
import TypeGrading.Unicode.Property

/-!
# Reading patterns: groups and repetitions

* `flags?`: the switches behind an opening parenthesis and a question mark;
* `opening?`: all that an opening parenthesis may be followed by;
* `counts?`: the counts of a repetition between braces.
-/

namespace TypeGrading.Pattern.Reader

open Text (isBlank)
open Unicode (isAlphabetic isAlphanumeric)

/-! ### Switches -/

/-- The switch of a letter. -/
def flagOf? (c : Char) : Option Flag :=
  [('i', Flag.ignoreCase), ('m', .multiLine), ('s', .dotAll), ('U', .swapGreed), ('u', .unicode),
    ('R', .carriageReturn), ('x', .verbose)].lookup c

/-- Switches that are being read: those so far, whether they are turned off from now on, and whether
the turn has just come. -/
structure FlagReading where
  change : FlagChange
  negative : Bool
  turning : Bool

/-- One more switch; none may come twice. -/
def FlagReading.add? (f : FlagReading) (flag : Flag) : Option FlagReading :=
  if (f.change.setting? flag).isSome then none
  else if f.negative then some ⟨{ f.change with off := flag :: f.change.off }, true, false⟩
  else some ⟨{ f.change with on := flag :: f.change.on }, false, false⟩

/-- Switches, up to a colon or a closing parenthesis, which is part of the answer. At most one hyphen
stands among them, with a switch behind it. -/
def flagsFrom? (f : FlagReading) : List Char → Option (FlagChange × Char × List Char)
  | [] => none
  | c :: s =>
    if c = ':' ∨ c = ')' then if f.turning then none else some (f.change, c, s)
    else if c = '-' then
      if f.negative then none else flagsFrom? { f with negative := true, turning := true } s
    else
      match (flagOf? c).bind f.add? with
      | some f => flagsFrom? f s
      | none => none

/-- Switches, up to a colon or a closing parenthesis. -/
def flags? (s : List Char) : Option (FlagChange × Char × List Char) :=
  flagsFrom? ⟨.none, false, false⟩ s

/-! ### Groups -/

/-- What an opening parenthesis begins: switches for what follows, or a group. -/
inductive Opening
  | switch (change : FlagChange)
  | group (change : FlagChange)
  | namedGroup (name : List Char)

/-- The characters in names of groups. -/
def isGroupNameChar (c : Char) : Bool :=
  c == '_' || c == '.' || c == '[' || c == ']' || isAlphanumeric c

/-- The text is the name of a group. -/
def isGroupName : List Char → Bool
  | [] => false
  | c :: s => (c == '_' || isAlphabetic c) && s.all isGroupNameChar

/-- The name of a group, up to the angle bracket that ends it. -/
def groupName? (s : List Char) : Option (Opening × List Char) :=
  match s.dropWhile (· ≠ '>') with
  | [] => none
  | _ :: rest =>
    let name := s.takeWhile (· ≠ '>')
    if isGroupName name then some (.namedGroup name, rest) else none

/-- What an opening parenthesis begins. Looking ahead or back is not supported. -/
def opening? (verbose : Bool) (s : List Char) : Option (Opening × List Char) :=
  match skipIdle verbose s with
  | '?' :: '=' :: _ | '?' :: '!' :: _ | '?' :: '<' :: '=' :: _ | '?' :: '<' :: '!' :: _ => none
  | '?' :: 'P' :: '<' :: s => groupName? s
  | '?' :: '<' :: s => groupName? s
  | '?' :: s => do
    let (change, last, rest) ← flags? s
    if last = ':' then some (.group change, rest)
    else if change = .none then none
    else some (.switch change, rest)
  | s => some (.group .none, s)

/-! ### Repetitions -/

/-- The digits at the front and the text behind them. -/
def digits (verbose inComment : Bool) : List Char → List Char × List Char
  | [] => ([], [])
  | c :: s =>
    if inComment then digits verbose (c ≠ '\n') s
    else if c.isDigit then
      let (ds, rest) := digits verbose false s
      (c :: ds, rest)
    else if verbose && isBlank c then digits verbose false s
    else if verbose && c = '#' then digits verbose true s
    else ([], c :: s)

/-- A count, as far as one is written, and the text behind it. Blanks around it mean nothing. -/
def count (verbose : Bool) (s : List Char) : Option Nat × List Char :=
  let (ds, rest) := digits verbose false (s.dropWhile isBlank)
  let n := ds.foldl (fun n c => 10 * n + (c.toNat - '0'.toNat)) 0
  (if ds = [] ∨ Nat.pow 2 32 ≤ n then none else some n, rest.dropWhile isBlank)

/-- How often something is repeated, the opening brace having been read: exactly, at least, or within
bounds. -/
def counts? (verbose : Bool) (s : List Char) : Option ((Nat × Option Nat) × List Char) :=
  match count verbose (skipIdle verbose s) with
  | (some n, '\x7d' :: rest) => some ((n, some n), rest)
  | (some n, ',' :: s) =>
    match skipIdle verbose s with
    | '\x7d' :: rest => some ((n, none), rest)
    | s =>
      match count verbose s with
      | (some m, '\x7d' :: rest) => if n ≤ m then some ((n, some m), rest) else none
      | _ => none
  | _ => none

/-- The text without a question mark at its front, which makes a repetition lazy. -/
def skipLazy : List Char → List Char
  | '?' :: s => s
  | s => s

end TypeGrading.Pattern.Reader
