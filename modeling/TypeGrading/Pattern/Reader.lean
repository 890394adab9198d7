import TypeGrading.Pattern.Reader.Brackets
import TypeGrading.Pattern.Reader.Operators

/-!
# Reading patterns

A pattern is read piece by piece into an expression. Groups may stand in groups, so the outer ones
wait while an inner one is read.

* `Sequence`: alternatives that are being read;
* `Piece`, `Piece.read?`: what is read at a time;
* `Reader`, `Reader.piece?`: all that is being read, and one more piece;
* `read?`: a whole pattern.
-/

namespace TypeGrading.Pattern

open Reader (skipIdle skipLazy Primitive)

/-! ### Alternatives that are being read -/

/-- Alternatives that are being read: the complete ones and the parts of the last, the latest
first. -/
structure Sequence where
  branches : List Expr
  parts : List Expr

namespace Sequence

/-- Nothing was read. -/
def start : Sequence := ⟨[], []⟩

/-- Take one more part. -/
def add (q : Sequence) (e : Expr) : Sequence := { q with parts := e :: q.parts }

/-- The next alternative begins. -/
def bar (q : Sequence) : Sequence := ⟨Expr.concatOf q.parts.reverse :: q.branches, []⟩

/-- The expression that is complete. -/
def close (q : Sequence) : Expr :=
  let last := Expr.concatOf q.parts.reverse
  if q.branches = [] then last else .alternation (last :: q.branches).reverse

/-- Repeat the latest part; there has to be one, and switches cannot be repeated. -/
def repeat? (q : Sequence) (min : Nat) (max : Option Nat) : Option Sequence :=
  match q.parts with
  | [] | .empty :: _ | .flags _ :: _ => none
  | e :: parts => some { q with parts := .repetition min max e :: parts }

end Sequence

/-! ### Pieces -/

/-- What a piece of a pattern is. -/
inductive Piece
  | opening (o : Reader.Opening)
  | closing
  | bar
  | part (e : Expr)
  | repetition (min : Nat) (max : Option Nat)

/-- The expression that is meant outside of brackets. -/
def Reader.ofPrimitive : Primitive → Expr
  | .literal l => .literal l
  | .dot => .dot
  | .assertion a => .assertion a
  | .shorthand k negated => .oneOf (.shorthand k negated)
  | .property name negated => .oneOf (.property name negated)

/-- Read one piece, which starts with the character `c`. -/
def Piece.read? (verbose : Bool) (c : Char) (s : List Char) : Option (Piece × List Char) :=
  match c with
  | '(' => (Reader.opening? verbose s).map fun x => (.opening x.1, x.2)
  | ')' => some (.closing, s)
  | '|' => some (.bar, s)
  | '[' => (Reader.brackets? verbose s).map fun x => (.part (.oneOf x.1), x.2)
  | '?' => some (.repetition 0 (some 1), skipLazy s)
  | '*' => some (.repetition 0 none, skipLazy s)
  | '+' => some (.repetition 1 none, skipLazy s)
  | '\x7b' => (Reader.counts? verbose s).map fun x =>
    (.repetition x.1.1 x.1.2, skipLazy (skipIdle verbose x.2))
  | '\\' => (Reader.escape? verbose s).map fun x => (.part (Reader.ofPrimitive x.1), x.2)
  | '.' => some (.part .dot, s)
  | '^' => some (.part (.assertion .lineStart), s)
  | '$' => some (.part (.assertion .lineEnd), s)
  | c => some (.part (.literal ⟨c, false⟩), s)

/-! ### Patterns that are being read -/

/-- A group that is open: what it switches, and what waits for its end. -/
structure OpenGroup where
  change : FlagChange
  waiting : Sequence
  verbose : Bool

/-- A pattern that is being read: whether blanks mean nothing, the names of groups, the innermost
group, and those around it. -/
structure Reader where
  verbose : Bool
  names : List (List Char)
  current : Sequence
  outer : List OpenGroup

namespace Reader

/-- Nothing was read. -/
def start : Reader := ⟨false, [], .start, []⟩

/-- Take one more part. -/
def add (r : Reader) (e : Expr) : Reader := { r with current := r.current.add e }

/-- A group begins. -/
def openGroup (r : Reader) (change : FlagChange) : Reader :=
  { r with
    verbose := (change.setting? .verbose).getD r.verbose
    current := .start
    outer := ⟨change, r.current, r.verbose⟩ :: r.outer }

/-- What an opening parenthesis begins; the names of groups are different. -/
def begin? (r : Reader) : Reader.Opening → Option Reader
  | .switch change =>
    some { r.add (.flags change) with verbose := (change.setting? .verbose).getD r.verbose }
  | .group change => some (r.openGroup change)
  | .namedGroup name =>
    if name ∈ r.names then none else some { r.openGroup .none with names := name :: r.names }

/-- The innermost group ends. -/
def closeGroup? (r : Reader) : Option Reader :=
  match r.outer with
  | [] => none
  | g :: outer =>
    some { r with
      verbose := g.verbose
      current := g.waiting.add (.group g.change r.current.close)
      outer }

/-- Repeat the latest part. -/
def repeat? (r : Reader) (min : Nat) (max : Option Nat) : Option Reader :=
  (r.current.repeat? min max).map fun current => { r with current }

/-- Take a piece into what was read. -/
def take? (r : Reader) : Piece → Option Reader
  | .opening o => r.begin? o
  | .closing => r.closeGroup?
  | .bar => some { r with current := r.current.bar }
  | .part e => some (r.add e)
  | .repetition min max => r.repeat? min max

/-- Read one more piece, which starts with the character `c`. -/
def piece? (r : Reader) (c : Char) (s : List Char) : Option (Reader × List Char) :=
  (Piece.read? r.verbose c s).bind fun x => (r.take? x.1).map (·, x.2)

/-- Read pieces, at most `fuel` of them, up to the end. -/
def run? : Nat → Reader → List Char → Option Reader
  | fuel, r, s =>
    match skipIdle r.verbose s, fuel with
    | [], _ => some r
    | _ :: _, 0 => none
    | c :: s, fuel + 1 =>
      match r.piece? c s with
      | some (r, s) => run? fuel r s
      | none => none

/-- The expression that was read; no group is left open. -/
def finish? (r : Reader) : Option Expr :=
  match r.outer with
  | [] => some r.current.close
  | _ :: _ => none

end Reader

/-- The expression that a text writes. No piece is empty, so there are at most as many as
characters. -/
def read? (s : List Char) : Option Expr := (Reader.start.run? s.length s).bind Reader.finish?

end TypeGrading.Pattern
