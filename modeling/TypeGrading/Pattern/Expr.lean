/-!
# Pattern expressions

Regular expressions as they are written.

* `Flag`, `FlagChange`: the switches that decide what the rest means;
* `CharSet`: sets of characters, as written between brackets or by a backslash and a letter;
* `Assertion`: what can be demanded of a place between two characters;
* `Expr`: whole expressions;
* `Expr.depth`: how deep an expression is nested.
-/

namespace TypeGrading.Pattern

/-- A switch: `i`, `m`, `s`, `U`, `u`, `R` or `x`. -/
inductive Flag
  | ignoreCase | multiLine | dotAll | swapGreed | unicode | carriageReturn | verbose
  deriving DecidableEq, Repr

/-- Switches to turn on and to turn off. -/
structure FlagChange where
  on : List Flag
  off : List Flag
  deriving DecidableEq, Repr

/-- Nothing is switched. -/
def FlagChange.none : FlagChange := ⟨[], []⟩

/-- What a switch is set to, if anything. -/
def FlagChange.setting? (f : FlagChange) (flag : Flag) : Option Bool :=
  if flag ∈ f.on then some true else if flag ∈ f.off then some false else Option.none

/-- A single character. It may be written as a byte, by two hexadecimal digits. -/
structure Literal where
  char : Char
  isByte : Bool
  deriving DecidableEq, Repr

/-- The sets with a letter of their own: `\d`, `\s` and `\w`. -/
inductive Shorthand
  | digit | space | word
  deriving DecidableEq, Repr

/-- The sets of ASCII characters with a name between colons. -/
inductive AsciiClass
  | alnum | alpha | ascii | blank | cntrl | digit | graph | lower | print | punct | space | upper
  | word | xdigit
  deriving DecidableEq, Repr

/-- A set of characters by a property: its name alone, or a property and its value. -/
inductive PropertyName
  | named (name : String)
  | valued (property value : String)
  deriving DecidableEq, Repr

/-- The operators between two sets. -/
inductive SetOp
  | intersection | difference | symmetricDifference
  deriving DecidableEq, Repr

/-- A set of characters as it is written. -/
inductive CharSet where
  | literal (l : Literal)
  | range (first last : Literal)
  | asciiClass (k : AsciiClass) (negated : Bool)
  | shorthand (k : Shorthand) (negated : Bool)
  | property (name : PropertyName) (negated : Bool)
  | union (items : List CharSet)
  | combined (op : SetOp) (left right : CharSet)
  | bracketed (negated : Bool) (inner : CharSet)

/-- The union of some sets; a single one is left as it is. -/
def CharSet.unionOf : List CharSet → CharSet
  | [item] => item
  | items => .union items

/-- What can be demanded of a place between two characters. -/
inductive Assertion
  | lineStart | lineEnd | textStart | textEnd
  | boundary | noBoundary | wordStart | wordEnd | wordStartHalf | wordEndHalf
  deriving DecidableEq, Repr

/-- A regular expression as it is written. -/
inductive Expr where
  | empty
  | flags (change : FlagChange)
  | literal (l : Literal)
  | dot
  | assertion (a : Assertion)
  | oneOf (set : CharSet)
  | repetition (min : Nat) (max : Option Nat) (e : Expr)
  | group (change : FlagChange) (e : Expr)
  | concat (es : List Expr)
  | alternation (es : List Expr)

/-- Some expressions one after the other; a single one is left as it is. -/
def Expr.concatOf : List Expr → Expr
  | [] => .empty
  | [e] => e
  | es => .concat es

/-! ### Depth -/

mutual

/-- How deep a set is nested. -/
def CharSet.depth : CharSet → Nat
  | .literal _ | .range _ _ | .asciiClass _ _ | .shorthand _ _ | .property _ _ => 0
  | .union [] => 0
  | .union (item :: items) => 1 + CharSet.depthOfAll (item :: items)
  | .combined _ left right => 1 + max left.depth right.depth
  | .bracketed _ inner => 1 + inner.depth

/-- The depth of the deepest of some sets. -/
def CharSet.depthOfAll : List CharSet → Nat
  | [] => 0
  | item :: items => max item.depth (CharSet.depthOfAll items)

end

mutual

/-- How deep an expression is nested. -/
def Expr.depth : Expr → Nat
  | .empty | .flags _ | .literal _ | .dot | .assertion _ => 0
  | .oneOf set => set.depth
  | .repetition _ _ e => 1 + e.depth
  | .group _ e => 1 + e.depth
  | .concat es => 1 + Expr.depthOfAll es
  | .alternation es => 1 + Expr.depthOfAll es

/-- The depth of the deepest of some expressions. -/
def Expr.depthOfAll : List Expr → Nat
  | [] => 0
  | e :: es => max e.depth (Expr.depthOfAll es)

end

end TypeGrading.Pattern
