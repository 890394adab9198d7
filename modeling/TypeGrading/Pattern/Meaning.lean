import TypeGrading.Pattern.Expr
import TypeGrading.Pattern.Regex
import TypeGrading.Unicode.CaseFolding
import TypeGrading.Unicode.Names

/-!
# What patterns mean

The expression that a pattern writes as a regular expression. Switches hold from where they stand to
the end of their group, in later alternatives as well.

* `Modes`: the settings of the switches;
* `CharSet.test?`: the characters in a set;
* `Assertion.holds`: the places where an assertion holds;
* `Expr.meaning?`: the meaning of an expression, and the settings behind it.

Some expressions have no meaning: names that nothing is known by, and, while only ASCII is looked at,
whatever other characters would match.
-/

namespace TypeGrading.Pattern

open Unicode (CaseFolding.variants CaseFolding.asciiVariants)

/-! ### Settings -/

/-- The settings of the switches that change what an expression means. -/
structure Modes where
  ignoreCase : Bool
  multiLine : Bool
  dotAll : Bool
  carriageReturn : Bool
  unicode : Bool

namespace Modes

/-- The settings that nothing was switched from. -/
def default : Modes := ⟨false, false, false, false, true⟩

/-- The settings with some switches changed. -/
def change (m : Modes) (f : FlagChange) : Modes where
  ignoreCase := (f.setting? .ignoreCase).getD m.ignoreCase
  multiLine := (f.setting? .multiLine).getD m.multiLine
  dotAll := (f.setting? .dotAll).getD m.dotAll
  carriageReturn := (f.setting? .carriageReturn).getD m.carriageReturn
  unicode := (f.setting? .unicode).getD m.unicode

/-- The characters that count as equal to a character where case makes no difference. -/
def variants (m : Modes) (c : Char) : List Char :=
  if m.unicode then CaseFolding.variants c else CaseFolding.asciiVariants c

/-- The characters that pass a test, or that count as equal to one that does. -/
def fold (m : Modes) (test : Char → Bool) : Char → Bool :=
  if m.ignoreCase then fun c => (m.variants c).any test else test

/-- The characters of a set or, negated, all others. Other characters than ASCII are among these, so
there are no negated sets while only ASCII is looked at. -/
def negate? (m : Modes) (negated : Bool) (test : Char → Bool) : Option (Char → Bool) :=
  if !negated then some test
  else if m.unicode then some fun c => !test c
  else none

end Modes

/-! ### Sets -/

/-- The character is one of ASCII. -/
def isAscii (c : Char) : Bool := c.toNat < 0x80

/-- The characters of a class of ASCII characters. -/
def AsciiClass.test : AsciiClass → Char → Bool
  | .alnum, c => c.isAlphanum
  | .alpha, c => c.isAlpha
  | .ascii, c => isAscii c
  | .blank, c => c == '\t' || c == ' '
  | .cntrl, c => c.toNat < 0x20 || c.toNat == 0x7f
  | .digit, c => c.isDigit
  | .graph, c => '!' ≤ c && c ≤ '~'
  | .lower, c => c.isLower
  | .print, c => ' ' ≤ c && c ≤ '~'
  | .punct, c => '!' ≤ c && c ≤ '~' && !c.isAlphanum
  | .space, c => c == ' ' || ('\t' ≤ c && c ≤ '\r')
  | .upper, c => c.isUpper
  | .word, c => c.isAlphanum || c == '_'
  | .xdigit, c => (Text.hexDigit? c).isSome

/-- The characters of a set with a letter of its own. -/
def Shorthand.test (m : Modes) : Shorthand → Char → Bool
  | .digit, c => if m.unicode then Unicode.isIn [.decimalNumber] c else AsciiClass.digit.test c
  | .space, c => if m.unicode then Text.isBlank c else AsciiClass.space.test c
  | .word, c => if m.unicode then Unicode.isWord c else AsciiClass.word.test c

/-- The characters with a property. -/
def PropertyName.test? : PropertyName → Option (Char → Bool)
  | .named name => Unicode.setNamed? name
  | .valued property value => Unicode.setOfValue? property value

/-- The characters that two sets have under an operator. -/
def SetOp.combine (op : SetOp) (left right : Char → Bool) (c : Char) : Bool :=
  match op with
  | .intersection => left c && right c
  | .difference => left c && !right c
  | .symmetricDifference => left c != right c

/-- A literal that can stand in a set. -/
def Literal.member? (m : Modes) (l : Literal) : Option Char :=
  if m.unicode || isAscii l.char then some l.char else none

mutual

/-- The characters in a set. -/
def CharSet.test? (m : Modes) : CharSet → Option (Char → Bool)
  | .literal l => (l.member? m).map fun a => (· == a)
  | .range first last => do
    let a ← first.member? m
    let b ← last.member? m
    pure fun c => a ≤ c && c ≤ b
  | .asciiClass k negated => m.negate? negated (m.fold k.test)
  | .shorthand k negated => m.negate? negated (k.test m)
  | .property name negated =>
    if m.unicode then name.test?.bind fun test => m.negate? negated (m.fold test) else none
  | .union items => CharSet.anyTest? m items
  | .combined op left right => do
    let a ← left.test? m
    let b ← right.test? m
    pure (op.combine (m.fold a) (m.fold b))
  | .bracketed negated inner => do
    let test ← inner.test? m
    m.negate? negated (m.fold test)

/-- The characters in some set of a list. -/
def CharSet.anyTest? (m : Modes) : List CharSet → Option (Char → Bool)
  | [] => some fun _ => false
  | item :: items => do
    let a ← item.test? m
    let b ← CharSet.anyTest? m items
    pure fun c => a c || b c

end

/-! ### Places -/

/-- The assertion holds between two characters; at the ends of a text there is only one, or none. -/
def Assertion.holds (m : Modes) (a : Assertion) (before after : Option Char) : Bool :=
  let isWord (c : Option Char) : Bool := c.any (Shorthand.word.test m)
  match a with
  | .textStart => before.isNone
  | .textEnd => after.isNone
  | .lineStart =>
    before.isNone || (m.multiLine && (before == some '\n' ||
      (m.carriageReturn && before == some '\r' && after != some '\n')))
  | .lineEnd =>
    after.isNone || (m.multiLine &&
      if m.carriageReturn then after == some '\r' || (after == some '\n' && before != some '\r')
      else after == some '\n')
  | .boundary => isWord before != isWord after
  | .noBoundary => isWord before == isWord after
  | .wordStart => !isWord before && isWord after
  | .wordEnd => isWord before && !isWord after
  | .wordStartHalf => !isWord before
  | .wordEndHalf => !isWord after

/-- The characters that a dot stands for: all but those that end a line, or all. -/
def Modes.dot? (m : Modes) : Option (Char → Bool) :=
  if !m.unicode then none
  else if m.dotAll then some fun _ => true
  else if m.carriageReturn then some fun c => c != '\n' && c != '\r'
  else some fun c => c != '\n'

/-! ### Expressions -/

/-- A literal that stands alone. A byte beyond ASCII is no character. -/
def Literal.alone? (m : Modes) (l : Literal) : Option Char :=
  if !m.unicode && l.isByte && !isAscii l.char then none else some l.char

/-- Expressions one after the other. -/
def Regex.sequence : List Regex → Regex
  | [] => .empty
  | [r] => r
  | r :: rs => .seq r (Regex.sequence rs)

/-- Either of some expressions. -/
def Regex.choice : List Regex → Regex
  | [] => .one fun _ => false
  | [r] => r
  | r :: rs => .alt r (Regex.choice rs)

mutual

/-- The meaning of an expression, and the settings behind it. -/
def Expr.meaning? (m : Modes) : Expr → Option (Regex × Modes)
  | .empty => some (.empty, m)
  | .flags f => some (.empty, m.change f)
  | .literal l => (l.alone? m).map fun a => (.one (m.fold (· == a)), m)
  | .dot => m.dot?.map fun test => (.one test, m)
  | .assertion a => some (.look (a.holds m), m)
  | .oneOf set => (set.test? m).map fun test => (.one test, m)
  | .repetition min max e => (e.meaning? m).map fun (r, m) => (.repetition min max r, m)
  | .group f e => (e.meaning? (m.change f)).map fun (r, _) => (r, m)
  | .concat es => (Expr.meanings? m es).map fun (rs, m) => (.sequence rs, m)
  | .alternation es => (Expr.meanings? m es).map fun (rs, m) => (.choice rs, m)

/-- The meanings of expressions that are read one after the other. -/
def Expr.meanings? (m : Modes) : List Expr → Option (List Regex × Modes)
  | [] => some ([], m)
  | e :: es => do
    let (r, m) ← e.meaning? m
    let (rs, m) ← Expr.meanings? m es
    pure (r :: rs, m)

end

end TypeGrading.Pattern
