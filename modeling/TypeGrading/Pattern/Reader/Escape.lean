import TypeGrading.Pattern.Expr
import TypeGrading.Text.Blank
import TypeGrading.Text.Hex

/-!
# Reading patterns: blanks and escapes

Pieces of a pattern are read off the front of its characters; what is left follows the piece in the
result.

* `skipIdle`: blanks and comments, which mean nothing while a pattern is verbose;
* `Primitive`: what stands for one place or one character;
* `escape?`: what follows a backslash.
-/

namespace TypeGrading.Pattern.Reader

open Text (isBlank ofHex?)

/-! ### Verbose patterns -/

/-- The text without the blanks and comments at its front. A comment goes up to the end of its
line. -/
def dropIdle (inComment : Bool) : List Char → List Char
  | [] => []
  | c :: s =>
    if inComment then dropIdle (c ≠ '\n') s
    else if isBlank c then dropIdle false s
    else if c = '#' then dropIdle true s
    else c :: s

/-- The text without what means nothing at its front. -/
def skipIdle (verbose : Bool) (s : List Char) : List Char :=
  if verbose then dropIdle false s else s

/-- The characters that mean something up to the first `stop`, and the text behind it. -/
def until? (verbose : Bool) (stop : Char) (inComment : Bool) :
    List Char → Option (List Char × List Char)
  | [] => none
  | c :: s =>
    if inComment then until? verbose stop (c ≠ '\n') s
    else if c = stop then some ([], s)
    else if verbose && isBlank c then until? verbose stop false s
    else if verbose && c = '#' then until? verbose stop true s
    else (until? verbose stop false s).map fun (cs, r) => (c :: cs, r)

/-! ### Single characters by number -/

/-- The character with the number that some hexadecimal digits write, if there is one. -/
def charOfHex? (digits : List Char) : Option Char :=
  if digits = [] then none
  else
    match ofHex? digits with
    | some n => if n.isValidChar then some (Char.ofNat n) else none
    | none => none

/-- The next `n` characters that mean something. -/
def exactly? (verbose : Bool) : Nat → List Char → Option (List Char × List Char)
  | 0, s => some ([], s)
  | _ + 1, [] => none
  | n + 1, c :: s =>
    (exactly? verbose n (skipIdle verbose s)).map fun (cs, r) => (c :: cs, r)

/-- A character by its number: between braces, or by exactly `width` digits. -/
def numbered? (verbose : Bool) (width : Nat) (s : List Char) : Option (Literal × List Char) :=
  match skipIdle verbose s with
  | '\x7b' :: s => do
    let (digits, rest) ← until? verbose '\x7d' false s
    let c ← charOfHex? digits
    pure (⟨c, false⟩, rest)
  | s => do
    let (digits, rest) ← exactly? verbose width s
    let c ← charOfHex? digits
    pure (⟨c, width == 2⟩, rest)

/-! ### Properties -/

/-- The text in front of the first place where `separator` stands, and the text behind it. -/
def cut? (separator : List Char) : List Char → Option (List Char × List Char)
  | [] => none
  | c :: s =>
    if separator.isPrefixOf (c :: s) then some ([], (c :: s).drop separator.length)
    else (cut? separator s).map fun (front, back) => (c :: front, back)

/-- A property between braces: a name, or a property and a value with `!=`, `:` or `=` between them.
All three mean that the property has the value. -/
def propertyName (s : List Char) : PropertyName :=
  match (cut? ['!', '='] s).or ((cut? [':'] s).or (cut? ['='] s)) with
  | some (property, value) => .valued (String.ofList property) (String.ofList value)
  | none => .named (String.ofList s)

/-- A property: a name between braces, or a single letter. -/
def property? (verbose : Bool) (s : List Char) : Option (PropertyName × List Char) :=
  match skipIdle verbose s with
  | [] | '\\' :: _ => none
  | '\x7b' :: s => (until? verbose '\x7d' false s).map fun (name, rest) => (propertyName name, rest)
  | c :: s => some (.named (String.ofList [c]), s)

/-! ### Word boundaries -/

/-- The characters in the names of places around words. -/
def isBoundaryNameChar (c : Char) : Bool := c.isAlpha || c == '-'

/-- The place around a word that a name stands for. -/
def boundaryNamed? (name : List Char) : Option Assertion :=
  if name = "start".toList then some .wordStart
  else if name = "end".toList then some .wordEnd
  else if name = "start-half".toList then some .wordStartHalf
  else if name = "end-half".toList then some .wordEndHalf
  else none

/-- A boundary. Braces behind it name a special one, unless they start like those of a repetition. -/
def boundary? (verbose : Bool) (s : List Char) : Option (Assertion × List Char) :=
  match s with
  | '\x7b' :: inner =>
    match skipIdle verbose inner with
    | [] => none
    | c :: _ =>
      if isBoundaryNameChar c then do
        let (name, rest) ← until? verbose '\x7d' false inner
        let a ← boundaryNamed? name
        pure (a, rest)
      else some (.boundary, s)
  | _ => some (.boundary, s)

/-! ### Escapes -/

/-- What stands for one place or one character. -/
inductive Primitive
  | literal (l : Literal)
  | dot
  | assertion (a : Assertion)
  | shorthand (k : Shorthand) (negated : Bool)
  | property (name : PropertyName) (negated : Bool)
  deriving DecidableEq, Repr

/-- The characters that mean something in a pattern unless they are escaped. -/
def isMeta (c : Char) : Bool :=
  ['\\', '.', '+', '*', '?', '(', ')', '|', '[', ']', '\x7b', '\x7d', '^', '$', '#', '&', '-',
    '~'].contains c

/-- The characters that stand for themselves behind a backslash. -/
def isSelfEscaped (c : Char) : Bool :=
  isMeta c || (c.toNat < 0x80 && !c.isAlphanum && c != '<' && c != '>')

/-- What a letter behind a backslash stands for where nothing more belongs to it. -/
def letterEscape? (c : Char) : Option Primitive :=
  match c with
  | 'd' => some (.shorthand .digit false)
  | 's' => some (.shorthand .space false)
  | 'w' => some (.shorthand .word false)
  | 'D' => some (.shorthand .digit true)
  | 'S' => some (.shorthand .space true)
  | 'W' => some (.shorthand .word true)
  | 'a' => some (.literal ⟨'\x07', false⟩)
  | 'f' => some (.literal ⟨'\x0c', false⟩)
  | 't' => some (.literal ⟨'\t', false⟩)
  | 'n' => some (.literal ⟨'\n', false⟩)
  | 'r' => some (.literal ⟨'\r', false⟩)
  | 'v' => some (.literal ⟨'\x0b', false⟩)
  | 'A' => some (.assertion .textStart)
  | 'z' => some (.assertion .textEnd)
  | 'B' => some (.assertion .noBoundary)
  | '<' => some (.assertion .wordStart)
  | '>' => some (.assertion .wordEnd)
  | _ => none

/-- What follows a backslash. -/
def escape? (verbose : Bool) : List Char → Option (Primitive × List Char)
  | [] => none
  | c :: s =>
    if isSelfEscaped c then some (.literal ⟨c, false⟩, s)
    else if c = 'x' then (numbered? verbose 2 s).map fun (l, r) => (.literal l, r)
    else if c = 'u' then (numbered? verbose 4 s).map fun (l, r) => (.literal l, r)
    else if c = 'U' then (numbered? verbose 8 s).map fun (l, r) => (.literal l, r)
    else if c = 'p' ∨ c = 'P' then
      (property? verbose s).map fun (name, r) => (.property name (c = 'P'), r)
    else if c = 'b' then (boundary? verbose s).map fun (a, r) => (.assertion a, r)
    else (letterEscape? c).map fun p => (p, s)

end TypeGrading.Pattern.Reader
