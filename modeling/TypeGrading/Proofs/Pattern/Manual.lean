import TypeGrading.Pattern.NamePattern

/-!
# Manuals of engines

What can be said of names and patterns rests on what the manual of the engine says about the texts that
are compiled.

* `Item`: the marks for the start and the end, single characters and groups;
* `Manual`: the expressions that texts write, and their matches;
* `Manual.Spans`, `Manual.Follow`: matches of an item, and of items one after the other;
* `Manual.Describes`: the engine does what the manual says.

The manual tells of a text what it writes, not whether an engine accepts it: it may be too large or too
deep, or name a property that the engine does not know.
-/

namespace TypeGrading.Pattern

/-- What stands in a sequence: the mark for the start or for the end of a text, a single character, or
a group around an expression. -/
inductive Item (Expr : Type) where
  | start
  | finish
  | char (c : Char)
  | group (e : Expr)

/-- A manual: the expression that a text writes, the expression of items one after the other, and from
where to where in a text an expression has a match. -/
structure Manual where
  Expr : Type
  read? : String → Option Expr
  sequence : List (Item Expr) → Expr
  Matches : Expr → List Char → Nat → Nat → Prop

namespace Manual

variable (M : Manual) (text : List Char)

/-- An item has a match from one place of a text to another. The marks match where the text starts and
ends, a character matches itself, and a group what is in it. -/
def Spans : Item M.Expr → Nat → Nat → Prop
  | .start, i, j => i = 0 ∧ j = i
  | .finish, i, j => i = text.length ∧ j = i
  | .char c, i, j => text[i]? = some c ∧ j = i + 1
  | .group e, i, j => M.Matches e text i j

/-- Items have matches one after the other. -/
def Follow : List (Item M.Expr) → Nat → Nat → Prop
  | [], i, j => i ≤ text.length ∧ j = i
  | item :: items, i, k => ∃ j, M.Spans text item i j ∧ Follow items j k

/-- The engine does what the manual says. -/
structure Describes (E : Engine) : Prop where
  /-- Only expressions are compiled; there is a match if there is one somewhere in the text. -/
  isMatch_iff : ∀ {s r}, E.compile s = .ok r → ∃ e, M.read? s = some e ∧
    ∀ text, E.isMatch r text = true ↔ ∃ i j, M.Matches e text.toList i j
  /-- What is no expression is refused as such. -/
  compile_of_read?_eq_none : ∀ {s}, M.read? s = none → ∃ m, E.compile s = .error (.malformed m)
  /-- A sequence matches where its items do, one after the other. -/
  matches_sequence_iff : ∀ {items text i j},
    M.Matches (M.sequence items) text i j ↔ M.Follow text items i j
  /-- A group that is opened in an expression is closed by a parenthesis, and there is an expression up
  to it. -/
  group_closes : ∀ {s e}, M.read? ("^(?:" ++ s) = some e →
    ∃ q t, s = q ++ ")" ++ t ∧ (M.read? q).isSome = true
  /-- An expression that stands in a group between the marks is this group between the marks. -/
  read?_anchored : ∀ {s e e'}, M.read? s = some e → M.read? ("^(?:" ++ s ++ ")$") = some e' →
    e' = M.sequence [.start, .group e, .finish]
  /-- An escaped text is read as its characters. -/
  read?_escape : ∀ text, M.read? (E.escape text) = some (M.sequence (text.toList.map .char))

end Manual

end TypeGrading.Pattern
