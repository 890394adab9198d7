/-!
# Regular expressions

What a pattern means, and where it matches.

* `Regex`: the expressions; sets of characters and demands on places are functions;
* `Regex.Spans`: an expression matches a part of a text;
* `Places`: sets of places in a text, as the bits of a number;
* `Regex.reach`: the places where matches end that start at given places;
* `Regex.found`: a text has a match somewhere.
-/

namespace TypeGrading.Pattern

/-- A regular expression. -/
inductive Regex where
  | empty
  | one (test : Char → Bool)
  | look (test : Option Char → Option Char → Bool)
  | seq (r s : Regex)
  | alt (r s : Regex)
  | repetition (min : Nat) (max : Option Nat) (r : Regex)

/-- The character in front of a place. -/
def before? (text : List Char) (i : Nat) : Option Char := if i = 0 then none else text[i - 1]?

namespace Regex

/-- The expression matches the part of a text from one place to another. -/
inductive Spans (text : List Char) : Regex → Nat → Nat → Prop
  | empty {i} : i ≤ text.length → Spans text .empty i i
  | one {test c i} : text[i]? = some c → test c = true → Spans text (.one test) i (i + 1)
  | look {test i} : i ≤ text.length → test (before? text i) text[i]? = true →
      Spans text (.look test) i i
  | seq {r s i j k} : Spans text r i j → Spans text s j k → Spans text (.seq r s) i k
  | altLeft {r s i j} : Spans text r i j → Spans text (.alt r s) i j
  | altRight {r s i j} : Spans text s i j → Spans text (.alt r s) i j
  | stop {max r i} : i ≤ text.length → Spans text (.repetition 0 max r) i i
  | must {n max r i j k} : max ≠ some 0 → Spans text r i j →
      Spans text (.repetition n (max.map (· - 1)) r) j k → Spans text (.repetition (n + 1) max r) i k
  | may {max r i j k} : max ≠ some 0 → Spans text r i j →
      Spans text (.repetition 0 (max.map (· - 1)) r) j k → Spans text (.repetition 0 max r) i k

/-! ### Places -/

/-- Places in a text: the place in front of character `i` is bit `i`. -/
abbrev Places := Nat

/-- The places below `n` that pass a test. -/
def placesWhere (test : Nat → Bool) : Nat → Places
  | 0 => 0
  | n + 1 => placesWhere test n ||| (if test n then 1 <<< n else 0)

@[simp] theorem testBit_placesWhere (test : Nat → Bool) (n i : Nat) :
    (placesWhere test n).testBit i = (decide (i < n) && test i) := by
  induction n with
  | zero => simp [placesWhere]
  | succ n ih =>
    have hbit : (if test n then 1 <<< n else 0).testBit i = (decide (n = i) && test i) := by
      by_cases hn : n = i
      · subst hn
        by_cases ht : test n <;> simp [ht, Nat.one_shiftLeft]
      · by_cases ht : test n <;> simp [ht, hn, Nat.one_shiftLeft]
    rw [placesWhere, Nat.testBit_or, ih, hbit, ← Bool.and_or_distrib_right, ← Bool.decide_or]
    congr 1
    exact decide_eq_decide.2 (by omega)

/-- Apply `step` at most `n` times, up to the first time that nothing changes. -/
def settle (step : Places → Places) : Nat → Places → Places
  | 0, from_ => from_
  | n + 1, from_ =>
    let next := step from_
    if next = from_ then from_ else settle step n next

/-! ### Matching -/

/-- The places where matches end that start at one of the given places. A greatest count below the
least one leads nowhere; without a greatest count, more repetitions than there are places lead nowhere
else. -/
def reach (text : List Char) : Regex → Places → Places
  | .empty, from_ => from_
  | .one test, from_ =>
    (from_ &&& placesWhere (fun i => text[i]?.any test) text.length) <<< 1
  | .look test, from_ =>
    from_ &&& placesWhere (fun i => test (before? text i) text[i]?) (text.length + 1)
  | .seq r s, from_ => reach text s (reach text r from_)
  | .alt r s, from_ => reach text r from_ ||| reach text s from_
  | .repetition min max r, from_ =>
    if from_ = 0 ∨ max.any (· < min) then 0
    else
      let more := match max with
        | none => text.length + 1
        | some m => m - min
      settle (fun places => places ||| reach text r places) more
        (settle (reach text r) min from_)

/-- All places in a text. -/
def allPlaces (text : List Char) : Places := placesWhere (fun _ => true) (text.length + 1)

/-- Some part of the text matches. -/
def found (r : Regex) (text : List Char) : Bool := r.reach text (allPlaces text) ≠ 0

end Regex

end TypeGrading.Pattern
