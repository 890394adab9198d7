/-!
# Log filters

Which records are kept. A filter is written as directives between commas: a level for all targets, or
a target with a level.

* `Level`, `Threshold`: how important a record is, and how important it has to be;
* `Directive.ofText?`, `Filter.ofText`: reading directives;
* `Filter.threshold`, `Filter.keeps`: what a filter keeps.
-/

namespace TypeGrading.Log

/-- How important a record is. -/
inductive Level
  | error | warn | info | debug | trace
  deriving DecidableEq, Repr

namespace Level

/-- The name of a level. -/
def label : Level → String
  | .error => "ERROR"
  | .warn => "WARN"
  | .info => "INFO"
  | .debug => "DEBUG"
  | .trace => "TRACE"

/-- The place of a level, the most important one being the first. -/
def rank : Level → Nat
  | .error => 1
  | .warn => 2
  | .info => 3
  | .debug => 4
  | .trace => 5

end Level

/-- The least important level that is kept; none keeps nothing. -/
abbrev Threshold := Option Level

/-- Records of a level are kept. -/
def Threshold.keeps (t : Threshold) (l : Level) : Bool := t.any fun least => l.rank ≤ least.rank

/-- All thresholds by their names, in the order of their numbers. -/
def thresholds : List (String × Threshold) :=
  [("off", none), ("error", some .error), ("warn", some .warn), ("info", some .info),
    ("debug", some .debug), ("trace", some .trace)]

/-- The text in lower-case letters, as far as they are ASCII. -/
def lowered (s : String) : String := String.ofList (s.toList.map Char.toLower)

/-- The threshold with a name, in any case, or with a number. -/
def thresholdNamed? (s : String) : Option Threshold :=
  match s.toNat? with
  | some n => (thresholds[n]?).map (·.2)
  | none => thresholds.lookup (lowered s)

/-- A threshold for the targets that start with a text, or for all. -/
structure Directive where
  target? : Option String
  threshold : Threshold
  deriving DecidableEq, Repr

namespace Directive

/-- The directive covers a target. -/
def covers (d : Directive) (target : String) : Bool :=
  d.target?.all fun start => start.toList.isPrefixOf target.toList

/-- How much of a target a directive names. -/
def length (d : Directive) : Nat := (d.target?.map fun t => t.length + 1).getD 0

/-- The directive that a text writes: a level, a target with a level behind an equals sign, or a
target alone, which keeps everything. -/
def ofText? (s : String) : Option Directive :=
  match s.splitOn "=" with
  | [word] =>
    match thresholdNamed? word with
    | some t => some ⟨none, t⟩
    | none => some ⟨some word, some .trace⟩
  | [target, ""] => some ⟨some target, some .trace⟩
  | [target, word] => (thresholdNamed? word).map fun t => ⟨some target, t⟩
  | _ => none

end Directive

/-- Directives, the first written first. -/
structure Filter where
  directives : List Directive

namespace Filter

/-- The filter that a text writes. Without any directive, errors are kept. -/
def ofText (s : String) : Filter :=
  match ((s.splitOn ",").filter (· ≠ "")).filterMap Directive.ofText? with
  | [] => ⟨[⟨none, some .error⟩]⟩
  | directives => ⟨directives⟩

/-- The directive that decides about a target: the one that names most of it, of two alike the
later. -/
def deciding? (f : Filter) (target : String) : Option Directive :=
  (f.directives.filter (·.covers target)).foldl (fun best d =>
    match best with
    | none => some d
    | some b => if b.length ≤ d.length then some d else some b) none

/-- The threshold of a target. -/
def threshold (f : Filter) (target : String) : Threshold := (f.deciding? target).bind (·.threshold)

/-- Records of a target and level are kept. -/
def keeps (f : Filter) (target : String) (l : Level) : Bool := (f.threshold target).keeps l

end Filter

end TypeGrading.Log
