import TypeGrading.Cache
import TypeGrading.Command.Arguments
import TypeGrading.Command.Failure
import TypeGrading.Command.Libraries
import TypeGrading.Descriptor.Reader
import TypeGrading.Divergence
import TypeGrading.Pattern.NamePattern

/-!
# Running commands

A command looks at files, tells of events, writes to its output, and passes or does not pass its
check.

* `Trace`, `Run`: what a command leaves behind, and steps of commands;
* `loadHierarchy`: the hierarchy of the config in force;
* `Comparison`, `compareTrees`: two trees compared through one cache;
* `run`: a whole command.
-/

namespace TypeGrading.Command

open Descriptor (DescriptorError)
open Files (Volume)
open Text (Json)
open TypeGrading.Tree (TypeTree)

/-! ### Steps -/

/-- What a command has told of and written so far. -/
structure Trace where
  events : List Event
  written : String
  deriving Inhabited

/-- Nothing was told of, nothing written. -/
def Trace.start : Trace := ⟨[], ""⟩

/-- A step of a command. What was done before a failure stays done. -/
abbrev Run := ExceptT Failure (StateM Trace)

namespace Run

/-- Tell of events. -/
def tell (events : List Event) : Run Unit := modify fun t => { t with events := t.events ++ events }

/-- Write to the output. -/
def write (text : String) : Run Unit := modify fun t => { t with written := t.written ++ text }

end Run

/-- Read a descriptor. -/
def readDescriptor (descriptor : String) : Run TypeTree :=
  match Descriptor.parse descriptor with
  | .ok t => do
    Run.tell [.descriptorParsed descriptor 0]
    pure t
  | .error e => do
    Run.tell [.descriptorRejected e]
    throw (.descriptor e)

/-- The config that is named, seen from the working directory, or the nearest one above it. -/
def configPath? (v : Volume) (directory : String) (config? : Option String) : Option String :=
  match config? with
  | some path => some (Files.Path.join directory path)
  | none => Config.find? v directory

/-- The hierarchy of the config in force; without a config nothing is known. -/
def loadHierarchy (lib : Libraries) (v : Volume) (directory : String) (config? : Option String) :
    Run Hierarchy :=
  match configPath? v directory config? with
  | none => do
    Run.tell [.noConfigFound]
    pure .empty
  | some path => do
    let (events, loaded) := Config.load lib.readConfig v path
    Run.tell (.loadingConfig path :: events)
    match loaded with
    | .ok config => pure config.toHierarchy
    | .error e => throw (.config e)

/-! ### Comparing -/

/-- What a comparison comes to: the grade, and, if identity is demanded, what speaks against it. -/
structure Comparison where
  grade : Grade
  mismatch : Option Mismatch
  deriving DecidableEq

/-- Compare two trees through one cache: what comes of it, what was told of, and how many pairs were
remembered. -/
def compareTrees (h : Hierarchy) (left right : TypeTree) (strict : Bool) :
    Comparison × List Event × Nat :=
  let (grade, s) := (Compare.gradePair left.root right.root).inSession h.relate .start
  let (mismatch, s) :=
    if strict then
      match (Compare.strict left.root (some right.root)).inSession h.relate s with
      | (.ok _, s) => (none, s)
      | (.error m, s) => (some m, s)
    else (none, s)
  (⟨grade, mismatch⟩, s.events, s.cache.size)

/-- A divergence as JSON. -/
def divergenceJson (d : Divergence) : Json :=
  .object [("sourceType", .text d.source), ("targetType", .text d.target),
    ("grade", .number d.grade.code), ("path", .list (d.path.map fun i => .number (Int.ofNat i)))]

/-- A comparison as JSON. -/
def Comparison.json (c : Comparison) (left right : TypeTree) : Json :=
  .object <|
    [("left", .text left.canonical), ("right", .text right.canonical),
      ("grade", .number c.grade.code)] ++
    (c.mismatch.map fun m => ("error", .text m.message)).toList ++
    ((c.mismatch.bind Mismatch.divergence).map fun d => ("divergence", divergenceJson d)).toList

/-- A comparison as lines. -/
def Comparison.lines (c : Comparison) : List String :=
  c.grade.text ::
    ((c.mismatch.map fun m => "error: " ++ m.message).toList ++
      ((c.mismatch.bind Mismatch.divergence).map fun d =>
        "  first difference: " ++ d.text).toList)

/-- Lines as they are written. -/
def ofLines (lines : List String) : String := String.join (lines.map (· ++ "\n"))

/-! ### Commands -/

variable (lib : Libraries)

/-- Read a descriptor and write its tree. -/
def runParse (descriptor : String) (json : Bool) : Run Bool := do
  let t ← readDescriptor descriptor
  Run.write (ofLines [if json then lib.writeJson t.root.toExpr.toJson else t.canonical])
  pure true

/-- Compare two descriptors and write what comes of it. -/
def runCompare (h : Hierarchy) (left right : String) (strict json : Bool) : Run Bool := do
  let l ← readDescriptor left
  let r ← readDescriptor right
  let (comparison, events, cached) := compareTrees h l r strict
  Run.tell (events ++ [.comparisonFinished comparison.grade cached])
  Run.write (ofLines (if json then [lib.writeJson (comparison.json l r)] else comparison.lines))
  pure comparison.mismatch.isNone

/-- Write the first parameter of a descriptor whose name matches a pattern. -/
def runFind (descriptor pattern : String) : Run Bool := do
  let t ← readDescriptor descriptor
  match NamePattern.ofText lib.patterns pattern with
  | .error e => throw (.pattern pattern e)
  | .ok p =>
    match t.root.firstChild p.isMatch with
    | none => pure false
    | some child => do
      Run.write (ofLines [child.canonical])
      pure true

/-- Carry out a command in a working directory. The answer says whether its check was passed. -/
def runCommand (v : Volume) (directory : String) (a : Arguments) : Run Bool :=
  match a.command with
  | .parse descriptor json => runParse lib descriptor json
  | .compare left right strict json => do
    let h ← loadHierarchy lib v directory a.config?
    runCompare lib h left right strict json
  | .find descriptor pattern => runFind lib descriptor pattern

/-- What a command comes to, what it told of and what it wrote. -/
def run (v : Volume) (directory : String) (a : Arguments) : Except Failure Bool × Trace :=
  (runCommand lib v directory a).run .start

end TypeGrading.Command
