import TypeGrading.Command.Run
import TypeGrading.Log.Format

/-!
# Whole runs of the program

A command line, the environment and the files decide what a run writes and how it exits.

* `Outcome`: what can be seen of a run;
* `process`: a whole run.
-/

namespace TypeGrading.Command

open Files (Volume)
open Log (Environment Sink)

/-- What can be seen of a run: its exit code, its output, and what is written aside. Nothing is said
here about texts that explain how to use the program. -/
structure Outcome where
  exitCode : Nat
  output : String
  aside : Option (List String)
  deriving DecidableEq, Repr

/-- The name of the program with its version. -/
def versionText : String := "sigtree 0.1.0"

/-- The exit code of a command that was carried out. -/
def exitCode (passed : Bool) : Nat := if passed then 0 else 1

/-- A run whose words ask for no command: the version is shown, or how to use the program. -/
def Notice.outcome (n : Notice) : Outcome :=
  if n = .version then ⟨n.exitCode, ofLines [versionText], some []⟩
  else ⟨n.exitCode, "", none⟩

/-- The lines of a log. -/
def logLines (env : Environment) (events : List Event) : List String :=
  match Sink.ofEnvironment? env with
  | none => []
  | some sink => sink.lines events

/-- A run of a command. -/
def runOutcome (lib : Libraries) (v : Volume) (directory : String) (env : Environment)
    (a : Arguments) : Outcome :=
  let (result, trace) := run lib v directory a
  let log := logLines env trace.events
  match result with
  | .ok passed => ⟨exitCode passed, trace.written, some log⟩
  | .error failure => ⟨1, trace.written, some (log ++ [failure.report])⟩

/-- A whole run: the files, the working directory, the environment and the words of the command
line. -/
def process (lib : Libraries) (v : Volume) (directory : String) (env : Environment)
    (words : List String) : Outcome :=
  match Arguments.parse words with
  | .ok a => runOutcome lib v directory env a
  | .error notice => notice.outcome

end TypeGrading.Command
