import TypeGrading.Log.Record
import TypeGrading.Text.Json
import TypeGrading.Text.Quoted

/-!
# Log lines

How records are written, and which of them.

* `Format`: the three forms of a line;
* `Record.line`: a record in one of them;
* `Sink`: a filter and a form, as the environment asks for them;
* `Sink.lines`: the lines for some events.
-/

namespace TypeGrading.Log

/-- The form of a line. -/
inductive Format
  | text | tree | json
  deriving DecidableEq, Repr

/-- The form with a name, in any case; other names mean text. -/
def Format.named (s : String) : Format :=
  match lowered s with
  | "tree" => .tree
  | "json" => .json
  | _ => .text

/-- The text of a value between others. -/
def Value.text : Value → String
  | .quoted s => Text.quote s
  | .number n => toString n
  | .plain s => s

/-- A value as JSON. -/
def Value.json : Value → Text.Json
  | .quoted s | .plain s => .text s
  | .number n => .number n

/-- The values of a record, each behind its name. -/
def Record.assignments (r : Record) : List String :=
  r.fields.map fun (name, value) => name ++ "=" ++ value.text

/-- The values of a record and its message as JSON. -/
def Record.json (r : Record) : Text.Json :=
  .object
    [("level", .text r.level.label),
      ("fields", .object (("message", .text r.message) ::
        r.fields.map fun (name, value) => (name, value.json))),
      ("target", .text r.target)]

/-- A record as a line. -/
def Record.line (r : Record) : Format → String
  | .text =>
    " ".intercalate ((r.level.label ++ " " ++ r.target ++ ": " ++ r.message) :: r.assignments)
  | .tree =>
    ", ".intercalate ((r.level.label ++ " " ++ r.target ++ " " ++ r.message) :: r.assignments)
  | .json => r.json.compact

/-- What is kept of the records, and how it is written. -/
structure Sink where
  filter : Filter
  format : Format

/-- The settings of a run from outside: values by name. -/
abbrev Environment := List (String × String)

/-- The name of the setting with the filter that comes first. -/
def filterSetting : String := "SIGTREE_LOG"

/-- The name of the setting with the filter that comes second. -/
def sharedFilterSetting : String := "RUST_LOG"

/-- The name of the setting with the form of lines. -/
def formatSetting : String := "SIGTREE_LOG_FORMAT"

/-- The sink that the environment asks for, if it asks for one. -/
def Sink.ofEnvironment? (env : Environment) : Option Sink :=
  ((env.lookup filterSetting).or (env.lookup sharedFilterSetting)).map fun filter =>
    ⟨.ofText filter, .named ((env.lookup formatSetting).getD "")⟩

/-- The records of some events that are kept. -/
def Sink.kept (s : Sink) (events : List Event) : List Record :=
  (events.map Event.record).filter fun r => s.filter.keeps r.target r.level

/-- The lines for some events. -/
def Sink.lines (s : Sink) (events : List Event) : List String :=
  (s.kept events).map (·.line s.format)

end TypeGrading.Log
