/-!
# Command line arguments

The words of a command line as a command with its settings. Words are read from the left to the right.
The path of a config may be given in front of the command or behind it; it is taken up only when
the next option or word comes, or at the end.

* `Action`, `Arguments`: what a command line asks for;
* `Notice`: why nothing is run;
* `Scan`, `Scan.word`: the words of one level, and one more of them;
* `Arguments.parse`: a whole command line.
-/

namespace TypeGrading.Command

/-- What there is to do. -/
inductive Action
  | parse (descriptor : String) (json : Bool)
  | compare (left right : String) (strict json : Bool)
  | find (descriptor pattern : String)
  deriving DecidableEq, Repr

/-- A command and the config that is named for it. -/
structure Arguments where
  config? : Option String
  command : Action
  deriving DecidableEq, Repr

/-- Why nothing is run: help or the version are asked for, or the words are not understood. -/
inductive Notice
  | help
  | version
  | helpForNothing
  | missingCommand
  | unknownCommand
  | unknownArgument
  | missingArgument
  | missingValue
  | unwantedValue
  | repeated
  deriving DecidableEq, Repr

/-- Asking for help or for the version is no mistake. -/
def Notice.exitCode : Notice → Nat
  | .help | .version => 0
  | _ => 2

/-! ### What may be written -/

/-- The commands without their words. -/
inductive Verb
  | parse | compare | find
  deriving DecidableEq, Repr

/-- A switch of a command. -/
inductive Switch
  | json | strict
  deriving DecidableEq, Repr

/-- What an option does. -/
inductive Choice
  | help
  | version
  | config
  | switch (s : Switch)
  deriving DecidableEq, Repr

/-- The command of a word. -/
def Verb.named? (word : String) : Option Verb :=
  [("parse", Verb.parse), ("compare", .compare), ("find", .find)].lookup word

/-- The word is a command, or asks for help. -/
def isVerbOrHelp (word : String) : Bool := word == "help" || (Verb.named? word).isSome

/-- Where words stand: in front of the command, or behind it. -/
abbrev Place := Option Verb

/-- The long options of a place. -/
def Place.long? (place : Place) (name : String) : Option Choice :=
  let common := [("config", Choice.config), ("help", .help)]
  let own := match place with
    | none => [("version", Choice.version)]
    | some .parse => [("json", .switch .json)]
    | some .compare => [("strict", .switch .strict), ("json", .switch .json)]
    | some .find => []
  (common ++ own).lookup name

/-- The short options of a place. -/
def Place.short? (place : Place) (c : Char) : Option Choice :=
  if c = 'c' then some .config
  else if c = 'h' then some .help
  else if c = 'V' ∧ place = none then some .version
  else none

/-- How many words a place takes that are no options. -/
def Place.arity : Place → Nat
  | none => 0
  | some .parse => 1
  | some .compare | some .find => 2

/-! ### Words of one level -/

/-- An option whose value is not taken up yet. -/
inductive Pending
  | nothing
  | awaiting
  | holding (value : String)
  deriving DecidableEq, Repr

/-- The words of one place, as far as they were read. -/
structure Scan where
  switches : List Switch
  config? : Option String
  pending : Pending
  words : List String
  plainOnly : Bool
  deriving DecidableEq, Repr

namespace Scan

/-- Nothing was read. -/
def start : Scan := ⟨[], none, .nothing, [], false⟩

/-- Take up the path of a config: there is one at most, and it is not empty. -/
def takeConfig (s : Scan) (value : String) : Except Notice Scan :=
  if s.config?.isSome then .error .repeated
  else if value = "" then .error .missingValue
  else .ok { s with config? := some value }

/-- Take up what is pending. -/
def settle (s : Scan) : Except Notice Scan :=
  match s.pending with
  | .nothing => .ok s
  | .awaiting => .error .missingValue
  | .holding value => takeConfig { s with pending := .nothing } value

/-- An option with a value that is written with it. -/
def config (s : Scan) (value : String) : Except Notice Scan := do (← s.settle).takeConfig value

/-- The option waits for its value. -/
def await (s : Scan) : Except Notice Scan := do
  let s ← s.settle
  pure { s with pending := .awaiting }

/-- An option without a value does its work; a switch may be given once. -/
def choose (s : Scan) (choice : Choice) : Except Notice Scan := do
  let s ← s.settle
  match choice with
  | .help => throw .help
  | .version => throw .version
  | .config => pure s
  | .switch w => if w ∈ s.switches then throw .repeated else pure { s with switches := w :: s.switches }

/-- A long option, with the value behind its equals sign if there is one. -/
def long (place : Place) (s : Scan) (name : String) (value : Option String) : Except Notice Scan :=
  match place.long? name, value with
  | none, _ => .error .unknownArgument
  | some .config, none => s.await
  | some .config, some value => s.config value
  | some choice, none => s.choose choice
  | some _, some _ => .error .unwantedValue

/-- Short options behind one hyphen. What follows the one with a value is its value; an equals sign
in front of it is left out. -/
def short (place : Place) (s : Scan) : List Char → Except Notice Scan
  | [] => .ok s
  | c :: rest =>
    match place.short? c with
    | none => .error .unknownArgument
    | some .config =>
      match rest with
      | [] => s.await
      | '=' :: value => s.config (String.ofList value)
      | value => s.config (String.ofList value)
    | some choice => do (← s.choose choice).short place rest

/-- A word that there is no room for. -/
def surplus (place : Place) (s : Scan) (word : String) : Notice :=
  if place.isSome then .unknownArgument
  else if s.plainOnly && isVerbOrHelp word then .unknownArgument
  else .unknownCommand

/-- A word that is no option. -/
def plain (place : Place) (s : Scan) (word : String) : Except Notice Scan := do
  if s.words.length < place.arity then
    let s ← s.settle
    pure { s with words := s.words ++ [word] }
  else throw (s.surplus place word)

/-- The name and the value of a long option. -/
def splitLong (s : List Char) : String × Option String :=
  match s.dropWhile (· ≠ '=') with
  | [] => (String.ofList s, none)
  | _ :: value => (String.ofList (s.takeWhile (· ≠ '=')), some (String.ofList value))

/-- One more word. Behind two hyphens that stand alone no word is an option. -/
def word (place : Place) (s : Scan) (w : String) : Except Notice Scan :=
  if s.plainOnly then s.plain place w
  else
    match w.toList with
    | ['-', '-'] => .ok { s with plainOnly := true }
    | '-' :: '-' :: rest =>
      let (name, value) := splitLong rest
      s.long place name value
    | '-' :: c :: rest => s.short place (c :: rest)
    | _ =>
      if s.pending = .awaiting then .ok { s with pending := .holding w }
      else s.plain place w

/-- The words of a command, read to the end. -/
def run (place : Place) (s : Scan) (words : List String) : Except Notice Scan := do
  (← words.foldlM (Scan.word place) s).settle

end Scan

/-! ### Whole command lines -/

/-- The command of a verb and what was read behind it. -/
def Verb.command (v : Verb) (s : Scan) : Except Notice Action :=
  match v, s.words with
  | .parse, [descriptor] => .ok (.parse descriptor (.json ∈ s.switches))
  | .compare, [left, right] =>
    .ok (.compare left right (.strict ∈ s.switches) (.json ∈ s.switches))
  | .find, [descriptor, pattern] => .ok (.find descriptor pattern)
  | _, _ => .error .missingArgument

/-- What asking for help comes to: the word behind it has to be a command, and the last. -/
def helpNotice : List String → Notice
  | [] => .help
  | [word] => if isVerbOrHelp word then .help else .unknownCommand
  | _ => .unknownCommand

namespace Arguments

/-- A command behind its verb. The path of a config in front of the verb is taken up last, and gives
way to one behind it. -/
def ofVerb (s : Scan) (v : Verb) (words : List String) : Except Notice Arguments := do
  let inner ← Scan.start.run (some v) words
  let command ← v.command inner
  let outer ← s.settle
  pure ⟨inner.config?.or outer.config?, command⟩

/-- The words in front of a command, and the command. -/
def parseFrom (s : Scan) : List String → Except Notice Arguments
  | [] => do
    let s ← s.settle
    throw (if s.config?.isSome then .missingCommand else .helpForNothing)
  | w :: words =>
    if s.plainOnly ∨ s.pending = .awaiting then do parseFrom (← s.word none w) words
    else if w = "help" then .error (helpNotice words)
    else
      match Verb.named? w with
      | some v => ofVerb s v words
      | none => do parseFrom (← s.word none w) words

/-- What the words of a command line ask for. -/
def parse (words : List String) : Except Notice Arguments := parseFrom .start words

end Arguments

end TypeGrading.Command
