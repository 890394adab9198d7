import TypeGrading.Config.Loading
import TypeGrading.Descriptor.Error
import TypeGrading.Pattern.Engine

/-!
# Failures

Why a command could not be carried out, as a chain of causes from the outermost to the innermost.

* `Failure`: the failures;
* `Cause`, `Failure.chain`: what is said about one;
* `Failure.report`: how it is written for a user.
-/

namespace TypeGrading.Command

open Config (LoadError TextFault)
open Descriptor (DescriptorError)
open Files (FileFault)
open Pattern (PatternError)

/-- Why a command could not be carried out. -/
inductive Failure
  | descriptor (e : DescriptorError)
  | pattern (source : String) (e : PatternError)
  | config (e : LoadError)
  deriving DecidableEq

/-- One link of a chain of causes. -/
inductive Cause
  | said (text : String)
  | file (fault : FileFault)
  | json (fault : TextFault)
  | pattern (e : PatternError)
  deriving DecidableEq

/-- The wording of a text that is no config. -/
def textFaultMessage : TextFault → String
  | .malformed => "malformed JSON"
  | .truncated => "the JSON text ends too early"
  | .mistyped => "the JSON value is no config"

/-- The wording of a cause. -/
def Cause.text : Cause → String
  | .said text => text
  | .file fault => fault.message
  | .json fault => textFaultMessage fault
  | .pattern e => e.message

/-- What is said about a text that is no config. -/
def configTextChain (fault : TextFault) : List Cause :=
  [.said "failed to parse hierarchy config JSON", .json fault]

/-- What is said about a config that could not be loaded. -/
def loadChain : LoadError → List Cause
  | .unreadable path fault => [.said ("failed to read config: " ++ path), .file fault]
  | .invalid path fault => .said ("failed to parse config: " ++ path) :: configTextChain fault
  | .cycle path => [.said ("config extends cycle detected at " ++ path)]
  | .noDirectory => [.said "config has no parent directory"]

/-- What is said about a failure, from the outermost cause to the innermost. -/
def Failure.chain : Failure → List Cause
  | .descriptor e => [.said ("invalid descriptor `" ++ e.descriptor ++ "`"), .said e.message]
  | .pattern source e => [.said ("invalid name pattern `" ++ source ++ "`"), .pattern e]
  | .config e => loadChain e

/-- A text behind a mark, its other lines behind a margin. -/
def indented (mark margin text : String) : String :=
  mark ++ ("\n" ++ margin).intercalate (text.splitOn "\n")

/-- Causes below one another; where there are several, they are numbered. -/
def listCauses (causes : List String) : List String :=
  match causes with
  | [cause] => [indented "    " "    " cause]
  | _ => causes.mapIdx fun i cause =>
    let number := toString i
    indented (String.ofList (List.replicate (5 - number.length) ' ') ++ number ++ ": ") "       " cause

/-- How a failure is written for a user: its outermost cause, and the others in a list. -/
def Failure.report (f : Failure) : String :=
  match f.chain.map Cause.text with
  | [] => "Error: "
  | [first] => "Error: " ++ first
  | first :: causes =>
    "\n".intercalate (("Error: " ++ first) :: "" :: "Caused by:" :: listCauses causes)

end TypeGrading.Command
