import TypeGrading.Tree.Build

/-!
# Refused descriptors

Why a descriptor text was refused, where, and how that is worded.

* `Malformation`: what is wrong with the text;
* `Fault`: a malformation at a byte offset, too many nested lists, or a refused edit;
* `DescriptorError`: a fault together with the text.
-/

namespace TypeGrading.Descriptor

open TypeGrading.Tree (EditError)

/-- The greatest number of parameter lists open at once. -/
def maxNesting : Nat := 256

/-- What is wrong with a descriptor text. -/
inductive Malformation
  | emptyDescriptor
  | emptyName
  | emptyParameter
  | unclosedParameterList
  | unexpectedClose
  | trailingInput
  deriving DecidableEq, Repr

/-- The wording of a malformation. -/
def Malformation.text : Malformation → String
  | .emptyDescriptor => "descriptor is empty"
  | .emptyName => "missing type name"
  | .emptyParameter => "empty type parameter"
  | .unclosedParameterList => "`<` is never closed"
  | .unexpectedClose => "`>` has no matching `<`"
  | .trailingInput => "unexpected text after type"

/-- Why a descriptor was refused; offsets count UTF-8 bytes. -/
inductive Fault
  | malformed (offset : Nat) (reason : Malformation)
  | depthExceeded (limit : Nat)
  | edit (error : EditError)
  deriving DecidableEq, Repr

/-- A refused edit as a fault: too great a depth of the tree is too deep a descriptor. -/
def Fault.ofEdit : EditError → Fault
  | .depthExceeded limit => .depthExceeded limit
  | e => .edit e

/-- A refused descriptor. -/
structure DescriptorError where
  descriptor : String
  fault : Fault
  deriving DecidableEq, Repr

namespace DescriptorError

/-- What is wrong with the text, where the text is to blame. -/
def malformation? (e : DescriptorError) : Option Malformation :=
  match e.fault with
  | .malformed _ reason => some reason
  | _ => none

/-- The wording of a refused descriptor. -/
def message (e : DescriptorError) : String :=
  match e.fault with
  | .malformed offset reason =>
    "malformed descriptor `" ++ e.descriptor ++ "` at offset " ++ toString offset ++ ": " ++
      reason.text
  | .depthExceeded limit =>
    "descriptor `" ++ e.descriptor ++ "` nests deeper than " ++ toString limit ++ " levels"
  | .edit error => error.message

end DescriptorError

end TypeGrading.Descriptor
