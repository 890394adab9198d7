import TypeGrading.Text.Blank
import TypeGrading.Tree.Arena

/-!
# Building trees

A tree grows from an empty arena by edits, each of which may be refused.

* `addRoot`, `add`, `graft`: the edits; they answer with the position of the new record;
* `EditError` with its wording;
* `TypeTree`, `build`: an arena with a root is a finished tree.

No record lies deeper than `maxDepth`.
-/

namespace TypeGrading.Tree

/-- The greatest depth of a record; a root has depth 0. -/
def maxDepth : Nat := 256

/-- Why an edit was refused. -/
inductive EditError
  | depthExceeded (limit : Nat)
  | invalidName (name : String)
  | rootAlreadySet
  | missingRoot
  | unknownNode (id : Nat)
  deriving DecidableEq, Repr

/-- The wording of a refused edit. -/
def EditError.message : EditError → String
  | .depthExceeded limit => "type tree exceeds the maximum depth of " ++ toString limit
  | .invalidName name => "invalid type name `" ++ name ++ "`"
  | .rootAlreadySet => "tree already has a root node"
  | .missingRoot => "tree has no root node"
  | .unknownNode id => "node NodeId(" ++ toString id ++ ") does not belong to this tree"

/-- The characters that structure a descriptor and so cannot be part of a name. -/
def isDelimiter (c : Char) : Bool := c == '<' || c == '>' || c == ','

/-- A name is not blank and free of delimiters. Blanks around it are kept. -/
def IsName (name : String) : Prop :=
  ¬ Text.IsBlank name.toList ∧ ∀ c ∈ name.toList, ¬ isDelimiter c

instance (name : String) : Decidable (IsName name) :=
  @instDecidableAnd _ _ inferInstance (List.decidableBAll (fun c => ¬ isDelimiter c) name.toList)

/-- The reserved name that stands for "no value"; a tree treats it as any other name. -/
def nullName : String := "null"

namespace Arena

/-- The arena has a root. -/
def hasRoot (a : Arena) : Bool := 0 < a.size

/-- The depth of a new child of `parent`, which has to be known and not too deep. -/
def childDepth (a : Arena) (parent : Nat) : Except EditError { _depth : Nat // parent < a.size } :=
  if inside : parent < a.size then
    have : parent < a.records.size := inside
    let depth := a.records[parent].depth + 1
    if depth > maxDepth then .error (.depthExceeded maxDepth) else .ok ⟨depth, inside⟩
  else .error (.unknownNode parent)

/-- Name the root. -/
def addRoot (a : Arena) (name : String) : Except EditError (Nat × Arena) :=
  if a.hasRoot then .error .rootAlreadySet
  else if IsName name then .ok (0, leaf name)
  else .error (.invalidName name)

/-- Add a name as the last child of `parent`. A parent that is unknown or too deep is refused
before the name is looked at. -/
def add (a : Arena) (parent : Nat) (name : String) : Except EditError (Nat × Arena) := do
  let ⟨depth, inside⟩ ← a.childDepth parent
  if IsName name then pure (a.size, a.attach (leaf name) parent depth inside Nat.zero_lt_one)
  else throw (.invalidName name)

/-- Add a name under a parent, or as the root where no parent is given. -/
def addUnder (a : Arena) (parent : Option Nat) (name : String) : Except EditError (Nat × Arena) :=
  match parent with
  | none => a.addRoot name
  | some p => a.add p name

end Arena

/-- A finished tree: an arena with a root. -/
structure TypeTree where
  arena : Arena
  rooted : 0 < arena.size
  deriving DecidableEq

namespace TypeTree

/-- The number of records. -/
def size (t : TypeTree) : Nat := t.arena.size

/-- The tree of the reserved name. -/
def null : TypeTree := ⟨Arena.leaf nullName, by simp⟩

end TypeTree

namespace Arena

/-- Hang a copy of a finished tree under `parent`, as its last child. No record of the copy may lie
too deep. -/
def graft (a : Arena) (parent : Nat) (t : TypeTree) : Except EditError (Nat × Arena) := do
  let ⟨depth, inside⟩ ← a.childDepth parent
  if depth + t.arena.deepest > maxDepth then throw (.depthExceeded maxDepth)
  else pure (a.size, a.attach t.arena parent depth inside t.rooted)

/-- Finish a tree. -/
def build (a : Arena) : Except EditError TypeTree :=
  if rooted : 0 < a.size then .ok ⟨a, rooted⟩ else .error .missingRoot

end Arena

/-- The tree of one name. -/
def TypeTree.leaf (name : String) : Except EditError TypeTree := do
  let (_, a) ← Arena.empty.addRoot name
  a.build

end TypeGrading.Tree
