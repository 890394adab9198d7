import TypeGrading.Descriptor.Error
import TypeGrading.Tree.Node

/-!
# Reading descriptors

A descriptor is a name, or a name followed by a parameter list: descriptors between `<` and `>`,
parted by `,`. The reader takes it character by character and adds each name to an arena as soon
as the name ends.

* `Reader`: the arena so far, the bytes read, the open lists, and what is being read;
* `Reader.step`, `Reader.finish`: one character, and the end of the text;
* `readUnder`: read a whole text into an arena; a refused text leaves the arena as it was;
* `parse`: read a text into a tree of its own.

The reader stops at the first character after which no continuation is a descriptor.
-/

namespace TypeGrading.Descriptor

open TypeGrading.Tree

/-- A parameter list that is not closed yet: the node whose list it is, and the offset of `<`. -/
structure OpenList where
  owner : Nat
  offset : Nat
  deriving DecidableEq, Repr

/-- What the reader is in: a name that began at an offset, with its characters so far, last one
first; or the gap after the closed list of a node. -/
inductive Phase
  | naming (start : Nat) (reversed : List Char)
  | closed (node : Nat)
  deriving DecidableEq, Repr

/-- The state of the reader between two characters. The innermost open list comes first. -/
structure Reader where
  arena : Arena
  parent : Option Nat
  offset : Nat
  opened : List OpenList
  phase : Phase
  deriving DecidableEq

/-- A reader that stopped: the fault, and the arena with what was added until then. -/
structure Stopped where
  fault : Fault
  arena : Arena
  deriving DecidableEq

namespace Reader

/-- A reader before the first character; the type read is to hang under `parent`. -/
def start (a : Arena) (parent : Option Nat) : Reader := ⟨a, parent, 0, [], .naming 0 []⟩

/-- Stop with a malformation. -/
def malformed {α : Type} (r : Reader) (offset : Nat) (reason : Malformation) : Except Stopped α :=
  .error ⟨.malformed offset reason, r.arena⟩

/-- Where the next name belongs: under the owner of the innermost open list. -/
def owner (r : Reader) : Option Nat :=
  match r.opened with
  | [] => r.parent
  | l :: _ => some l.owner

/-- Why a name is missing that ends at `next`, a delimiter or the end of the text. -/
def missingName (r : Reader) (next : Option Char) : Malformation :=
  match r.opened, next with
  | [], none => .emptyDescriptor
  | [], some '>' => .unexpectedClose
  | [], some _ => .emptyName
  | _ :: _, some '<' => .emptyName
  | _ :: _, _ => .emptyParameter

/-- The type read last ends here, before `next`: a name is added to the arena. -/
def endName (r : Reader) (next : Option Char) : Except Stopped (Nat × Arena) :=
  match r.phase with
  | .closed node => .ok (node, r.arena)
  | .naming start reversed =>
    let name := Text.trim reversed.reverse
    if name = [] then r.malformed start (r.missingName next)
    else match r.arena.addUnder r.owner (String.ofList name) with
      | .ok added => .ok added
      | .error e => .error ⟨.ofEdit e, r.arena⟩

/-- Take `<`: it opens the parameter list of the name before it. -/
def openList (r : Reader) : Except Stopped Reader :=
  match r.phase with
  | .closed _ => r.malformed r.offset .trailingInput
  | .naming .. => do
    let (node, arena) ← r.endName (some '<')
    if r.opened.length + 1 > maxNesting then throw ⟨.depthExceeded maxNesting, arena⟩
    pure { r with
      arena
      offset := r.offset + 1
      opened := ⟨node, r.offset⟩ :: r.opened
      phase := .naming (r.offset + 1) [] }

/-- Take `>`: it closes the innermost open list. -/
def closeList (r : Reader) : Except Stopped Reader := do
  let (_, arena) ← r.endName (some '>')
  match r.opened with
  | [] => throw ⟨.malformed r.offset .unexpectedClose, arena⟩
  | l :: outer =>
    pure { r with arena, offset := r.offset + 1, opened := outer, phase := .closed l.owner }

/-- Take `,`: the next parameter of the innermost open list begins. -/
def nextParameter (r : Reader) : Except Stopped Reader := do
  let (_, arena) ← r.endName (some ',')
  match r.opened with
  | [] => throw ⟨.malformed r.offset .trailingInput, arena⟩
  | _ :: _ => pure { r with arena, offset := r.offset + 1, phase := .naming (r.offset + 1) [] }

/-- Take a character of a name, or a blank after a closed list. -/
def takeChar (r : Reader) (c : Char) : Except Stopped Reader :=
  match r.phase with
  | .naming start reversed =>
    .ok { r with offset := r.offset + c.utf8Size, phase := .naming start (c :: reversed) }
  | .closed _ =>
    if Text.isBlank c then .ok { r with offset := r.offset + c.utf8Size }
    else r.malformed r.offset .trailingInput

/-- Take one character. -/
def step (r : Reader) (c : Char) : Except Stopped Reader :=
  if c = '<' then r.openList
  else if c = '>' then r.closeList
  else if c = ',' then r.nextParameter
  else r.takeChar c

/-- The text ends here: the position of the type read, and the arena that holds it. -/
def finish (r : Reader) : Except Stopped (Nat × Arena) := do
  let (node, arena) ← r.endName none
  match r.opened with
  | [] => pure (node, arena)
  | l :: _ => throw ⟨.malformed l.offset .unclosedParameterList, arena⟩

/-- Take the characters of a text in order. -/
def run (r : Reader) (text : List Char) : Except Stopped Reader := text.foldlM step r

end Reader

/-- Read a descriptor into an arena, as the last child of `parent` or as the root: the position of
the type read, and the arena afterwards. What a refused descriptor left behind is forgotten. -/
def readUnder (a : Arena) (descriptor : String) (parent : Option Nat) :
    Except DescriptorError Nat × Arena :=
  match (Reader.start a parent).run descriptor.toList >>= Reader.finish with
  | .ok (node, arena) => (.ok node, arena)
  | .error stopped => (.error ⟨descriptor, stopped.fault⟩, stopped.arena.truncate a.size)

/-- Read a descriptor into a tree of its own. -/
def parse (descriptor : String) : Except DescriptorError TypeTree :=
  match readUnder Arena.empty descriptor none with
  | (.error e, _) => .error e
  | (.ok _, arena) =>
    match arena.build with
    | .ok tree => .ok tree
    | .error e => .error ⟨descriptor, .ofEdit e⟩

end TypeGrading.Descriptor
