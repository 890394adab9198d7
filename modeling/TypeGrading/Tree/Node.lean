import TypeGrading.Text.Quoted
import TypeGrading.Tree.Build
import TypeGrading.Tree.TypeExpr

/-!
# Nodes

A node is a place in an arena. Everything that reads a tree starts from one.

* `name`, `depth`, `parentId`, `childIds`, `children`: what the record says;
* `toExpr`: the type expression below a node;
* `canonical`, `debugText`: its canonical text, `A<B<C, D>, E>`, and what is shown of it alone;
* `childAt`, `firstChild`: reaching a child by position or by name.

Links point forward, so `below`, the number of records behind a node, bounds every walk down.
-/

namespace TypeGrading.Tree

/-- A place in an arena. -/
structure Node where
  arena : Arena
  id : Nat
  inside : id < arena.size

/-- A child position that does not exist. -/
structure IndexError where
  name : String
  index : Nat
  count : Nat
  deriving DecidableEq, Repr

/-- The wording of a child position that does not exist. -/
def IndexError.message (e : IndexError) : String :=
  "child index " ++ toString e.index ++ " is out of range for `" ++ e.name ++ "` with " ++
    toString e.count ++ " children"

namespace Node

/-- The record at the node. -/
def record (n : Node) : Record :=
  have : n.id < n.arena.records.size := n.inside
  n.arena.records[n.id]

/-- The name at the node. -/
def name (n : Node) : String := n.record.name

/-- The distance from the root. -/
def depth (n : Node) : Nat := n.record.depth

/-- The position of the enclosing node, if any. -/
def parentId (n : Node) : Option Nat := n.record.parent

/-- The positions of the children in order. -/
def childIds (n : Node) : List Nat := n.record.children

/-- The children in order. -/
def children (n : Node) : List Node :=
  n.childIds.attach.map fun c => ⟨n.arena, c.1, (n.arena.forward n.id n.inside c.1 c.2).2⟩

/-- The node has no children. -/
def isLeaf (n : Node) : Bool := n.childIds.isEmpty

/-- The node has no parent. -/
def isRoot (n : Node) : Bool := n.parentId.isNone

/-- The number of records from the node on. -/
def below (n : Node) : Nat := n.arena.size - n.id

@[simp] theorem length_children (n : Node) : n.children.length = n.childIds.length := by
  simp [children]

/-- A child lies further on in the arena. -/
theorem below_lt_of_mem {n c : Node} (h : c ∈ n.children) : c.below < n.below := by
  simp only [children, List.mem_map, List.mem_attach, true_and, Subtype.exists] at h
  obtain ⟨d, hd, rfl⟩ := h
  have hlink := n.arena.forward n.id n.inside d hd
  have hin := n.inside
  simp only [below, Arena.size] at *
  omega

/-- The child at a position. -/
def childAt (n : Node) (index : Nat) : Except IndexError Node :=
  match n.children[index]? with
  | some c => .ok c
  | none => .error ⟨n.name, index, n.childIds.length⟩

/-- Follow child positions from a node. -/
def walk (n : Node) : List Nat → Except IndexError Node
  | [] => .ok n
  | i :: path => do (← n.childAt i).walk path

/-- The first child whose name passes the test; grandchildren are not looked at. -/
def firstChild (n : Node) (test : String → Bool) : Option Node :=
  n.children.find? fun c => test c.name

/-- The type expression below a node. -/
def toExpr (n : Node) : TypeExpr :=
  .app n.name (n.children.attach.map fun c => toExpr c.1)
termination_by n.below
decreasing_by exact below_lt_of_mem c.2

/-- The canonical text of a node: a list of parameters stands between angle brackets, parted by a
comma and one space. -/
def canonical (n : Node) : String :=
  if n.isLeaf then n.name
  else n.name ++ "<" ++ ", ".intercalate (n.children.attach.map fun c => canonical c.1) ++ ">"
termination_by n.below
decreasing_by exact below_lt_of_mem c.2

/-- What is shown of a node where it is looked at by itself. -/
def debugText (n : Node) : String :=
  "NodeRef \x7b id: NodeId(" ++ toString n.id ++ "), name: " ++ Text.quote n.name ++
    ", children: " ++ toString n.childIds.length ++ " \x7d"

end Node

/-- The root of a tree. -/
def TypeTree.root (t : TypeTree) : Node := ⟨t.arena, 0, t.rooted⟩

/-- The node at a position of a tree. -/
def TypeTree.node? (t : TypeTree) (id : Nat) : Option Node :=
  if inside : id < t.arena.size then some ⟨t.arena, id, inside⟩ else none

/-- The canonical text of a tree. -/
def TypeTree.canonical (t : TypeTree) : String := t.root.canonical

end TypeGrading.Tree
