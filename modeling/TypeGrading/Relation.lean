import TypeGrading.Table

/-!
# Relations between type names

How two type names relate, and who can be asked.

* `Relation` with `flip`, the same fact seen from the other side;
* `ResolveError`: a name about which nothing is known;
* `Resolver`: a function that answers for an ordered pair of names;
* `Resolver.exact`: knows nothing but equality;
* `Resolver.ofTable`: answers written down pair by pair.
-/

namespace TypeGrading

/-- How the left name of a pair relates to the right one. -/
inductive Relation
  | equal
  | leftAncestorOfRight
  | rightAncestorOfLeft
  | unrelated
  deriving DecidableEq, Repr

namespace Relation

/-- The relation of the swapped pair. -/
def flip : Relation → Relation
  | .leftAncestorOfRight => .rightAncestorOfLeft
  | .rightAncestorOfLeft => .leftAncestorOfRight
  | r => r

@[simp] theorem flip_flip (r : Relation) : r.flip.flip = r := by cases r <;> rfl

/-- The name under which a relation is reported. -/
def label : Relation → String
  | .equal => "Equal"
  | .leftAncestorOfRight => "LeftAncestorOfRight"
  | .rightAncestorOfLeft => "RightAncestorOfLeft"
  | .unrelated => "Unrelated"

end Relation

/-- Why a pair of names got no relation. -/
inductive ResolveError
  | unresolvableName (name : String)
  deriving DecidableEq, Repr

/-- The name that could not be resolved. -/
def ResolveError.name : ResolveError → String
  | .unresolvableName name => name

/-- The wording of a failure to resolve. -/
def ResolveError.message : ResolveError → String
  | .unresolvableName name => "cannot resolve type name `" ++ name ++ "`"

/-- What a resolver says about a pair. -/
abbrev Answer := Except ResolveError Relation

/-- Whoever answers questions about ordered pairs of names. -/
abbrev Resolver := String → String → Answer

namespace Resolver

/-- The resolver that knows no relationships: different names are unrelated. -/
def exact : Resolver := fun left right =>
  .ok (if left = right then .equal else .unrelated)

end Resolver

/-- A written answer for a pair: a relation, or a failure to resolve one of its names. -/
inductive Verdict
  | related (relation : Relation)
  | unresolvedLeft
  | unresolvedRight
  deriving DecidableEq, Repr

/-- The answer that a verdict gives for a pair. -/
def Verdict.answer (v : Verdict) (left right : String) : Answer :=
  match v with
  | .related r => .ok r
  | .unresolvedLeft => .error (.unresolvableName left)
  | .unresolvedRight => .error (.unresolvableName right)

/-- The resolver that looks ordered pairs up, with one verdict for all pairs not listed. -/
def Resolver.ofTable (table : Table (String × String) Verdict) (default : Verdict) : Resolver :=
  fun left right => ((table.get? (left, right)).getD default).answer left right

end TypeGrading
