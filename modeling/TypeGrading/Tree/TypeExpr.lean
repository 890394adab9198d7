import TypeGrading.Text.Json

/-!
# Type expressions

A type as a name applied to type expressions. This is the view of a stored tree that forgets
where its records lie.

* `TypeExpr`: a name with its parameters;
* `TypeExpr.toJson`: an object with the name, and with the parameters where there are any.
-/

namespace TypeGrading.Tree

/-- A name with its parameters in order. -/
inductive TypeExpr where
  | app (name : String) (params : List TypeExpr)

namespace TypeExpr

instance : Inhabited TypeExpr := ⟨.app "" []⟩

/-- The outermost name. -/
def name : TypeExpr → String
  | .app name _ => name

/-- The parameters in order. -/
def params : TypeExpr → List TypeExpr
  | .app _ params => params

/-- The expression as a document; a name without parameters has no list of children. -/
def toJson : TypeExpr → Text.Json
  | .app name params =>
    .object <| ("name", .text name) ::
      if params.isEmpty then [] else [("children", .list (params.map toJson))]

end TypeExpr

end TypeGrading.Tree
