import TypeGrading.Event
import TypeGrading.Log.Filter

/-!
# Log records

What is written about an event.

* `Value`, `Record`: a message with named values, from a part of the program;
* `Event.record`: the record of an event.
-/

namespace TypeGrading

namespace Log

/-- A value in a record: a text that is shown between quotes, a number, or a text that is shown as
it is. -/
inductive Value
  | quoted (s : String)
  | number (n : Nat)
  | plain (s : String)
  deriving DecidableEq, Repr

/-- A message with named values. The target is the part of the program that it comes from. -/
structure Record where
  level : Level
  target : String
  message : String
  fields : List (String × Value)
  deriving DecidableEq, Repr

end Log

open Log

/-- The record of an event. -/
def Event.record : Event → Record
  | .noConfigFound =>
    ⟨.warn, "sigtree_cli::driver",
      "no hierarchy config found; differing type names compare as unrelated", []⟩
  | .loadingConfig path =>
    ⟨.debug, "sigtree_cli::driver", "loading hierarchy config", [("config", .plain path)]⟩
  | .loadingBase path base =>
    ⟨.debug, "sigtree_cli::config", "loading base config",
      [("config", .plain path), ("base", .plain base)]⟩
  | .descriptorParsed descriptor node =>
    ⟨.trace, "sigtree_parser::parser", "parsed descriptor",
      [("descriptor", .quoted descriptor), ("node", .number node)]⟩
  | .descriptorRejected e =>
    ⟨.debug, "sigtree_parser::parser", "rejected descriptor",
      [("descriptor", .quoted e.descriptor), ("error", .plain e.message)]⟩
  | .countMismatch name left right =>
    ⟨.trace, "sigtree_solver::compare", "parameter count mismatch",
      [("name", .quoted name), ("left", .number left), ("right", .number right)]⟩
  | .relationCached left right relation =>
    ⟨.trace, "sigtree_solver::cache", "caching relation",
      [("left", .quoted left), ("right", .quoted right), ("relation", .plain relation.label)]⟩
  | .pairUnresolved left right e =>
    ⟨.debug, "sigtree_solver::compare", "treating unresolvable pair as unrelated",
      [("left", .quoted left), ("right", .quoted right), ("error", .plain e.message)]⟩
  | .namesDiffer left right grade =>
    ⟨.trace, "sigtree_solver::compare", "names differ",
      [("left", .quoted left), ("right", .quoted right), ("grade", .plain grade.text)]⟩
  | .comparisonFinished grade cached =>
    ⟨.debug, "sigtree_cli::driver", "comparison finished",
      [("grade", .plain grade.text), ("cached", .number cached)]⟩

end TypeGrading
