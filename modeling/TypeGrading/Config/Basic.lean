import TypeGrading.Hierarchy

/-!
# Hierarchy configs

The facts about type names that a config file states.

* `Config`: a base to extend, a root, and supertypes per name;
* `merge`: a config laid over its base, entry by entry;
* `toHierarchy`: the hierarchy that a config describes;
* `TextFault`, `Reading`: what is wrong with a text that is no config, and a way to read configs.
-/

namespace TypeGrading

/-- What a config file says. -/
structure Config where
  extends? : Option String
  root : Option String
  supertypes : Table String (List String)

namespace Config

/-- The config that says nothing. -/
def empty : Config := ⟨none, none, Table.empty⟩

instance : Inhabited Config := ⟨empty⟩

/-- A config laid over its base: its root and its entries win. -/
def merge (base upper : Config) : Config where
  extends? := none
  root := upper.root.or base.root
  supertypes := base.supertypes.putAll upper.supertypes.entries

/-- The entries by name, in the order of code points. -/
def sortedEntries (c : Config) : List (String × List String) :=
  c.supertypes.entries.mergeSort fun a b => a.1 ≤ b.1

/-- The hierarchy of a root and entries, entered in order. -/
def hierarchyOf (root : Option String) (entries : List (String × List String)) : Hierarchy :=
  let start := match root with
    | none => Hierarchy.empty
    | some name => Hierarchy.withRoot name
  entries.foldl (fun g e => g.setSupertypes e.1 e.2) start

/-- The hierarchy that a config describes. -/
def toHierarchy (c : Config) : Hierarchy := hierarchyOf c.root c.supertypes.entries

/-- What is wrong with a text that is no config: it does not keep to the syntax, or ends too early,
or says something else. -/
inductive TextFault
  | malformed
  | truncated
  | mistyped
  deriving DecidableEq, Repr

/-- A way to read configs: the config that a text writes, or what is wrong with the text. -/
abbrev Reading := String → Except TextFault Config

end Config

end TypeGrading
