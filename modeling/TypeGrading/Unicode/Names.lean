import TypeGrading.Unicode.Property
import TypeGrading.Unicode.Script

/-!
# Character sets by name

How the names of properties, general categories and scripts are written in patterns: case, spaces,
hyphens and underscores make no difference, nor does `is` in front of a name.

* `plainName`: a name without what makes no difference;
* `setNamed?`: the characters that a single name stands for;
* `setOfValue?`: those for which a property has a value.
-/

namespace TypeGrading.Unicode

/-- The name without what makes no difference. Characters beyond ASCII are left out. The name `isc`
is that of a property and keeps its `is`. -/
def plainName (name : String) : String :=
  let lower := (name.toList.filter fun c => c.toNat < 0x80).map Char.toLower
  let isPrefixed := (name.toList.take 2).map Char.toLower == ['i', 's']
  let kept := (if isPrefixed then lower.drop 2 else lower).filter fun c =>
    !(c == ' ' || c == '_' || c == '-')
  String.ofList (if isPrefixed && kept == ['c'] then ['i', 's', 'c'] else kept)

/-- What the first entry holds that has a given name. -/
def entryNamed? {α : Type} (entries : List (List String × α)) (plain : String) : Option α :=
  (entries.find? fun e => e.1.any fun name => plainName name == plain).map (·.2)

/-- The characters whose general category has the name, or is one of a group with the name. -/
def categorySet? (plain : String) : Option (Char → Bool) :=
  match plain with
  | "any" => some fun _ => true
  | "assigned" => some fun c => !isIn [.unassigned] c
  | "ascii" => some fun c => decide (c.toNat < 0x80)
  | _ => (entryNamed? Category.allNames plain).map isIn

/-- The script with the name. -/
def scriptNamed? (plain : String) : Option Script :=
  entryNamed? (Script.all.map fun s => (s.names, s)) plain

/-- Three names are both short for a case mapping and for a general category; alone they stand for
the category. -/
def isCategoryFirst (plain : String) : Bool := plain == "cf" || plain == "sc" || plain == "lc"

/-- The characters that a name stands for: a property, else a general category, else a script. -/
def setNamed? (name : String) : Option (Char → Bool) :=
  let plain := plainName name
  let asProperty := if isCategoryFirst plain then none else entryNamed? Property.all plain
  asProperty.or <| (categorySet? plain).or <| (scriptNamed? plain).map Script.contains

/-- The characters for which a property has a value. -/
def setOfValue? (property value : String) : Option (Char → Bool) :=
  match plainName property with
  | "generalcategory" | "gc" => categorySet? (plainName value)
  | "script" | "sc" => (scriptNamed? (plainName value)).map Script.contains
  | "scriptextensions" | "scx" => (scriptNamed? (plainName value)).map Script.reaches
  | _ => none

end TypeGrading.Unicode
