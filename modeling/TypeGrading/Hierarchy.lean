import TypeGrading.Relation

/-!
# Hierarchies

Which type names are known, what their direct supertypes are, and what follows from it.

* `Hierarchy`: known names with their supertypes in the order written, and perhaps a root;
* `setRoot`, `addType`, `addInheritance`, `setSupertypes`: the edits;
* `search`: the breadth-first search above a name;
* `isDerivedFrom`, `detectsCycle`, `relate`: the questions.

Cycles are not refused. The search marks the names it has met, so it ends on any hierarchy.
-/

namespace TypeGrading

/-- Known names with their direct supertypes, and an optional ancestor of all known names. -/
structure Hierarchy where
  supertypes : Table String (List String)
  root : Option String

namespace Hierarchy

/-! ### Edits -/

/-- The hierarchy that knows no name. -/
def empty : Hierarchy := ⟨Table.empty, none⟩

instance : Inhabited Hierarchy := ⟨empty⟩

/-- The name is known. -/
def contains (g : Hierarchy) (name : String) : Bool := g.supertypes.contains name

/-- The number of known names. -/
def typeCount (g : Hierarchy) : Nat := g.supertypes.size

/-- The direct supertypes of a name, in order; none for an unknown one. -/
def parents (g : Hierarchy) (name : String) : List String := (g.supertypes.get? name).getD []

/-- Make a name known. -/
def addType (g : Hierarchy) (name : String) : Hierarchy :=
  if g.contains name then g else { g with supertypes := g.supertypes.put name [] }

/-- Make several names known. -/
def addTypes (g : Hierarchy) (names : List String) : Hierarchy := names.foldl addType g

/-- Make a name known and an ancestor of all known names. -/
def setRoot (g : Hierarchy) (name : String) : Hierarchy :=
  { g.addType name with root := some name }

/-- The hierarchy that knows only its root. -/
def withRoot (name : String) : Hierarchy := empty.setRoot name

/-- The list with a name at its end, unless it is there already. -/
def insertNew (names : List String) (name : String) : List String :=
  if name ∈ names then names else names ++ [name]

/-- Write the supertypes of a name, which with all of them becomes known. -/
def writeSupertypes (g : Hierarchy) (child : String) (names mentioned : List String) : Hierarchy :=
  let g := g.addTypes mentioned
  { g with supertypes := g.supertypes.put child names }

/-- Add direct supertypes to a name; those that it has already are not repeated. -/
def addInheritance (g : Hierarchy) (child : String) (names : List String) : Hierarchy :=
  g.writeSupertypes child (names.foldl insertNew (g.parents child)) names

/-- Replace the direct supertypes of a name. -/
def setSupertypes (g : Hierarchy) (child : String) (names : List String) : Hierarchy :=
  g.writeSupertypes child names names

/-! ### Searching -/

/-- The names that are a direct supertype of some name. -/
def mentioned (g : Hierarchy) : List String := g.supertypes.entries.flatMap Prod.snd

/-- The names mentioned that are not yet met. -/
def unmet (g : Hierarchy) (met : List String) : List String := g.mentioned.filter (· ∉ met)

/-- The direct supertypes of a name that are not yet met, each once. -/
def fresh (g : Hierarchy) (met : List String) (name : String) : List String :=
  (g.parents name).eraseDups.filter (· ∉ met)

section Searching

variable {g : Hierarchy} {met names : List String} {name parent : String}

theorem parents_of_get? (h : g.supertypes.get? name = some names) : g.parents name = names := by
  rw [parents, h, Option.getD_some]

theorem contains_of_get? (h : g.supertypes.get? name = some names) : g.contains name = true := by
  rw [contains, Table.contains, h, Option.isSome_some]

theorem mem_fresh_iff : parent ∈ g.fresh met name ↔ parent ∈ g.parents name ∧ parent ∉ met := by
  simp [fresh]

/-- An unknown name has no supertypes. -/
theorem parents_eq_nil (unknown : name ∉ g.supertypes.keys) : g.parents name = [] := by
  simp [parents, Table.get?_eq_none_iff.2 unknown]

theorem mem_mentioned (h : parent ∈ g.parents name) : parent ∈ g.mentioned := by
  unfold parents at h
  cases hget : g.supertypes.get? name with
  | none => simp [hget] at h
  | some names =>
    rw [hget] at h
    exact List.mem_flatMap.2 ⟨(name, names), Table.get?_eq_some_iff.1 hget, h⟩

theorem length_filter_lt {α : Type} {p q : α → Bool} {l : List α} {x : α}
    (hpq : ∀ y, p y = true → q y = true) (hx : x ∈ l) (hq : q x = true) (hp : p x = false) :
    (l.filter p).length < (l.filter q).length := by
  simp only [← List.countP_eq_length_filter]
  induction l with
  | nil => simp at hx
  | cons y l ih =>
    have hle : l.countP p ≤ l.countP q := List.countP_mono_left fun y _ => hpq y
    rcases List.mem_cons.1 hx with rfl | hx
    · rw [List.countP_cons_of_neg (by simp [hp]), List.countP_cons_of_pos hq]
      exact Nat.lt_succ_of_le hle
    · have hlt := ih hx
      rw [List.countP_cons, List.countP_cons]
      cases hpy : p y with
      | true => simpa [hpq y hpy] using hlt
      | false =>
        simp only [Bool.false_eq_true, if_false, Nat.add_zero]
        exact Nat.lt_add_right _ hlt

/-- Meeting supertypes of a name leaves fewer names to meet. -/
theorem length_unmet_lt (new : parent ∈ g.fresh met name) :
    (g.unmet (met ++ g.fresh met name)).length < (g.unmet met).length := by
  obtain ⟨hparent, hmet⟩ := mem_fresh_iff.1 new
  refine length_filter_lt (x := parent) ?_ (mem_mentioned hparent) ?_ ?_ <;> simp_all

/-- Beyond a name there are fewer names to meet, or as many and a shorter queue. -/
theorem unmet_append_lt (g : Hierarchy) (met rest : List String) (name : String) :
    Prod.Lex (· < ·) (· < ·)
      ((g.unmet (met ++ g.fresh met name)).length, (rest ++ g.fresh met name).length)
      ((g.unmet met).length, (name :: rest).length) := by
  rcases hfresh : g.fresh met name with _ | ⟨parent, more⟩
  · simpa using Prod.Lex.right _ (Nat.lt_succ_self _)
  · rw [← hfresh]
    exact Prod.Lex.left _ _ (length_unmet_lt (hfresh ▸ List.mem_cons_self))

end Searching

/-- A breadth-first search for `ancestor` above the names in the queue. A name is met when it joins
the queue, so it joins once; the search ends at the first name that has `ancestor` for a supertype. -/
def search (g : Hierarchy) (ancestor : String) (met queue : List String) : Bool :=
  match queue with
  | [] => false
  | name :: rest =>
    if ancestor ∈ g.parents name then true
    else g.search ancestor (met ++ g.fresh met name) (rest ++ g.fresh met name)
termination_by ((g.unmet met).length, queue.length)
decreasing_by exact g.unmet_append_lt met rest name

/-- A search from a name alone finds another one, or the same one again, above it. -/
def reaches (g : Hierarchy) (child ancestor : String) : Bool := g.search ancestor [child] [child]

/-! ### Questions -/

/-- `child` is a proper descendant of `ancestor`: a known name other than it, and either the
root is asked for or a search from `child` finds it. -/
def isDerivedFrom (g : Hierarchy) (child ancestor : String) : Bool :=
  child ≠ ancestor && g.contains child && (g.root = some ancestor || g.reaches child ancestor)

/-- Making `parent` a supertype of `child` would close a cycle, going by the names known so far. -/
def detectsCycle (g : Hierarchy) (child parent : String) : Bool :=
  child = parent || g.isDerivedFrom parent child

/-- How two names relate. Equal names are equal whether known or not; of two different names the
first unknown one is reported. -/
def relate (g : Hierarchy) : Resolver := fun left right =>
  if left = right then .ok .equal
  else if ¬ g.contains left then .error (.unresolvableName left)
  else if ¬ g.contains right then .error (.unresolvableName right)
  else if g.isDerivedFrom right left then .ok .leftAncestorOfRight
  else if g.isDerivedFrom left right then .ok .rightAncestorOfLeft
  else .ok .unrelated

end Hierarchy

end TypeGrading
