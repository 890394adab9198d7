import TypeGrading.Proofs.Hierarchy.Writing

/-!
# Runs of edits of a hierarchy

* `Edit`, `Edit.perform`: one edit, and what it does to a hierarchy;
* `Reached`: the hierarchies that runs of edits reach;
* `Edit.child?`, `Edit.mentioned`: the name whose supertypes an edit writes, and those that it only
  makes known;
* `get?_perform_child`, `get?_perform_of_ne`: what an edit leaves recorded for a name;
* `Edit.after`, `contains_after_iff`, `parents_after`: a run of edits, and what is known after it.

No edit is refused, so a run is any list of edits, with any names.
-/

namespace TypeGrading.Hierarchy

/-- One edit of a hierarchy. -/
inductive Edit
  | setRoot (name : String)
  | addType (name : String)
  | addInheritance (child : String) (parents : List String)
  | setSupertypes (child : String) (parents : List String)
  deriving DecidableEq, Repr

/-- The hierarchy after an edit. -/
def Edit.perform (g : Hierarchy) : Edit → Hierarchy
  | .setRoot name => g.setRoot name
  | .addType name => g.addType name
  | .addInheritance child parents => g.addInheritance child parents
  | .setSupertypes child parents => g.setSupertypes child parents

/-- The hierarchies that runs of edits reach, from none of the names or from a root. -/
inductive Reached : Hierarchy → Prop
  | empty : Reached Hierarchy.empty
  | withRoot (name : String) : Reached (Hierarchy.withRoot name)
  | perform {g : Hierarchy} (hg : Reached g) (e : Edit) : Reached (e.perform g)

/-! ### One edit -/

namespace Edit

/-- The name whose supertypes an edit writes. -/
def child? : Edit → Option String
  | .setRoot _ | .addType _ => none
  | .addInheritance child _ | .setSupertypes child _ => some child

/-- The names that an edit makes known without supertypes, if they are not known yet. -/
def mentioned : Edit → List String
  | .setRoot name | .addType name => [name]
  | .addInheritance _ parents | .setSupertypes _ parents => parents

/-- The edit makes the name known. -/
def Names (name : String) (e : Edit) : Prop := e.child? = some name ∨ name ∈ e.mentioned

/-- The hierarchy after a run of edits. -/
def after (g : Hierarchy) (es : List Edit) : Hierarchy := es.foldl perform g

end Edit

section Performed

variable {g : Hierarchy} {e : Edit} {name parent top : String}

/-- Where supertypes are written, each of them was one before or is mentioned. -/
theorem get?_perform_child (h : e.child? = some name) :
    ∃ names, (e.perform g).supertypes.get? name = some names ∧
      ∀ parent ∈ names, parent ∈ g.parents name ∨ parent ∈ e.mentioned := by
  cases e with
  | setRoot top => cases h
  | addType other => cases h
  | addInheritance child parents =>
    obtain rfl : child = name := Option.some.inj h
    exact ⟨_, (get?_addInheritance g child parents child).trans (if_pos rfl),
      fun parent hparent => mem_foldl_insertNew_iff.1 hparent⟩
  | setSupertypes child parents =>
    obtain rfl : child = name := Option.some.inj h
    exact ⟨_, (get?_setSupertypes g child parents child).trans (if_pos rfl),
      fun parent hparent => Or.inr hparent⟩

/-- What is recorded for any other name stays. -/
theorem get?_perform_of_ne (h : e.child? ≠ some name) :
    (e.perform g).supertypes.get? name =
      (g.supertypes.get? name).or (bare e.mentioned name) := by
  cases e with
  | setRoot top => exact get?_addType g top name
  | addType other => exact get?_addType g other name
  | addInheritance child parents =>
    have hne : name ≠ child := fun heq => h (congrArg some heq.symm)
    exact (get?_addInheritance g child parents name).trans (if_neg hne)
  | setSupertypes child parents =>
    have hne : name ≠ child := fun heq => h (congrArg some heq.symm)
    exact (get?_setSupertypes g child parents name).trans (if_neg hne)

theorem contains_perform_iff :
    (e.perform g).contains name = true ↔ g.contains name = true ∨ e.Names name := by
  unfold contains Table.contains Edit.Names
  by_cases hchild : e.child? = some name
  · obtain ⟨names, hget, -⟩ := get?_perform_child (g := g) hchild
    simp [hget, hchild]
  · rw [get?_perform_of_ne hchild]
    by_cases hmem : name ∈ e.mentioned <;> simp [bare, hchild, hmem]

theorem parents_perform_of_ne (h : e.child? ≠ some name) :
    (e.perform g).parents name = g.parents name := by
  rw [parents, get?_perform_of_ne h, parents]
  cases g.supertypes.get? name with
  | none => by_cases hmem : name ∈ e.mentioned <;> simp [bare, hmem]
  | some names => rfl

theorem mem_parents_of_perform (h : parent ∈ (e.perform g).parents name) :
    parent ∈ g.parents name ∨ parent ∈ e.mentioned := by
  by_cases hchild : e.child? = some name
  · obtain ⟨names, hget, hnames⟩ := get?_perform_child (g := g) hchild
    exact hnames parent (parents_of_get? hget ▸ h)
  · exact Or.inl (parents_perform_of_ne hchild ▸ h)

theorem root_of_perform (h : (e.perform g).root = some top) :
    g.root = some top ∨ top ∈ e.mentioned := by
  cases e with
  | setRoot name => exact Or.inr (List.mem_singleton.2 (Option.some.inj h).symm)
  | addType name => exact Or.inl ((root_addType g name).symm.trans h)
  | addInheritance child parents =>
    exact Or.inl ((root_addInheritance g child parents).symm.trans h)
  | setSupertypes child parents =>
    exact Or.inl ((root_setSupertypes g child parents).symm.trans h)

end Performed

/-! ### A run of edits -/

section Runs

variable (g : Hierarchy) {es : List Edit} {name : String}

/-- After a run the names are known that were known before or that an edit makes known. -/
theorem contains_after_iff : (Edit.after g es).contains name = true ↔
    g.contains name = true ∨ ∃ e ∈ es, e.Names name :=
  holds_foldl_iff Edit.perform (fun g => g.contains name = true)
    (fun _ _ => contains_perform_iff) g es

/-- A run that writes no supertypes of a name leaves it those that it has. -/
theorem parents_after (h : ∀ e ∈ es, e.child? ≠ some name) :
    (Edit.after g es).parents name = g.parents name := by
  unfold Edit.after
  induction es generalizing g with
  | nil => rfl
  | cons e es ih =>
    obtain ⟨hhere, hlater⟩ := List.forall_mem_cons.1 h
    rw [List.foldl_cons, ih _ hlater, parents_perform_of_ne hhere]

end Runs

end TypeGrading.Hierarchy
