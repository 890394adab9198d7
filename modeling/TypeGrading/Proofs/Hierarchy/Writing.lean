import TypeGrading.Proofs.Hierarchy.Climbing

/-!
# Writing supertypes

What each edit does to the supertypes of a name, and when two hierarchies answer alike.

* `bare`: names that are only mentioned are known without supertypes;
* `get?_addTypes`, `get?_writeSupertypes`: the supertypes of a name after an edit;
* `direct_addInheritance_iff`, `contains_addInheritance_iff`: the edges and the known names after
  supertypes were added;
* `Alike`: the same root, the same known names, and the same supertypes for every name;
* `Alike.isDerivedFrom`, `Alike.relate`: hierarchies that are alike answer every question alike;
* `Agrees`: the same supertypes in the same order, in whatever order the names were written.
-/

namespace TypeGrading.Hierarchy

/-! ### After an edit -/

/-- What is recorded for a name because it is among those mentioned. -/
def bare (mentioned : List String) (name : String) : Option (List String) :=
  if name ∈ mentioned then some [] else none

@[simp] theorem bare_nil (name : String) : bare [] name = none := by simp [bare]

theorem bare_of_mem {mentioned : List String} {name : String} (h : name ∈ mentioned) :
    bare mentioned name = some [] :=
  if_pos h

theorem bare_append (mentioned more : List String) (name : String) :
    bare (mentioned ++ more) name = (bare mentioned name).or (bare more name) := by
  unfold bare
  by_cases h : name ∈ mentioned
  · simp [h]
  · simp only [List.mem_append, h, false_or, if_false, Option.none_or]

section Edits

variable (g : Hierarchy) (name child : String) (names mentioned : List String) (k : String)

theorem get?_addType :
    (g.addType name).supertypes.get? k = (g.supertypes.get? k).or (bare [name] k) := by
  unfold addType contains Table.contains bare
  by_cases hk : k = name
  · subst hk
    cases hget : g.supertypes.get? k <;> simp [hget]
  · cases hget : g.supertypes.get? name <;> simp [hk, Table.get?_put_of_ne]

@[simp] theorem root_addType : (g.addType name).root = g.root := by
  unfold addType
  split <;> rfl

theorem get?_addTypes :
    (g.addTypes names).supertypes.get? k = (g.supertypes.get? k).or (bare names k) := by
  unfold addTypes
  induction names generalizing g with
  | nil => simp
  | cons name names ih =>
    rw [List.foldl_cons, ih, get?_addType, Option.or_assoc, ← bare_append, List.singleton_append]

@[simp] theorem root_addTypes : (g.addTypes names).root = g.root := by
  unfold addTypes
  induction names generalizing g with
  | nil => rfl
  | cons name names ih => rw [List.foldl_cons, ih, root_addType]

theorem get?_writeSupertypes :
    (g.writeSupertypes child names mentioned).supertypes.get? k =
      if k = child then some names else (g.supertypes.get? k).or (bare mentioned k) := by
  by_cases hk : k = child
  · subst hk
    simp [writeSupertypes]
  · simp [writeSupertypes, hk, Table.get?_put_of_ne, get?_addTypes]

theorem get?_setSupertypes :
    (g.setSupertypes child names).supertypes.get? k =
      if k = child then some names else (g.supertypes.get? k).or (bare names k) :=
  get?_writeSupertypes g child names names k

@[simp] theorem root_setSupertypes : (g.setSupertypes child names).root = g.root :=
  root_addTypes g names

theorem get?_addInheritance :
    (g.addInheritance child names).supertypes.get? k =
      if k = child then some (names.foldl insertNew (g.parents child))
      else (g.supertypes.get? k).or (bare names k) :=
  get?_writeSupertypes g child (names.foldl insertNew (g.parents child)) names k

@[simp] theorem root_addInheritance : (g.addInheritance child names).root = g.root :=
  root_addTypes g names

theorem get?_withRoot : (withRoot name).supertypes.get? k = bare [name] k :=
  get?_addType empty name k

end Edits

/-! ### After supertypes are added -/

section Added

variable {g : Hierarchy} {name child parent : String} {names known : List String}

/-- What a step makes hold exactly when what it takes tells it, holds after many steps if it held
before or something told it. -/
theorem holds_foldl_iff {α β : Type} (step : α → β → α) (Has : α → Prop) {Tells : β → Prop}
    (hstep : ∀ a b, Has (step a b) ↔ Has a ∨ Tells b) (a : α) (l : List β) :
    Has (l.foldl step a) ↔ Has a ∨ ∃ b ∈ l, Tells b := by
  induction l generalizing a with
  | nil => simp
  | cons b l ih =>
    rw [List.foldl_cons, ih, hstep, or_assoc]
    simp only [List.mem_cons, exists_eq_or_imp]

theorem mem_insertNew_iff : parent ∈ insertNew known name ↔ parent ∈ known ∨ parent = name := by
  unfold insertNew
  split
  · rename_i hname
    exact ⟨Or.inl, fun h => h.elim id fun heq => heq ▸ hname⟩
  · simp

theorem mem_foldl_insertNew_iff :
    parent ∈ names.foldl insertNew known ↔ parent ∈ known ∨ parent ∈ names := by
  rw [holds_foldl_iff insertNew (parent ∈ ·) fun _ _ => mem_insertNew_iff]
  simp

/-- Exactly the added edges are new. -/
theorem direct_addInheritance_iff :
    (g.addInheritance child names).Direct name parent ↔
      g.Direct name parent ∨ name = child ∧ parent ∈ names := by
  unfold Direct parents
  rw [get?_addInheritance]
  by_cases hname : name = child
  · subst hname
    simp [mem_foldl_insertNew_iff, parents]
  · cases hget : g.supertypes.get? name with
    | none => by_cases hmem : name ∈ names <;> simp [hname, hmem, bare]
    | some written => simp [hname]

theorem contains_addInheritance_iff :
    (g.addInheritance child names).contains name = true ↔
      name = child ∨ g.contains name = true ∨ name ∈ names := by
  unfold contains Table.contains
  rw [get?_addInheritance]
  by_cases hname : name = child
  · simp [hname]
  · by_cases hmem : name ∈ names <;> simp [hname, hmem, bare]

end Added

/-! ### Hierarchies that answer alike -/

/-- The same root, the same known names, and the same direct supertypes for each of them, however
often and in whatever order they were written. -/
structure Alike (g g' : Hierarchy) : Prop where
  root : g.root = g'.root
  contains : ∀ name, g.contains name = g'.contains name
  direct_iff : ∀ child parent, g.Direct child parent ↔ g'.Direct child parent

namespace Alike

variable {g g' : Hierarchy} (h : g.Alike g')

include h

theorem liesBelow_iff (child ancestor : String) :
    g.LiesBelow child ancestor ↔ g'.LiesBelow child ancestor := by
  have hdirect : g.Direct = g'.Direct := by
    funext child parent
    exact propext (h.direct_iff child parent)
  rw [LiesBelow, LiesBelow, Climbs, Climbs, h.root, hdirect]

/-- The searches may pass the names in different orders, but they lead up to the same ones. -/
theorem isDerivedFrom (child ancestor : String) :
    g.isDerivedFrom child ancestor = g'.isDerivedFrom child ancestor := by
  rw [Bool.eq_iff_iff, isDerivedFrom_iff, isDerivedFrom_iff, h.contains, h.liesBelow_iff]

theorem detectsCycle (child parent : String) :
    g.detectsCycle child parent = g'.detectsCycle child parent := by
  rw [Hierarchy.detectsCycle, h.isDerivedFrom, Hierarchy.detectsCycle]

theorem relate (left right : String) : g.relate left right = g'.relate left right := by
  simp only [Hierarchy.relate, h.contains, h.isDerivedFrom]

/-- No name is entered twice, so the same names are equally many. -/
theorem typeCount : g.typeCount = g'.typeCount := by
  have hkeys : g.supertypes.keys.Perm g'.supertypes.keys := by
    refine (List.perm_ext_iff_of_nodup g.supertypes.nodup g'.supertypes.nodup).2 fun name => ?_
    exact Table.contains_iff.symm.trans
      ((Bool.eq_iff_iff.1 (h.contains name)).trans Table.contains_iff)
  simpa [Table.keys, Hierarchy.typeCount, Table.size] using hkeys.length_eq

end Alike

/-- The same root, and the same supertypes, in the same order, for every name. -/
structure Agrees (g g' : Hierarchy) : Prop where
  root : g.root = g'.root
  get? : ∀ name, g.supertypes.get? name = g'.supertypes.get? name

namespace Agrees

variable {g g' : Hierarchy} (h : g.Agrees g')

include h

theorem alike : g.Alike g' where
  root := h.root
  contains name := by
    rw [Hierarchy.contains, Table.contains, h.get?, Hierarchy.contains, Table.contains]
  direct_iff child parent := by rw [Direct, parents, h.get?, Direct, parents]

theorem isDerivedFrom (child ancestor : String) :
    g.isDerivedFrom child ancestor = g'.isDerivedFrom child ancestor :=
  h.alike.isDerivedFrom child ancestor

theorem detectsCycle (child parent : String) :
    g.detectsCycle child parent = g'.detectsCycle child parent :=
  h.alike.detectsCycle child parent

theorem relate (left right : String) : g.relate left right = g'.relate left right :=
  h.alike.relate left right

end Agrees

end TypeGrading.Hierarchy
