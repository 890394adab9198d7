import TypeGrading.Proofs.Hierarchy.Edits

/-!
# Recording facts

Two of the edits only add: one makes a name known, the other gives a name supertypes and makes all of
them known. What a run of them leaves depends on the facts recorded, not on how they were put into
edits.

* `Fact`, `record`: the two edits, and a run of them;
* `Fact.Names`, `Fact.Says`: the names and the edges that a fact records;
* `contains_record_iff`, `direct_record_iff`: what is known after a run;
* `Rearranged`: the same facts in another order, repeated, shared out or put together;
* `Rearranged.alike`: both runs leave hierarchies that are alike;
* `record_rearranged`: what a run leaves, and that a rearranged one leaves the same.
-/

namespace TypeGrading.Hierarchy

/-- What can be recorded: that a name is known, or that a name has supertypes. -/
inductive Fact
  | known (name : String)
  | inherits (child : String) (parents : List String)
  deriving DecidableEq, Repr

namespace Fact

/-- The edit that records a fact. -/
def edit : Fact → Edit
  | .known name => .addType name
  | .inherits child parents => .addInheritance child parents

/-- The fact makes the name known. -/
def Names (name : String) : Fact → Prop
  | .known other => name = other
  | .inherits child parents => name = child ∨ name ∈ parents

/-- The fact gives the name the supertype. -/
def Says (name parent : String) : Fact → Prop
  | .known _ => False
  | .inherits child parents => name = child ∧ parent ∈ parents

end Fact

/-- The hierarchy after facts were recorded, one after the other. -/
def record (g : Hierarchy) (facts : List Fact) : Hierarchy :=
  facts.foldl (fun g f => f.edit.perform g) g

/-! ### What is known after a run -/

section Recorded

variable (g : Hierarchy) (facts : List Fact) (f : Fact) (name parent : String)

theorem names_edit_iff : f.edit.Names name ↔ f.Names name := by
  cases f with
  | known other => simp [Fact.edit, Fact.Names, Edit.Names, Edit.child?, Edit.mentioned]
  | inherits child parents =>
    simp [Fact.edit, Fact.Names, Edit.Names, Edit.child?, Edit.mentioned, eq_comm]

theorem contains_perform_edit_iff :
    (f.edit.perform g).contains name = true ↔ g.contains name = true ∨ f.Names name := by
  rw [contains_perform_iff, names_edit_iff]

theorem direct_perform_edit_iff :
    (f.edit.perform g).Direct name parent ↔ g.Direct name parent ∨ f.Says name parent := by
  cases f with
  | known other =>
    rw [Direct, parents_perform_of_ne (by simp [Fact.edit, Edit.child?]), Fact.Says, or_false,
      Direct]
  | inherits child parents => exact direct_addInheritance_iff

theorem root_perform_edit : (f.edit.perform g).root = g.root := by
  cases f with
  | known other => exact root_addType g other
  | inherits child parents => exact root_addInheritance g child parents

/-- **Known names.** After a run the names are known that were known before or occur in a fact. -/
theorem contains_record_iff : (g.record facts).contains name = true ↔
    g.contains name = true ∨ ∃ f ∈ facts, f.Names name :=
  holds_foldl_iff _ (fun g => g.contains name = true)
    (fun g f => contains_perform_edit_iff g f name) g facts

/-- **Supertypes.** After a run a name has the supertypes that it had before or that a fact gives
it. -/
theorem direct_record_iff : (g.record facts).Direct name parent ↔
    g.Direct name parent ∨ ∃ f ∈ facts, f.Says name parent :=
  holds_foldl_iff _ (fun g => g.Direct name parent)
    (fun g f => direct_perform_edit_iff g f name parent) g facts

theorem root_record : (g.record facts).root = g.root := by
  unfold record
  induction facts generalizing g with
  | nil => rfl
  | cons f facts ih => rw [List.foldl_cons, ih, root_perform_edit]

end Recorded

/-! ### Rearranged runs -/

/-- The supertypes are shared out to one or more parts, none of them left out. -/
def SharedOut (parents : List String) (parts : List (List String)) : Prop :=
  parts ≠ [] ∧ ∀ parent, parent ∈ parents ↔ ∃ part ∈ parts, parent ∈ part

/-- The second list records the facts of the first one: in another order, with a fact repeated, with
the supertypes of a name shared out to facts of their own, or with any of this undone. -/
inductive Rearranged : List Fact → List Fact → Prop
  | reorder {facts facts' : List Fact} (h : facts.Perm facts') : Rearranged facts facts'
  | again {f : Fact} {facts : List Fact} (h : f ∈ facts) : Rearranged facts (f :: facts)
  | share (child : String) {parents : List String} {parts : List (List String)}
      (h : SharedOut parents parts) (facts : List Fact) :
      Rearranged (.inherits child parents :: facts) (parts.map (.inherits child) ++ facts)
  | undo {facts facts' : List Fact} (h : Rearranged facts facts') : Rearranged facts' facts
  | trans {facts facts' facts'' : List Fact} (h : Rearranged facts facts')
      (h' : Rearranged facts' facts'') : Rearranged facts facts''

section Rearranging

variable {facts facts' : List Fact}

/-- What some fact of a run tells, some fact of the rearranged run tells, if it goes over to one of
the parts when supertypes are shared out. -/
theorem Rearranged.exists_mem_iff {Tells : Fact → Prop}
    (shared : ∀ {child parents parts}, SharedOut parents parts →
      (Tells (.inherits child parents) ↔ ∃ part ∈ parts, Tells (.inherits child part)))
    (h : Rearranged facts facts') : (∃ f ∈ facts, Tells f) ↔ ∃ f ∈ facts', Tells f := by
  induction h with
  | reorder h => simp only [h.mem_iff]
  | again h =>
    simp only [List.mem_cons, exists_eq_or_imp]
    exact ⟨Or.inr, fun hf => hf.elim (fun htells => ⟨_, h, htells⟩) id⟩
  | share child h facts =>
    simp only [List.mem_cons, List.mem_append, List.mem_map, or_and_right, exists_or,
      exists_eq_left, exists_exists_and_eq_and, shared h]
  | undo _ ih => exact ih.symm
  | trans _ _ ih ih' => exact ih.trans ih'

theorem SharedOut.names_iff {child name : String} {parents : List String}
    {parts : List (List String)} (h : SharedOut parents parts) :
    (Fact.inherits child parents).Names name ↔
      ∃ part ∈ parts, (Fact.inherits child part).Names name := by
  obtain ⟨hparts, hmem⟩ := h
  -- the child is named by every part, so there has to be one
  obtain ⟨part, hpart⟩ := List.exists_mem_of_ne_nil _ hparts
  simp only [Fact.Names, hmem]
  constructor
  · rintro (hname | ⟨part, hpart, hname⟩)
    · exact ⟨part, hpart, Or.inl hname⟩
    · exact ⟨part, hpart, Or.inr hname⟩
  · rintro ⟨part, hpart, hname | hname⟩
    · exact Or.inl hname
    · exact Or.inr ⟨part, hpart, hname⟩

theorem SharedOut.says_iff {child name parent : String} {parents : List String}
    {parts : List (List String)} (h : SharedOut parents parts) :
    (Fact.inherits child parents).Says name parent ↔
      ∃ part ∈ parts, (Fact.inherits child part).Says name parent := by
  simp only [Fact.Says, h.2]
  constructor
  · rintro ⟨hname, part, hpart, hparent⟩
    exact ⟨part, hpart, hname, hparent⟩
  · rintro ⟨part, hpart, hname, hparent⟩
    exact ⟨hname, part, hpart, hparent⟩

/-- **Rearranged runs.** They leave hierarchies that are alike. -/
theorem Rearranged.alike (h : Rearranged facts facts') (g : Hierarchy) :
    (g.record facts).Alike (g.record facts') where
  root := by rw [root_record, root_record]
  contains name := by
    rw [Bool.eq_iff_iff, contains_record_iff, contains_record_iff,
      h.exists_mem_iff SharedOut.names_iff]
  direct_iff child parent := by
    rw [direct_record_iff, direct_record_iff, h.exists_mem_iff SharedOut.says_iff]

end Rearranging

/-- **Recording is order-free.** After a run of facts a hierarchy knows the names that it knew and
those that occur in the facts, each with the supertypes that it had and those that the facts give it.
A run that records the same facts, in another order, repeated, shared out to several edits or put
together in one, leaves the same root, as many names, the same ones, and the same supertypes of each;
and every question has the same answer after both. -/
theorem record_rearranged (g : Hierarchy) {facts facts' : List Fact}
    (h : Rearranged facts facts') :
    (∀ name, (g.record facts).contains name = true ↔
      g.contains name = true ∨ ∃ f ∈ facts, f.Names name) ∧
    (∀ child parent, parent ∈ (g.record facts).parents child ↔
      parent ∈ g.parents child ∨ ∃ f ∈ facts, f.Says child parent) ∧
    (g.record facts).root = (g.record facts').root ∧
    (g.record facts).typeCount = (g.record facts').typeCount ∧
    (∀ name, (g.record facts).contains name = (g.record facts').contains name) ∧
    (∀ child parent, parent ∈ (g.record facts).parents child ↔
      parent ∈ (g.record facts').parents child) ∧
    ∀ left right,
      (g.record facts).isDerivedFrom left right = (g.record facts').isDerivedFrom left right ∧
      (g.record facts).detectsCycle left right = (g.record facts').detectsCycle left right ∧
      (g.record facts).relate left right = (g.record facts').relate left right := by
  have halike := h.alike g
  exact ⟨fun name => contains_record_iff g facts name,
    fun child parent => direct_record_iff g facts child parent, halike.root, halike.typeCount,
    halike.contains, halike.direct_iff, fun left right =>
      ⟨halike.isDerivedFrom left right, halike.detectsCycle left right, halike.relate left right⟩⟩

/-- Three facts, the second with two supertypes; and the same with those shared out behind a repeated
third fact. -/
theorem record_rearranged_numbers :
    let facts := [Fact.known "Top", .inherits "Integer" ["Number", "Comparable"],
      .inherits "Number" ["Top"]]
    let facts' := [Fact.inherits "Number" ["Top"], .inherits "Integer" ["Comparable"],
      .inherits "Integer" ["Number"], .inherits "Number" ["Top"], .known "Top"]
    Rearranged facts facts' ∧
      ((withRoot "Object").record facts').relate "Top" "Integer" = .ok .leftAncestorOfRight ∧
      ((withRoot "Object").record facts').typeCount = 5 := by
  intro facts facts'
  have hshared : SharedOut ["Number", "Comparable"] [["Comparable"], ["Number"]] := by
    simp [SharedOut, or_comm]
  have hreorder : Rearranged facts [.inherits "Integer" ["Number", "Comparable"],
      .inherits "Number" ["Top"], .known "Top"] := .reorder (by decide)
  have hshare : Rearranged facts [.inherits "Integer" ["Comparable"],
      .inherits "Integer" ["Number"], .inherits "Number" ["Top"], .known "Top"] :=
    hreorder.trans (.share "Integer" hshared _)
  have h : Rearranged facts facts' := hshare.trans (.again (by decide))
  obtain ⟨-, -, -, hcount, -, -, hanswers⟩ := record_rearranged (withRoot "Object") h
  have hrelate : ((withRoot "Object").record facts).relate "Top" "Integer" =
      .ok .leftAncestorOfRight := by cbv
  have hfive : ((withRoot "Object").record facts).typeCount = 5 := by cbv
  exact ⟨h, (hanswers "Top" "Integer").2.2.symm.trans hrelate, hcount.symm.trans hfive⟩

end TypeGrading.Hierarchy
