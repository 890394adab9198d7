import Mathlib
import TypeGrading.Config.Basic
import TypeGrading.Proofs.Hierarchy.Writing

/-!
# The hierarchy of a config

The entries of a config are entered one after the other, and entering one makes the names that it
mentions known. What comes of it depends on the entries and not on their order.

* `mentioned`: the names that a config mentions, as its root or as a supertype;
* `Describes`: a hierarchy that says what a config says, and no more;
* `get?_foldl_setSupertypes`: the supertypes of a name after a run of entries;
* `Describes.agrees`: what a config says decides every answer;
* `hierarchyOf_perm`: so all orders of its entries give the same answers.
-/

namespace TypeGrading.Config

open TypeGrading.Hierarchy

/-- The names that a config mentions: its root, and the supertypes of its entries. -/
def mentioned (c : Config) : List String :=
  c.root.toList ++ c.supertypes.entries.flatMap Prod.snd

/-- The hierarchy has the root of the config and knows the names that the config writes an entry for
or mentions; an entry is kept as it is written, and a name that is only mentioned has no
supertypes. -/
structure Describes (c : Config) (g : Hierarchy) : Prop where
  root : g.root = c.root
  known : ∀ name, g.contains name = true ↔ name ∈ c.supertypes.keys ∨ name ∈ c.mentioned
  written : ∀ name names, (name, names) ∈ c.supertypes.entries →
    g.supertypes.get? name = some names
  only_mentioned : ∀ name ∈ c.mentioned, name ∉ c.supertypes.keys →
    g.supertypes.get? name = some []

/-! ### Entries in any order -/

theorem root_foldl_setSupertypes (entries : List (String × List String)) (g : Hierarchy) :
    (entries.foldl (fun g e => g.setSupertypes e.1 e.2) g).root = g.root := by
  induction entries generalizing g with
  | nil => rfl
  | cons e es ih => rw [List.foldl_cons, ih, root_setSupertypes]

/-- A name has the supertypes of its entry, whether that comes before or behind those that mention
the name. -/
theorem get?_foldl_setSupertypes (t : Table String (List String)) (g : Hierarchy) (name : String) :
    (t.entries.foldl (fun g e => g.setSupertypes e.1 e.2) g).supertypes.get? name =
      (t.get? name).or
        ((g.supertypes.get? name).or (bare (t.entries.flatMap Prod.snd) name)) := by
  obtain ⟨entries, nodup⟩ := t
  induction entries generalizing g with
  | nil => simp [Table.get?]
  | cons e es ih =>
    obtain ⟨hnew, hnodup⟩ := List.nodup_cons.1 nodup
    simp only [List.foldl_cons, ih _ hnodup, get?_setSupertypes, Table.get?_cons]
    by_cases he : e.1 = name
    · -- later entries may mention the name, but none of them is its own
      have hnone : Table.get? ⟨es, hnodup⟩ name = none := Table.get?_eq_none_iff.2 (he ▸ hnew)
      simp [hnone, he]
    · rw [if_neg he, if_neg (Ne.symm he), List.flatMap_cons, bare_append, Option.or_assoc]

theorem get?_hierarchyOf (root : Option String) (t : Table String (List String)) (name : String) :
    (hierarchyOf root t.entries).supertypes.get? name =
      (t.get? name).or (bare (root.toList ++ t.entries.flatMap Prod.snd) name) := by
  cases root with
  | none => exact get?_foldl_setSupertypes t Hierarchy.empty name
  | some r =>
    rw [Option.toList_some, bare_append, ← get?_withRoot]
    exact get?_foldl_setSupertypes t (Hierarchy.withRoot r) name

theorem root_hierarchyOf (root : Option String) (entries : List (String × List String)) :
    (hierarchyOf root entries).root = root := by
  cases root with
  | none => exact root_foldl_setSupertypes entries Hierarchy.empty
  | some r => exact root_foldl_setSupertypes entries (Hierarchy.withRoot r)

/-- In whatever order its entries are entered, the hierarchy says what the config says. -/
theorem describes_hierarchyOf {c : Config} {entries : List (String × List String)}
    (h : entries.Perm c.supertypes.entries) : c.Describes (hierarchyOf c.root entries) := by
  have hget : ∀ name, (hierarchyOf c.root entries).supertypes.get? name =
      (c.supertypes.get? name).or (bare c.mentioned name) := by
    intro name
    have hnodup : (entries.map Prod.fst).Nodup := (h.map Prod.fst).nodup_iff.2 c.supertypes.nodup
    have hsame : Table.get? ⟨entries, hnodup⟩ name = c.supertypes.get? name := Table.get?_of_perm h name
    have hmentioned : name ∈ entries.flatMap Prod.snd ↔
        name ∈ c.supertypes.entries.flatMap Prod.snd := (h.flatMap_right Prod.snd).mem_iff
    rw [get?_hierarchyOf c.root ⟨entries, hnodup⟩, hsame]
    simp only [bare, mentioned, List.mem_append, hmentioned]
  refine ⟨root_hierarchyOf _ _, fun name => ?known, fun name names hmem => ?written,
    fun name hmem hkey => ?only_mentioned⟩
  case known =>
    rw [Hierarchy.contains, Table.contains, hget, ← Table.contains_iff, Table.contains]
    by_cases hname : name ∈ c.mentioned <;> simp [bare, hname]
  case written => rw [hget, Table.get?_eq_some_iff.2 hmem, Option.some_or]
  case only_mentioned => rw [hget, Table.get?_eq_none_iff.2 hkey, bare_of_mem hmem, Option.none_or]

/-- Two hierarchies that say what one config says agree. -/
theorem Describes.agrees {c : Config} {g g' : Hierarchy} (hg : c.Describes g)
    (hg' : c.Describes g') : g.Agrees g' where
  root := hg.root.trans hg'.root.symm
  get? name := by
    by_cases hkey : name ∈ c.supertypes.keys
    · obtain ⟨⟨_, names⟩, hmem, rfl⟩ := List.mem_map.1 hkey
      rw [hg.written _ _ hmem, hg'.written _ _ hmem]
    · by_cases hname : name ∈ c.mentioned
      · rw [hg.only_mentioned name hname hkey, hg'.only_mentioned name hname hkey]
      · have hunknown : ∀ {g : Hierarchy}, c.Describes g → g.supertypes.get? name = none := by
          intro g hg
          rw [Table.get?_eq_none_iff, ← Table.contains_iff]
          exact fun h => ((hg.known name).1 h).elim hkey hname
        rw [hunknown hg, hunknown hg']

/-- **The order of the entries does not matter.** Entered in any two orders, the entries of a config
give hierarchies with its root, which know the same names with the same supertypes, those written
for a name and none for one that is only mentioned; and they answer every question alike. -/
theorem hierarchyOf_perm (c : Config) {entries entries' : List (String × List String)}
    (h : entries.Perm c.supertypes.entries) (h' : entries'.Perm c.supertypes.entries) :
    c.Describes (hierarchyOf c.root entries) ∧ c.Describes (hierarchyOf c.root entries') ∧
    (hierarchyOf c.root entries).Agrees (hierarchyOf c.root entries') ∧
    ∀ left right,
      (hierarchyOf c.root entries).relate left right =
        (hierarchyOf c.root entries').relate left right ∧
      (hierarchyOf c.root entries).isDerivedFrom left right =
        (hierarchyOf c.root entries').isDerivedFrom left right ∧
      (hierarchyOf c.root entries).detectsCycle left right =
        (hierarchyOf c.root entries').detectsCycle left right := by
  have hagrees := (describes_hierarchyOf h).agrees (describes_hierarchyOf h')
  exact ⟨describes_hierarchyOf h, describes_hierarchyOf h', hagrees, fun left right =>
    ⟨hagrees.relate left right, hagrees.isDerivedFrom left right, hagrees.detectsCycle left right⟩⟩

/-- The root is given supertypes, one of which is only mentioned, and two other names mention each
other. -/
def tangledConfig : Config where
  extends? := none
  root := some "Object"
  supertypes := ⟨[("Object", ["Top"]), ("A", ["B", "Object"]), ("B", ["A"])], by decide⟩

theorem hierarchyOf_perm_tangledConfig :
    let reversed := tangledConfig.supertypes.entries.reverse
    reversed.Perm tangledConfig.supertypes.entries ∧
      tangledConfig.toHierarchy.relate "Top" "A" = .ok .leftAncestorOfRight ∧
      (hierarchyOf tangledConfig.root reversed).relate "Top" "A" = .ok .leftAncestorOfRight ∧
      (hierarchyOf tangledConfig.root reversed).supertypes.get? "Object" = some ["Top"] ∧
      (hierarchyOf tangledConfig.root reversed).supertypes.get? "Top" = some [] := by
  intro reversed
  have hperm : reversed.Perm tangledConfig.supertypes.entries := List.reverse_perm _
  obtain ⟨hdescribes, -, -, hanswers⟩ := hierarchyOf_perm tangledConfig hperm (.refl _)
  have htop : tangledConfig.toHierarchy.relate "Top" "A" = .ok .leftAncestorOfRight := by cbv
  exact ⟨hperm, htop, (hanswers "Top" "A").1.trans htop,
    hdescribes.written "Object" ["Top"] (by decide),
    hdescribes.only_mentioned "Top" (by decide) (by decide)⟩

end TypeGrading.Config
