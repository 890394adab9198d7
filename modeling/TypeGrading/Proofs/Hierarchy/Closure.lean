import TypeGrading.Proofs.Hierarchy.Edits
import TypeGrading.Proofs.Hierarchy.Searching

/-!
# Closed hierarchies

Every edit makes the names known that it writes anywhere, and no name is ever forgotten. So the root
and all supertypes are known, and a search above a known name takes no other out of its queue.

* `Closed`: the root and all supertypes are known;
* `Closed.perform`, `Reached.closed`: edits keep a hierarchy closed, and so do runs of them;
* `Closed.contains_of_mem_taken`: what a search in a closed hierarchy takes out of its queue;
* `closed_and_growing`: all of it for the hierarchies that runs of edits reach.
-/

namespace TypeGrading.Hierarchy

/-- The root and every supertype of a name are known. -/
structure Closed (g : Hierarchy) : Prop where
  root : ∀ top, g.root = some top → g.contains top = true
  parents : ∀ child parent, parent ∈ g.parents child → g.contains parent = true

theorem closed_empty : Closed empty where
  root _ h := nomatch h
  parents _ _ h := nomatch h

/-- **One edit.** What it writes it also mentions. -/
theorem Closed.perform {g : Hierarchy} (hg : g.Closed) (e : Edit) : (e.perform g).Closed where
  root top h := contains_perform_iff.2 ((root_of_perform h).imp (hg.root top) Or.inr)
  parents child parent h :=
    contains_perform_iff.2 ((mem_parents_of_perform h).imp (hg.parents child parent) Or.inr)

/-- **A whole run.** -/
theorem Reached.closed {g : Hierarchy} (hg : Reached g) : g.Closed := by
  induction hg with
  | empty => exact closed_empty
  | withRoot name => exact closed_empty.perform (.setRoot name)
  | perform _ e ih => exact ih.perform e

/-! ### Searches -/

section Searches

variable {g : Hierarchy} {name child ancestor : String} {met queue : List String}

/-- The supertypes that join the queue are known. -/
theorem Closed.contains_of_mem_fresh (hg : g.Closed) (h : name ∈ g.fresh met child) :
    g.contains name = true :=
  hg.parents child name (mem_fresh_iff.1 h).1

/-- As long as the queue holds known names, no other is taken out of it. -/
theorem Closed.contains_of_mem_inquireAbove (hg : g.Closed)
    (hqueue : ∀ name ∈ queue, g.contains name = true) :
    ∀ name ∈ (g.inquireAbove ancestor met queue).taken, g.contains name = true := by
  fun_induction inquireAbove g ancestor met queue with
  | case1 met => exact List.forall_mem_nil _
  | case2 met first rest hget ih =>
    obtain ⟨hfirst, hrest⟩ := List.forall_mem_cons.1 hqueue
    exact List.forall_mem_cons.2 ⟨hfirst, ih hrest⟩
  | case3 met first rest parents hget hmeet =>
    obtain ⟨hfirst, -⟩ := List.forall_mem_cons.1 hqueue
    exact List.forall_mem_cons.2 ⟨hfirst, List.forall_mem_nil _⟩
  | case4 met first rest parents hget next hmeet ih =>
    obtain ⟨hfirst, hrest⟩ := List.forall_mem_cons.1 hqueue
    obtain ⟨-, rfl⟩ := Frontier.meetUntil_eq_some_iff.1 hmeet
    -- only supertypes of `first` join the queue
    refine List.forall_mem_cons.2 ⟨hfirst, ih (List.forall_mem_append.2 ⟨hrest, ?_⟩)⟩
    rw [← parents_of_get? hget]
    exact fun name h => hg.contains_of_mem_fresh h

/-- **Known names only.** The queue starts with a known name, and known names join it. -/
theorem Closed.contains_of_mem_taken (hg : g.Closed)
    (h : name ∈ (g.inquire child ancestor).taken) : g.contains name = true := by
  unfold inquire at h
  split_ifs at h with hno hroot
  · exact absurd h List.not_mem_nil
  · exact absurd h List.not_mem_nil
  · have hchild : g.contains child = true := not_not.1 (not_or.1 hno).2
    exact hg.contains_of_mem_inquireAbove (List.forall_mem_singleton.2 hchild) name h

end Searches

/-- **Hierarchies are closed and only grow.** After any run of edits the root, if there is one, and
all names that occur among the supertypes of a name are known. Whatever edits follow, one or many,
the names are known that were known before and those that the edits make known, and a name whose
supertypes none of them writes keeps those that it has. So a question whether a name is derived from
another one, answered name by name, takes known names out of its queue and has none to skip. -/
theorem closed_and_growing {g : Hierarchy} (hg : Reached g) :
    ((∀ top, g.root = some top → g.contains top = true) ∧
      ∀ child parent, parent ∈ g.parents child → g.contains parent = true) ∧
    (∀ (es : List Edit) (name : String),
      ((Edit.after g es).contains name = true ↔
        g.contains name = true ∨ ∃ e ∈ es, e.Names name) ∧
      ((∀ e ∈ es, e.child? ≠ some name) → (Edit.after g es).parents name = g.parents name)) ∧
    ∀ child ancestor : String,
      (g.inquire child ancestor).answer = g.isDerivedFrom child ancestor ∧
      (∀ name ∈ (g.inquire child ancestor).taken, g.contains name = true) ∧
      (g.inquire child ancestor).skipped = [] := by
  have hclosed := hg.closed
  refine ⟨⟨hclosed.root, hclosed.parents⟩, fun es name => ⟨contains_after_iff g, parents_after g⟩,
    fun child ancestor => ⟨answer_inquire g child ancestor, ?taken, ?skipped⟩⟩
  case taken => exact fun name h => hclosed.contains_of_mem_taken h
  case skipped =>
    refine List.eq_nil_iff_forall_not_mem.2 fun name h => ?_
    obtain ⟨htaken, hunknown⟩ := mem_skipped_iff.1 h
    rw [hclosed.contains_of_mem_taken htaken] at hunknown
    exact Bool.false_ne_true hunknown.symm

/-- A name among its own supertypes, which name one twice; one that gets supertypes only after it is
one; and a root that becomes known with its place. -/
def knottedHierarchy : Hierarchy :=
  (((empty.setSupertypes "A" ["A", "B", "B"]).addInheritance "B" ["A", "C"]).setSupertypes "D"
    ["A"]).setRoot "E"

theorem reached_knottedHierarchy : Reached knottedHierarchy :=
  (((Reached.empty.perform (.setSupertypes "A" ["A", "B", "B"])).perform
    (.addInheritance "B" ["A", "C"])).perform (.setSupertypes "D" ["A"])).perform (.setRoot "E")

theorem closed_and_growing_knottedHierarchy :
    Reached knottedHierarchy ∧ knottedHierarchy.contains "E" = true ∧
      knottedHierarchy.contains "C" = true ∧
      (Edit.after knottedHierarchy [.setSupertypes "A" [], .setRoot "D"]).contains "C" = true ∧
      (Edit.after knottedHierarchy [.setSupertypes "A" [], .setRoot "D"]).parents "B" =
        ["A", "C"] ∧
      (knottedHierarchy.inquire "D" "F").taken = ["D", "A", "B", "C"] ∧
      (knottedHierarchy.inquire "D" "F").skipped = [] ∧
      knottedHierarchy.isDerivedFrom "D" "F" = false := by
  have hroot : knottedHierarchy.root = some "E" := by cbv
  have hparents : knottedHierarchy.parents "B" = ["A", "C"] := by cbv
  obtain ⟨⟨htop, hknown⟩, hafter, hasked⟩ := closed_and_growing reached_knottedHierarchy
  have hc : knottedHierarchy.contains "C" = true :=
    hknown "B" "C" (hparents ▸ by decide)
  obtain ⟨hnames, -⟩ := hafter [.setSupertypes "A" [], .setRoot "D"] "C"
  obtain ⟨-, hkept⟩ := hafter [.setSupertypes "A" [], .setRoot "D"] "B"
  obtain ⟨hanswer, -, hskipped⟩ := hasked "D" "F"
  refine ⟨reached_knottedHierarchy, htop "E" hroot, hc, hnames.2 (Or.inl hc),
    (hkept (by decide)).trans hparents, by cbv, hskipped, hanswer.symm.trans ?_⟩
  cbv

end TypeGrading.Hierarchy
