import Mathlib.Data.List.Induction
import TypeGrading.Hierarchy

/-!
# Searching name by name

A search that takes one name at a time out of its queue, looks its supertypes up, and meets them one
after the other. A name that is not known has no entry to look up; it is skipped.

* `Frontier`, `Frontier.meet`: where a search stands, and what meeting a name does;
* `Frontier.meetUntil_eq`: where a search stands when the supertypes of a name were met;
* `Inquiry`, `inquire`: a question with the names taken out of the queue, those skipped among them;
* `answer_inquire`: it is answered as `isDerivedFrom` does, on any hierarchy;
* `mem_skipped_iff`: of the names taken, those are skipped that are not known.
-/

namespace TypeGrading.Hierarchy

/-! ### Meeting names -/

/-- Where a search stands: the names met, and of these the ones in the queue, in order. -/
structure Frontier where
  met : List String
  queue : List String

namespace Frontier

/-- Meet a name. Unless it was met before, it joins the queue. -/
def meet (s : Frontier) (name : String) : Frontier :=
  if name ∈ s.met then s else ⟨s.met ++ [name], s.queue ++ [name]⟩

/-- Meet names one after the other; there is nothing left to do once the one searched for comes. -/
def meetUntil (ancestor : String) (s : Frontier) : List String → Option Frontier
  | [] => some s
  | name :: names => if name = ancestor then none else (s.meet name).meetUntil ancestor names

/-- The frontier with new names behind the others. -/
def join (s : Frontier) (names : List String) : Frontier := ⟨s.met ++ names, s.queue ++ names⟩

/-- Of names met one after the other, those that are new join the queue, each once. -/
theorem foldl_meet (s : Frontier) (names : List String) :
    names.foldl meet s = s.join (names.eraseDups.filter (· ∉ s.met)) := by
  induction names using List.reverseRecOn with
  | nil => simp [join]
  | append_singleton names name ih =>
    rw [List.foldl_append, ih, List.foldl_cons, List.foldl_nil, List.eraseDups_append]
    by_cases hmem : name ∈ names
    · simp [meet, join, List.removeAll, hmem]
    · by_cases hmet : name ∈ s.met
      · simp [meet, join, List.removeAll, hmem, hmet]
      · simp [meet, join, List.removeAll, List.eraseDups_cons, hmem, hmet]

/-- All names are met, unless the one searched for is among them. -/
theorem meetUntil_eq (ancestor : String) (s : Frontier) (names : List String) :
    s.meetUntil ancestor names =
      if ancestor ∈ names then none else some (s.join (names.eraseDups.filter (· ∉ s.met))) := by
  rw [← foldl_meet]
  induction names generalizing s with
  | nil => simp [meetUntil]
  | cons name names ih =>
    by_cases hname : name = ancestor
    · simp [meetUntil, hname]
    · simp [meetUntil, hname, ih, Ne.symm hname]

variable {ancestor : String} {s next : Frontier} {names : List String}

theorem meetUntil_eq_none_iff : s.meetUntil ancestor names = none ↔ ancestor ∈ names := by
  rw [meetUntil_eq]
  split_ifs with h <;> simp [h]

theorem meetUntil_eq_some_iff : s.meetUntil ancestor names = some next ↔
    ancestor ∉ names ∧ next = s.join (names.eraseDups.filter (· ∉ s.met)) := by
  rw [meetUntil_eq]
  split_ifs with h <;> simp [h, eq_comm]

end Frontier

/-! ### Whole questions -/

/-- What is done to answer a question: the names taken out of the queue, in order; those of them that
were skipped; and the answer. -/
structure Inquiry where
  taken : List String
  skipped : List String
  answer : Bool

namespace Inquiry

/-- A question answered at once. -/
def told (answer : Bool) : Inquiry := ⟨[], [], answer⟩

/-- The question with a name taken out of the queue before. -/
def take (i : Inquiry) (name : String) : Inquiry := { i with taken := name :: i.taken }

/-- The question with a name taken out of the queue before, and skipped. -/
def skip (i : Inquiry) (name : String) : Inquiry :=
  { i.take name with skipped := name :: i.skipped }

end Inquiry

/-- A search for `ancestor` that takes the names out of the queue one by one. -/
def inquireAbove (g : Hierarchy) (ancestor : String) (met queue : List String) : Inquiry :=
  match queue with
  | [] => .told false
  | name :: rest =>
    match _ : g.supertypes.get? name with
    | none => (g.inquireAbove ancestor met rest).skip name
    | some parents =>
      match _ : Frontier.meetUntil ancestor ⟨met, rest⟩ parents with
      | none => (Inquiry.told true).take name
      | some next => (g.inquireAbove ancestor next.met next.queue).take name
termination_by ((g.unmet met).length, queue.length)
decreasing_by
  · exact Prod.Lex.right _ (Nat.lt_succ_self _)
  · rename_i hget hmeet
    obtain ⟨-, rfl⟩ := Frontier.meetUntil_eq_some_iff.1 hmeet
    rw [← parents_of_get? hget]
    exact g.unmet_append_lt met rest name

/-- Whether `child` is a proper descendant of `ancestor`, told name by name. Equal names, an unknown
one and the root need no search. -/
def inquire (g : Hierarchy) (child ancestor : String) : Inquiry :=
  if child = ancestor ∨ ¬ g.contains child then .told false
  else if g.root = some ancestor then .told true
  else g.inquireAbove ancestor [child] [child]

section Answers

variable (g : Hierarchy) (child ancestor : String) (met queue : List String)

/-- Name by name, a search finds the same. -/
theorem answer_inquireAbove :
    (g.inquireAbove ancestor met queue).answer = g.search ancestor met queue := by
  fun_induction inquireAbove g ancestor met queue with
  | case1 met => rw [search, Inquiry.told]
  | case2 met name rest hget ih =>
    -- an unknown name has no supertypes, so nothing is found and nothing joins the queue
    have hparents : g.parents name = [] := by rw [parents, hget, Option.getD_none]
    have hfresh : g.fresh met name = [] := by rw [fresh, hparents]; rfl
    rw [search, hparents, if_neg List.not_mem_nil, hfresh, List.append_nil, List.append_nil]
    exact ih
  | case3 met name rest parents hget hmeet =>
    have hfound := Frontier.meetUntil_eq_none_iff.1 hmeet
    rw [search, parents_of_get? hget, if_pos hfound]
    rfl
  | case4 met name rest parents hget next hmeet ih =>
    obtain ⟨hnot, rfl⟩ := Frontier.meetUntil_eq_some_iff.1 hmeet
    rw [search, parents_of_get? hget, if_neg hnot, fresh, parents_of_get? hget]
    exact ih

/-- **The answer** of a question told name by name is whether `child` is derived from `ancestor`. -/
theorem answer_inquire : (g.inquire child ancestor).answer = g.isDerivedFrom child ancestor := by
  unfold inquire isDerivedFrom
  split_ifs with hno hroot
  · rcases hno with heq | hunknown
    · simp [heq, Inquiry.told]
    · simp [hunknown, Inquiry.told]
  · obtain ⟨hne, hknown⟩ := not_or.1 hno
    simp [hne, not_not.1 hknown, hroot, Inquiry.told]
  · obtain ⟨hne, hknown⟩ := not_or.1 hno
    simp [hne, not_not.1 hknown, hroot, answer_inquireAbove, reaches]

end Answers

section Skipped

variable {g : Hierarchy} {name child ancestor : String} {met queue : List String}

/-- A name that is taken out of the queue is skipped exactly if it is not known. -/
theorem mem_skipped_inquireAbove_iff : name ∈ (g.inquireAbove ancestor met queue).skipped ↔
    name ∈ (g.inquireAbove ancestor met queue).taken ∧ g.contains name = false := by
  fun_induction inquireAbove g ancestor met queue with
  | case1 met => simp [Inquiry.told]
  | case2 met first rest hget ih =>
    have hunknown : g.contains first = false := by rw [contains, Table.contains, hget]; rfl
    simp only [Inquiry.skip, Inquiry.take, List.mem_cons, ih]
    grind
  | case3 met first rest parents hget hmeet =>
    have hknown := contains_of_get? hget
    simp only [Inquiry.take, Inquiry.told, List.mem_cons]
    grind
  | case4 met first rest parents hget next hmeet ih =>
    have hknown := contains_of_get? hget
    simp only [Inquiry.take, List.mem_cons, ih]
    grind

/-- **Skipped names** are those taken that are not known, whatever the hierarchy. -/
theorem mem_skipped_iff : name ∈ (g.inquire child ancestor).skipped ↔
    name ∈ (g.inquire child ancestor).taken ∧ g.contains name = false := by
  unfold inquire
  split_ifs
  · simp [Inquiry.told]
  · simp [Inquiry.told]
  · exact mem_skipped_inquireAbove_iff

end Skipped

end TypeGrading.Hierarchy
