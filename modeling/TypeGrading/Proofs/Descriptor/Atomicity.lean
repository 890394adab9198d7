import TypeGrading.Proofs.Descriptor.Edits
import TypeGrading.Proofs.Descriptor.Refusal

/-!
# Atomic edits

An edit places one whole tree or does nothing: a single name, a copy of a finished tree, or the tree
of a descriptor, however many of its names the reader had added before it stopped.

* `Edit.refused_keeps`: what a refused edit leaves behind;
* `Edit.exists_place_parent`: what an accepted edit does;
* `edits_are_atomic`: an edit is refused exactly if it changes nothing.
-/

namespace TypeGrading.Descriptor

open TypeGrading.Tree

namespace Edit

variable {a : Arena} {e : Edit}

/-! ### Refused edits -/

theorem settle_eq_error {result : Except EditError (Nat × Arena)} {x : Refusal}
    (h : (settle a result).1 = .error x) : (settle a result).2 = a := by
  cases result with
  | error _ => rfl
  | ok added => cases h

/-- **A refused edit leaves the arena as it was.** -/
theorem refused_keeps {x : Refusal} (h : (e.perform a).1 = .error x) : (e.perform a).2 = a := by
  cases e with
  | addRoot name => exact settle_eq_error h
  | add parent name => exact settle_eq_error h
  | graft parent subtree => exact settle_eq_error h
  | read descriptor parent =>
    simp only [perform] at h ⊢
    cases hread : (readUnder a descriptor parent).1 with
    | ok id =>
      rw [hread] at h
      cases h
    | error fault => rw [readUnder_refused hread]

/-! ### Accepted edits -/

theorem settle_eq_ok {result : Except EditError (Nat × Arena)} {id : Nat}
    (h : (settle a result).1 = .ok id) : result = .ok (id, (settle a result).2) := by
  cases result with
  | error _ => cases h
  | ok added =>
    obtain rfl : added.1 = id := Except.ok.inj h
    rfl

/-- **An accepted edit places one tree**, where the edit says. -/
theorem exists_place_parent {id : Nat} (h : (e.perform a).1 = .ok id) :
    ∃ t, a.place e.parent? t = .ok (id, (e.perform a).2) := by
  cases e with
  | addRoot name =>
    have hadd := settle_eq_ok h
    obtain ⟨-, hname, -, -⟩ := Arena.addRoot_eq_ok hadd
    exact ⟨TypeTree.single name, (Arena.place_single hname).trans hadd⟩
  | add parent name =>
    have hadd := settle_eq_ok h
    obtain ⟨hname, -⟩ := Arena.add_eq_ok hadd
    exact ⟨TypeTree.single name, (Arena.place_single hname).trans hadd⟩
  | graft parent subtree => exact ⟨subtree, settle_eq_ok h⟩
  | read descriptor parent =>
    simp only [perform] at h ⊢
    rcases hread : readUnder a descriptor parent with ⟨fault | node, b⟩
    · rw [hread] at h
      cases h
    · obtain rfl : node = id := by
        rw [hread] at h
        exact Except.ok.inj h
      obtain ⟨p, -, -, hplace⟩ := exists_place_of_readUnder hread
      exact ⟨TypeTree.ofExpr p.expr, hplace⟩

theorem exists_place {id : Nat} (h : (e.perform a).1 = .ok id) :
    ∃ parent t, a.place parent t = .ok (id, (e.perform a).2) :=
  ⟨e.parent?, exists_place_parent h⟩

end Edit

/-- **Edits are atomic.** In any arena, an edit is refused exactly if the arena afterwards is the one
before, with the same names, parents, child lists and depths. So nothing is left of the names that a
refused descriptor had added, wherever the reader stopped in it and for whatever cause, with or
without a parent. -/
theorem edits_are_atomic (a : Arena) (e : Edit) :
    (∃ x, (e.perform a).1 = .error x) ↔ (e.perform a).2 = a := by
  constructor
  · rintro ⟨x, hx⟩
    exact Edit.refused_keeps hx
  · intro hkeep
    cases hresult : (e.perform a).1 with
    | error x => exact ⟨x, rfl⟩
    | ok id =>
      -- an accepted edit places a tree, and a tree has a root
      obtain ⟨parent, t, hplace⟩ := Edit.exists_place hresult
      have hsize := Arena.size_of_place hplace
      rw [hkeep] at hsize
      have := t.rooted
      omega

/-- Five names are added here, below three parents, before the text ends in an open list. -/
example : (Edit.perform graftedArena (.read "B<C<D>,E<F" (some 0))).2 = graftedArena := by
  decide +kernel

end TypeGrading.Descriptor
