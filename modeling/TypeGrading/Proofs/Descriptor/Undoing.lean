import TypeGrading.Proofs.Descriptor.Appending
import TypeGrading.Proofs.Tree.Forgetting

/-!
# Undoing a run of edits

New records lie behind the old ones and new links behind the old links. So to forget what lies behind
the old records is to undo whatever was done since, be it a single name or many grafts.

* `Arena.truncate_of_size_le`: forgetting nothing;
* `Arena.extends_place`, `extends_perform`, `extends_after`: a placed tree, an edit and a run of edits
  go on from the arena before;
* `truncate_after`: what is left where a run of edits is forgotten.
-/

namespace TypeGrading.Tree.Arena

/-- Where no record is forgotten, no link is. -/
theorem truncate_of_size_le {a : Arena} {n : Nat} (h : a.size ≤ n) : a.truncate n = a := by
  have hkept : a.truncate n = (a.truncate n).truncate a.size := by
    conv_lhs => rw [← truncate_size (a.truncate n), size_truncate, Nat.min_eq_right h]
  rw [hkept, truncate_truncate a h, truncate_size]

theorem extends_place {a b : Arena} {parent : Option Nat} {t : TypeTree} {id : Nat}
    (h : a.place parent t = .ok (id, b)) : Extends a b := by
  cases parent with
  | none =>
    obtain ⟨hempty, -, -⟩ := place_none_eq_ok h
    rw [eq_empty_of_size hempty]
    exact extends_empty b
  | some p => exact extends_graft h

end TypeGrading.Tree.Arena

namespace TypeGrading.Descriptor

open TypeGrading.Tree

/-- **One edit.** Whether accepted or refused, an edit goes on from the arena before. -/
theorem extends_perform (a : Arena) (e : Edit) : a.Extends (e.perform a).2 := by
  cases hresult : (e.perform a).1 with
  | error x =>
    rw [Edit.refused_keeps hresult]
    exact Arena.Extends.refl a
  | ok id =>
    obtain ⟨t, hplace⟩ := Edit.exists_place_parent hresult
    exact Arena.extends_place hplace

/-- **A run of edits.** -/
theorem extends_after (a : Arena) (es : List Edit) : a.Extends (Edit.after a es) := by
  induction es generalizing a with
  | nil => exact Arena.Extends.refl a
  | cons e es ih => exact (extends_perform a e).trans (ih _)

/-- **Forgetting undoes a run of edits.** In any arena, whatever names, grafts and descriptors were
added, accepted or refused: where the records behind the old ones are forgotten the arena before is
left, with its names, parents and depths and with its child lists in their order. Where more is
forgotten, the edits make no difference to what is left; where no record lies so far behind, nothing
changes. -/
theorem truncate_after (a : Arena) (es : List Edit) :
    (Edit.after a es).truncate a.size = a ∧
    (∀ n ≤ a.size, (Edit.after a es).truncate n = a.truncate n) ∧
    ∀ n, (Edit.after a es).size ≤ n → (Edit.after a es).truncate n = Edit.after a es := by
  obtain ⟨-, hleft⟩ := extends_after a es
  refine ⟨hleft, fun n hn => ?_, fun n hn => Arena.truncate_of_size_le hn⟩
  calc (Edit.after a es).truncate n
      = ((Edit.after a es).truncate a.size).truncate n := (Arena.truncate_truncate _ hn).symm
    _ = a.truncate n := by rw [hleft]

/-- Two grafts under an old node and one under a new one, a name between them, and a descriptor that
is refused; four, three and nine records are kept. -/
theorem truncate_after_graftedArena :
    let es : List Edit := [.graft 1 TypeTree.null, .add 2 "E", .graft 4 TypeTree.null,
      .graft 1 TypeTree.null, .read "F<G" (some 0)]
    (Edit.after graftedArena es).size = 8 ∧
      (Edit.after graftedArena es).truncate 4 = graftedArena ∧
      (Edit.after graftedArena es).truncate 3 = graftedArena.truncate 3 ∧
      (Edit.after graftedArena es).truncate 9 = Edit.after graftedArena es := by
  intro es
  have hsize : (Edit.after graftedArena es).size = 8 := by decide +kernel
  have hold : graftedArena.size = 4 := by decide +kernel
  obtain ⟨hleft, hmore, hless⟩ := truncate_after graftedArena es
  exact ⟨hsize, hold ▸ hleft, hmore 3 (by rw [hold]; decide), hless 9 (by rw [hsize]; decide)⟩

end TypeGrading.Descriptor
