import Mathlib.Tactic

/-!
# Bounded recursion

A recursion as a body that is given the nested calls, and how many of them it needs inside one
another.

* `unrolled`: the recursion with a number of levels, beyond which anything may happen;
* `unrolled_eq`: where a measure goes down with every nested call, it bounds the levels needed.
-/

namespace TypeGrading

section Unrolled

variable {α β : Type} (body : (α → β) → α → β)

/-- A call that may nest so many levels, itself counted. Any call beyond them is replied to by
`beyond`; so a result that is the same for every `beyond` needs none of those calls. -/
def unrolled (beyond : α → β) : Nat → α → β
  | 0 => beyond
  | levels + 1 => body (unrolled beyond levels)

variable {body} (result : α → β) (Valid : α → Prop) (measure : α → Nat)

/-- **Levels needed.** Where every valid call has a positive measure, and its result is told from
those of valid calls with a smaller one, as many levels as the measure are enough. -/
theorem unrolled_eq (pos : ∀ x, Valid x → 0 < measure x)
    (step : ∀ x nested, Valid x →
      (∀ y, Valid y → measure y < measure x → nested y = result y) → body nested x = result x)
    (beyond : α → β) {levels : Nat} {x : α} (hx : Valid x) (hlevels : measure x ≤ levels) :
    unrolled body beyond levels x = result x := by
  induction levels generalizing x with
  | zero => exact absurd (pos x hx) (by omega)
  | succ levels ih => exact step x _ hx fun y hy hlt => ih hy (by omega)

end Unrolled

end TypeGrading
