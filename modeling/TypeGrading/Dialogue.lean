import TypeGrading.Event

/-!
# Dialogues

A computation that asks how names relate, and tells of events, before it answers. It is a tree of
questions, so what it asks and what it answers can be studied apart from who replies.

* `Dialogue α`: an answer, a question with what follows each reply, or an event;
* `answer`, `queries`, `events`: what a dialogue comes to when one resolver replies throughout;
* `converse`: a dialogue with a partner who keeps a state.
-/

namespace TypeGrading

/-- A computation that asks for relations between names. -/
inductive Dialogue (α : Type) where
  | done (result : α)
  | ask (left right : String) (next : Answer → Dialogue α)
  | tell (event : Event) (next : Dialogue α)

namespace Dialogue

variable {α β σ : Type}

/-- Go on with the result of a dialogue. -/
def bind : Dialogue α → (α → Dialogue β) → Dialogue β
  | .done a, k => k a
  | .ask l r next, k => .ask l r fun reply => (next reply).bind k
  | .tell e next, k => .tell e (next.bind k)

instance : Monad Dialogue where
  pure := .done
  bind := bind

/-- Ask how two names relate. -/
def query (left right : String) : Dialogue Answer := .ask left right .done

/-- Tell of an event. -/
def note (event : Event) : Dialogue Unit := .tell event (.done ())

/-! ### One resolver replies -/

/-- The result when `r` replies. -/
def answer (r : Resolver) : Dialogue α → α
  | .done a => a
  | .ask l r' next => (next (r l r')).answer r
  | .tell _ next => next.answer r

/-- The pairs asked about when `r` replies, in order. -/
def queries (r : Resolver) : Dialogue α → List (String × String)
  | .done _ => []
  | .ask l r' next => (l, r') :: (next (r l r')).queries r
  | .tell _ next => next.queries r

/-- The events told of when `r` replies, in order. -/
def events (r : Resolver) : Dialogue α → List Event
  | .done _ => []
  | .ask l r' next => (next (r l r')).events r
  | .tell e next => e :: next.events r

/-! ### A partner with a state -/

/-- The result and the final state when `reply` answers the questions and `hear` takes note of the
events. -/
def converse (reply : String → String → σ → Answer × σ) (hear : Event → σ → σ) :
    Dialogue α → σ → α × σ
  | .done a, s => (a, s)
  | .ask l r next, s => (next (reply l r s).1).converse reply hear (reply l r s).2
  | .tell e next, s => next.converse reply hear (hear e s)

/-! ### Going on -/

@[simp] theorem pure_eq (a : α) : (pure a : Dialogue α) = .done a := rfl

@[simp] theorem bind_eq (d : Dialogue α) (k : α → Dialogue β) : d >>= k = d.bind k := rfl

@[simp] theorem answer_bind (r : Resolver) (d : Dialogue α) (k : α → Dialogue β) :
    (d.bind k).answer r = (k (d.answer r)).answer r := by
  induction d with
  | done a => rfl
  | ask l r' next ih => exact ih _
  | tell e next ih => exact ih

@[simp] theorem queries_bind (r : Resolver) (d : Dialogue α) (k : α → Dialogue β) :
    (d.bind k).queries r = d.queries r ++ (k (d.answer r)).queries r := by
  induction d with
  | done a => rfl
  | ask l r' next ih => exact congrArg ((l, r') :: ·) (ih _)
  | tell e next ih => exact ih

end Dialogue

end TypeGrading
