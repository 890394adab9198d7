import TypeGrading.Dialogue

/-!
# Caches

Answers remembered per ordered pair of names. Only relations are remembered: a failure is asked
for again.

* `Cache.consult`, `Cache.relate`: the remembered relation of a pair, or the answer of another
  resolver, which is asked for it;
* `Session`: a cache in use, with the events so far;
* `Dialogue.inSession`: a dialogue that is answered from a session.
-/

namespace TypeGrading

/-- Relations remembered per ordered pair of names. -/
structure Cache where
  known : Table (String × String) Relation

namespace Cache

/-- Nothing is remembered. -/
def empty : Cache := ⟨Table.empty⟩

instance : Inhabited Cache := ⟨empty⟩

/-- The number of pairs remembered. -/
def size (c : Cache) : Nat := c.known.size

/-- The relation remembered for a pair. -/
def get? (c : Cache) (left right : String) : Option Relation := c.known.get? (left, right)

/-- Remember a relation. -/
def put (c : Cache) (left right : String) (relation : Relation) : Cache :=
  ⟨c.known.put (left, right) relation⟩

theorem get?_empty (left right : String) : empty.get? left right = none := rfl

theorem get?_put (c : Cache) (left right : String) (relation : Relation) (l r : String) :
    (c.put left right relation).get? l r =
      if l = left ∧ r = right then some relation else c.get? l r := by
  unfold get? put
  split
  · rename_i h
    rw [h.1, h.2, Table.get?_put_self]
  · rename_i h
    exact Table.get?_put_of_ne _ _ fun hpair => h (Prod.mk.inj hpair)

/-- The answer for a pair that the inner resolver was asked about, the cache afterwards, and the
relation that was newly remembered, if any. -/
def learn (c : Cache) (left right : String) : Answer → Answer × Cache × Option Relation
  | .ok relation => (.ok relation, c.put left right relation, some relation)
  | .error e => (.error e, c, none)

@[simp] theorem fst_learn (c : Cache) (left right : String) (answer : Answer) :
    (c.learn left right answer).1 = answer := by
  cases answer <;> rfl

/-- A question put to the cache, as a dialogue with the inner resolver. Only a pair that is not
remembered is passed on. -/
def consult (c : Cache) (left right : String) : Dialogue (Answer × Cache × Option Relation) :=
  match c.get? left right with
  | some relation => .done (.ok relation, c, none)
  | none => .ask left right fun answer => .done (c.learn left right answer)

/-- What a question to the cache comes to over an inner resolver. -/
def relate (inner : Resolver) (c : Cache) (left right : String) :
    Answer × Cache × Option Relation :=
  (c.consult left right).answer inner

section Consulting

variable {c : Cache} {left right : String}

theorem consult_of_some {relation : Relation} (h : c.get? left right = some relation) :
    c.consult left right = .done (.ok relation, c, none) := by
  rw [consult, h]

theorem consult_of_none (h : c.get? left right = none) :
    c.consult left right = .ask left right fun answer => .done (c.learn left right answer) := by
  rw [consult, h]

theorem relate_of_some {relation : Relation} (h : c.get? left right = some relation)
    (inner : Resolver) : c.relate inner left right = (.ok relation, c, none) := by
  rw [relate, consult_of_some h, Dialogue.answer]

theorem relate_of_none (h : c.get? left right = none) (inner : Resolver) :
    c.relate inner left right = c.learn left right (inner left right) := by
  rw [relate, consult_of_none h, Dialogue.answer, Dialogue.answer]

end Consulting

end Cache

/-- A cache in use, and what was told of so far, oldest first. -/
structure Session where
  cache : Cache
  events : List Event

namespace Session

/-- Nothing has happened yet. -/
def start : Session := ⟨Cache.empty, []⟩

/-- Take note of an event. -/
def hear (e : Event) (s : Session) : Session := { s with events := s.events ++ [e] }

/-- Answer a question through the cache; a newly remembered relation is told of. -/
def reply (inner : Resolver) (left right : String) (s : Session) : Answer × Session :=
  let (answer, cache, new) := s.cache.relate inner left right
  let s := { s with cache }
  match new with
  | some relation => (answer, s.hear (.relationCached left right relation))
  | none => (answer, s)

end Session

/-- A dialogue that is answered through the cache of a session. -/
def Dialogue.inSession {α : Type} (d : Dialogue α) (inner : Resolver) (s : Session) : α × Session :=
  d.converse (Session.reply inner) Session.hear s

end TypeGrading
