import Mathlib.Data.Finset.Card
import Mathlib.Data.List.DropRight
import Mathlib.Tactic
import TypeGrading.Cache

/-!
# Histories of a cache

What a cache holds, and when it asks on, after any history of questions and clearings, over an inner
resolver that may change its answers in between.

* `Front`, `Move`: a cache over an inner resolver, and what can happen to it;
* `Call`, `sinceCleared`: the calls of the inner resolver, and those since the last clearing;
* `firstFound`: the first relation that was found for an ordered pair;
* `Front.Remembers`: what is remembered is what was found first; kept by every move;
* `asked_after`: answers, calls and the number of pairs after any history.
-/

namespace TypeGrading

/-! ### Calls -/

/-- A call of the inner resolver, and what it answered. -/
structure Call where
  left : String
  right : String
  answer : Answer

namespace Call

/-- The ordered pair that was asked about. -/
def pair (call : Call) : String × String := (call.left, call.right)

/-- The relation that the call found for a pair, if it was about this pair and successful. -/
def found (left right : String) (call : Call) : Option Relation :=
  if call.pair = (left, right) then call.answer.toOption else none

end Call

theorem Call.found_of_ne (call : Call) {left right : String} (h : call.pair ≠ (left, right)) :
    call.found left right = none :=
  if_neg h

/-- The first relation that was found for a pair. -/
def firstFound (calls : List Call) (left right : String) : Option Relation :=
  calls.findSome? (Call.found left right)

/-- The different pairs for which a relation was found. -/
def pairsFound (calls : List Call) : Finset (String × String) :=
  ((calls.filter (·.answer.isOk)).map Call.pair).toFinset

theorem firstFound_concat (calls : List Call) (call : Call) (left right : String) :
    firstFound (calls ++ [call]) left right =
      (firstFound calls left right).or (call.found left right) := by
  simp [firstFound, List.findSome?_append]

theorem Call.isSome_found_iff {call : Call} {left right : String} :
    (call.found left right).isSome = true ↔
      call.answer.isOk = true ∧ call.pair = (left, right) := by
  unfold found
  by_cases hpair : call.pair = (left, right)
  · cases hanswer : call.answer <;> simp [hpair, Except.toOption, Except.isOk, Except.toBool]
  · simp [hpair]

theorem isSome_firstFound_iff {calls : List Call} {left right : String} :
    (firstFound calls left right).isSome = true ↔ (left, right) ∈ pairsFound calls := by
  simp only [firstFound, List.findSome?_isSome_iff, Call.isSome_found_iff, pairsFound,
    List.mem_toFinset, List.mem_map, List.mem_filter, and_assoc]

/-! ### Logs -/

/-- What a log holds: a call of the inner resolver, or that the cache was cleared. -/
inductive Incident
  | called (call : Call)
  | cleared

/-- The call that an incident is. -/
def Incident.call? : Incident → Option Call
  | .called call => some call
  | .cleared => none

/-- The calls since the cache was last cleared, oldest first. -/
def sinceCleared (log : List Incident) : List Call :=
  (log.rtakeWhile (·.call?.isSome)).filterMap Incident.call?

@[simp] theorem sinceCleared_called (log : List Incident) (call : Call) :
    sinceCleared (log ++ [.called call]) = sinceCleared log ++ [call] := by
  rw [sinceCleared, List.rtakeWhile_concat_pos _ _ _ (by rfl), List.filterMap_append]
  rfl

@[simp] theorem sinceCleared_cleared (log : List Incident) :
    sinceCleared (log ++ [.cleared]) = [] := by
  rw [sinceCleared, List.rtakeWhile_concat_neg _ _ _ (by simp [Incident.call?]), List.filterMap_nil]

/-! ### Moves -/

/-- A cache over an inner resolver, with what happened so far, oldest first. -/
structure Front where
  inner : Resolver
  cache : Cache
  log : List Incident

namespace Front

/-- Nothing has happened yet. -/
def start (inner : Resolver) : Front := ⟨inner, Cache.empty, []⟩

/-- What a question is answered, and the calls of the inner resolver that it takes. -/
def asked (f : Front) (left right : String) : Answer × List Call :=
  ((f.cache.relate f.inner left right).1,
    ((f.cache.consult left right).queries f.inner).map fun q => ⟨q.1, q.2, f.inner q.1 q.2⟩)

end Front

/-- What can happen to a cache over an inner resolver: a question, a clearing, or that the inner
resolver changes, to answer any way. -/
inductive Move
  | relate (left right : String)
  | clear
  | change (inner : Resolver)

/-- The cache, the inner resolver and the log after a move. -/
def Move.perform (f : Front) : Move → Front
  | .relate left right =>
    { f with
      cache := (f.cache.relate f.inner left right).2.1
      log := f.log ++ (f.asked left right).2.map .called }
  | .clear => { f with cache := .empty, log := f.log ++ [.cleared] }
  | .change inner => { f with inner }

/-- After a history of moves, oldest first. -/
def Front.after (inner : Resolver) (moves : List Move) : Front :=
  moves.foldl Move.perform (.start inner)

/-! ### What is remembered -/

namespace Front

variable {f : Front} {left right : String}

/-- For every ordered pair, the cache remembers what was found first since it was last cleared. -/
def Remembers (f : Front) : Prop :=
  ∀ left right, f.cache.get? left right = firstFound (sinceCleared f.log) left right

theorem asked_of_some {relation : Relation} (h : f.cache.get? left right = some relation) :
    f.asked left right = (.ok relation, []) := by
  rw [asked, Cache.relate_of_some h, Cache.consult_of_some h]
  rfl

theorem asked_of_none (h : f.cache.get? left right = none) :
    f.asked left right = (f.inner left right, [⟨left, right, f.inner left right⟩]) := by
  rw [asked, Cache.relate_of_none h, Cache.fst_learn, Cache.consult_of_none h]
  rfl

/-- What an answer of the inner resolver adds to the cache is what its call found. -/
theorem get?_learn {c : Cache} (hnone : c.get? left right = none) (answer : Answer) (l r : String) :
    (c.learn left right answer).2.1.get? l r =
      (c.get? l r).or (Call.found l r ⟨left, right, answer⟩) := by
  by_cases hpair : (left, right) = (l, r)
  · obtain ⟨rfl, rfl⟩ := Prod.mk.inj hpair
    cases answer <;> simp [Cache.learn, Cache.get?_put, hnone, Call.found, Call.pair, Except.toOption]
  · have hne : ¬ (l = left ∧ r = right) := fun h => hpair (by rw [h.1, h.2])
    rw [Call.found_of_ne ⟨left, right, answer⟩ hpair, Option.or_none]
    cases answer <;> simp [Cache.learn, Cache.get?_put, hne]

/-- **One move.** -/
theorem Remembers.perform (h : f.Remembers) (m : Move) : (m.perform f).Remembers := by
  intro l r
  cases m with
  | relate left right =>
    cases hget : f.cache.get? left right with
    | some relation =>
      simpa [Move.perform, Cache.relate_of_some hget, asked_of_some hget] using h l r
    | none =>
      simp only [Move.perform, Cache.relate_of_none hget, asked_of_none hget, List.map_cons,
        List.map_nil, sinceCleared_called, firstFound_concat]
      rw [get?_learn hget, h l r]
  | clear => simp [Move.perform, Cache.get?_empty, firstFound]
  | change inner => exact h l r

/-- **A whole history.** -/
theorem remembers_after (inner : Resolver) (moves : List Move) : (after inner moves).Remembers := by
  have hrun : ∀ f : Front, f.Remembers → (moves.foldl Move.perform f).Remembers := by
    induction moves with
    | nil => exact fun _ h => h
    | cons m moves ih => exact fun f h => ih (m.perform f) (h.perform m)
  exact hrun (start inner) fun _ _ => rfl

/-- As many pairs are remembered as a relation was found for. -/
theorem Remembers.size_eq (h : f.Remembers) :
    f.cache.size = (pairsFound (sinceCleared f.log)).card := by
  have hkeys : f.cache.known.keys.toFinset = pairsFound (sinceCleared f.log) := by
    ext ⟨left, right⟩
    rw [List.mem_toFinset, ← Table.contains_iff, Table.contains, ← isSome_firstFound_iff, ← h]
    rfl
  have hnodup : f.cache.known.keys.Nodup := f.cache.known.nodup
  rw [← hkeys, List.toFinset_card_of_nodup hnodup]
  exact (List.length_map _).symm

/-- A question about one pair changes nothing for another one. -/
theorem asked_perform_of_ne {l r : String} (hne : (left, right) ≠ (l, r)) :
    ((Move.relate left right).perform f).asked l r = f.asked l r := by
  have hsame : ((Move.relate left right).perform f).cache.get? l r = f.cache.get? l r := by
    change (f.cache.relate f.inner left right).2.1.get? l r = f.cache.get? l r
    cases hget : f.cache.get? left right with
    | some relation => rw [Cache.relate_of_some hget]
    | none =>
      rw [Cache.relate_of_none hget, get?_learn hget, Call.found_of_ne ⟨left, right, _⟩ hne,
        Option.or_none]
  cases hget : f.cache.get? l r with
  | some relation => rw [asked_of_some hget, asked_of_some (hsame.trans hget)]
  | none =>
    rw [asked_of_none hget, asked_of_none (hsame.trans hget)]
    rfl

/-- **After any history.** A question is answered with the relation that the inner resolver first
found for its ordered pair since the cache was last cleared, without a call and whatever the inner
resolver would answer now; if it found none, it is called once, and its answer is passed on. The
pairs remembered are those for which a relation was found since then. And a question never settles
the question for the pair turned round. -/
theorem asked_after (inner : Resolver) (moves : List Move) (left right : String) :
    (∀ relation, firstFound (sinceCleared (after inner moves).log) left right = some relation →
      (after inner moves).asked left right = (.ok relation, [])) ∧
    (firstFound (sinceCleared (after inner moves).log) left right = none →
      (after inner moves).asked left right =
        ((after inner moves).inner left right,
          [⟨left, right, (after inner moves).inner left right⟩])) ∧
    (after inner moves).cache.size = (pairsFound (sinceCleared (after inner moves).log)).card ∧
    (left ≠ right →
      ((Move.relate left right).perform (after inner moves)).asked right left =
        (after inner moves).asked right left) := by
  have h := remembers_after inner moves
  refine ⟨fun relation hfound => ?_, fun hnone => ?_, h.size_eq, fun hne => ?_⟩
  · exact asked_of_some ((h left right).trans hfound)
  · exact asked_of_none ((h left right).trans hnone)
  · exact asked_perform_of_ne fun hpair => hne (Prod.mk.inj hpair).1

-- what was found first is answered until the cache is cleared
example :
    let f := after Resolver.exact [.relate "A" "B", .change fun _ _ => .ok .equal]
    f.asked "A" "B" = (.ok .unrelated, []) ∧
      ((Move.perform f .clear).asked "A" "B").1 = .ok .equal := by
  cbv

end Front

end TypeGrading
