import Mathlib.Tactic
import TypeGrading.Cache
import TypeGrading.Divergence

/-!
# Sharing a cache

Comparisons that are answered through one cache come to what they come to without it, whatever was
asked through it before.

* `Cache.Truthful`: what is remembered is what the inner resolver says;
* `Dialogue.converse_eq_answer`: a partner who says what a resolver says is as good as that resolver;
* `Request`, `Request.direct`, `Request.perform`: what a cache is used for, with and without it;
* `performAll_start`: a whole run of requests, with and without the cache.
-/

namespace TypeGrading

open TypeGrading.Tree

variable {inner : Resolver}

/-! ### What is remembered -/

namespace Cache

/-- Every relation that is remembered for an ordered pair is the answer for that pair. -/
def Truthful (inner : Resolver) (c : Cache) : Prop :=
  ∀ left right relation, c.get? left right = some relation → inner left right = .ok relation

theorem truthful_empty (inner : Resolver) : empty.Truthful inner := by
  intro left right relation h
  cases h

theorem Truthful.put {c : Cache} {left right : String} {relation : Relation} (hc : c.Truthful inner)
    (h : inner left right = .ok relation) : (c.put left right relation).Truthful inner := by
  intro left' right' relation' hget
  rw [get?_put] at hget
  split_ifs at hget with hpair
  · rw [hpair.1, hpair.2, h, Option.some.inj hget]
  · exact hc left' right' relation' hget

/-- **One question.** A truthful cache says what the inner resolver says, a failure included, and is
truthful afterwards. -/
theorem Truthful.relate {c : Cache} (hc : c.Truthful inner) (left right : String) :
    (c.relate inner left right).1 = inner left right ∧
      (c.relate inner left right).2.1.Truthful inner := by
  cases hget : c.get? left right with
  | some relation =>
    rw [relate_of_some hget]
    exact ⟨(hc left right relation hget).symm, hc⟩
  | none =>
    rw [relate_of_none hget]
    cases hinner : inner left right with
    | ok relation => exact ⟨rfl, hc.put hinner⟩
    | error e => exact ⟨rfl, hc⟩

end Cache

/-- **One question in a session.** The event that it may be told of changes nothing. -/
theorem Session.reply_eq {s : Session} (hs : s.cache.Truthful inner) (left right : String) :
    (s.reply inner left right).1 = inner left right ∧
      (s.reply inner left right).2.cache.Truthful inner := by
  obtain ⟨hanswer, hcache⟩ := hs.relate left right
  unfold Session.reply
  rcases hrelate : s.cache.relate inner left right with ⟨answer, cache, _ | relation⟩
  · rw [hrelate] at hanswer hcache
    exact ⟨hanswer, hcache⟩
  · rw [hrelate] at hanswer hcache
    exact ⟨hanswer, hcache⟩

/-! ### Whole dialogues -/

namespace Dialogue

variable {α σ : Type}

/-- **One partner for another.** If a partner says what a resolver says for as long as its state is a
good one, and questions and events keep it good, a dialogue with the partner comes to what it comes
to with the resolver. -/
theorem converse_eq_answer {reply : String → String → σ → Answer × σ} {hear : Event → σ → σ}
    (good : σ → Prop)
    (hreply : ∀ left right s, good s →
      (reply left right s).1 = inner left right ∧ good (reply left right s).2)
    (hhear : ∀ e s, good s → good (hear e s)) (d : Dialogue α) {s : σ} (hs : good s) :
    (d.converse reply hear s).1 = d.answer inner ∧ good (d.converse reply hear s).2 := by
  induction d generalizing s with
  | done a => exact ⟨rfl, hs⟩
  | ask left right next ih =>
    obtain ⟨hanswer, hgood⟩ := hreply left right s hs
    rw [converse, answer, ← hanswer]
    exact ih _ hgood
  | tell e next ih => exact ih (hhear e s hs)

/-- A dialogue through a truthful cache. -/
theorem inSession_eq_answer (d : Dialogue α) {s : Session} (hs : s.cache.Truthful inner) :
    (d.inSession inner s).1 = d.answer inner ∧ (d.inSession inner s).2.cache.Truthful inner := by
  have hreply : ∀ left right (s : Session), s.cache.Truthful inner →
      (s.reply inner left right).1 = inner left right ∧
        (s.reply inner left right).2.cache.Truthful inner :=
    fun left right _ hs => Session.reply_eq hs left right
  have hhear : ∀ e (s : Session), s.cache.Truthful inner →
      (Session.hear e s).cache.Truthful inner := fun _ _ hs => hs
  exact converse_eq_answer (fun s : Session => s.cache.Truthful inner) hreply hhear d hs

end Dialogue

/-! ### Runs of requests -/

/-- What a cache is used for: a comparison of two trees in one of three ways, a question about two
names, or a fresh start. -/
inductive Request
  | grade (a b : Node)
  | strict (a : Node) (b : Option Node)
  | explain (a b : Node)
  | relate (left right : String)
  | clear

/-- What a request comes to. -/
inductive Outcome
  | grade (g : Grade)
  | strict (result : Except Mismatch Unit)
  | explain (divergence : Option Divergence)
  | relate (answer : Answer)
  | clear

namespace Request

/-- What a request comes to when the inner resolver is asked each time. -/
def direct (inner : Resolver) : Request → Outcome
  | .grade a b => .grade ((Compare.gradePair a b).answer inner)
  | .strict a b => .strict ((Compare.strict a b).answer inner)
  | .explain a b => .explain ((Compare.explain a b).answer inner)
  | .relate left right => .relate (inner left right)
  | .clear => .clear

/-- What a request comes to through the cache of a session, and the session afterwards. -/
def perform (inner : Resolver) (s : Session) : Request → Outcome × Session
  | .grade a b => ((Compare.gradePair a b).inSession inner s).map .grade id
  | .strict a b => ((Compare.strict a b).inSession inner s).map .strict id
  | .explain a b => ((Compare.explain a b).inSession inner s).map .explain id
  | .relate left right => (s.reply inner left right).map .relate id
  | .clear => (.clear, { s with cache := .empty })

/-- What a run of requests comes to, one after the other through the same cache. -/
def performAll (inner : Resolver) (s : Session) : List Request → List Outcome
  | [] => []
  | q :: requests =>
    (q.perform inner s).1 :: performAll inner (q.perform inner s).2 requests

/-- **One request.** Through a truthful cache it comes to what it comes to directly, and leaves a
truthful cache. -/
theorem perform_eq_direct {s : Session} (hs : s.cache.Truthful inner) (q : Request) :
    (q.perform inner s).1 = q.direct inner ∧ (q.perform inner s).2.cache.Truthful inner := by
  cases q with
  | grade a b =>
    obtain ⟨hanswer, hcache⟩ := (Compare.gradePair a b).inSession_eq_answer hs
    exact ⟨congrArg Outcome.grade hanswer, hcache⟩
  | strict a b =>
    obtain ⟨hanswer, hcache⟩ := (Compare.strict a b).inSession_eq_answer hs
    exact ⟨congrArg Outcome.strict hanswer, hcache⟩
  | explain a b =>
    obtain ⟨hanswer, hcache⟩ := (Compare.explain a b).inSession_eq_answer hs
    exact ⟨congrArg Outcome.explain hanswer, hcache⟩
  | relate left right =>
    obtain ⟨hanswer, hcache⟩ := Session.reply_eq hs left right
    exact ⟨congrArg Outcome.relate hanswer, hcache⟩
  | clear => exact ⟨rfl, Cache.truthful_empty inner⟩

theorem performAll_eq_map_direct {s : Session} (hs : s.cache.Truthful inner)
    (requests : List Request) : performAll inner s requests = requests.map (direct inner) := by
  induction requests generalizing s with
  | nil => rfl
  | cons q requests ih =>
    obtain ⟨hfirst, hrest⟩ := perform_eq_direct hs q
    rw [performAll, List.map_cons, hfirst, ih hrest]

/-- **A shared cache changes nothing.** Whatever is compared, asked and forgotten through one cache,
in whatever order, each comparison and each question comes to what it comes to when the inner
resolver is asked directly. -/
theorem performAll_start (inner : Resolver) (requests : List Request) :
    performAll inner .start requests = requests.map (direct inner) :=
  performAll_eq_map_direct (Cache.truthful_empty inner) requests

end Request

end TypeGrading
