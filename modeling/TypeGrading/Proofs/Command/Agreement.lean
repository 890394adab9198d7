import Mathlib
import TypeGrading.Command.Run
import TypeGrading.Compare.Descriptors
import TypeGrading.Proofs.Cache.Sharing
import TypeGrading.Proofs.Compare.Explanation
import TypeGrading.Proofs.Config.Chains
import TypeGrading.Proofs.Text.Json

/-!
# Commands and what they are about

A command fails before it writes; and what a comparison writes, and whether it passes, is what the
comparison of its descriptors comes to without a cache.

* `Run.Does`: what a step comes to and writes, whatever was done before;
* `Run.FailsFirst`: a step that fails writes nothing;
* `selectedHierarchy`, `refusal?`: what a comparison is about, and what speaks against it;
* `reportText`, `reportDocument`: what it writes, as lines and as a document;
* `compareTrees_eq`: two trees compared through one cache;
* `run_agrees`: whole commands.

All of it holds for every engine for regular expressions, every way to read configs, and every way to
write JSON that can be read back.
-/

namespace TypeGrading.Command

open Compare Files TypeGrading.Tree
open Config (LoadError)
open Descriptor (parse)
open Text (Json)

/-! ### Steps -/

namespace Run

variable {α β : Type} {x : Run α} {k : α → Run β} {a : α} {e : Failure} {read : Except Failure α}
  {result : Except Failure β} {text text' : String}

theorem run_bind (x : Run α) (k : α → Run β) (t : Trace) :
    (x >>= k).run t =
      match x.run t with
      | (.ok a, t') => (k a).run t'
      | (.error e, t') => (.error e, t') := by
  rw [ExceptT.run_bind]
  change (StateT.bind _ _) t = _
  unfold StateT.bind
  rcases x.run t with ⟨_ | a, t'⟩ <;> rfl

/-- Whatever was done before, the step comes to the result and writes the text. -/
def Does (x : Run α) (result : Except Failure α) (text : String) : Prop :=
  ∀ t : Trace, (x.run t).1 = result ∧ (x.run t).2.written = t.written ++ text

theorem does_pure (a : α) : Does (pure a) (.ok a) "" := fun _ => ⟨rfl, String.append_empty.symm⟩

theorem does_throw (e : Failure) : Does (throw e : Run α) (.error e) "" :=
  fun _ => ⟨rfl, String.append_empty.symm⟩

theorem does_tell (events : List Event) : Does (tell events) (.ok ()) "" :=
  fun _ => ⟨rfl, String.append_empty.symm⟩

theorem does_write (text : String) : Does (write text) (.ok ()) text := fun _ => ⟨rfl, rfl⟩

/-- One step after the other. -/
theorem Does.bind (hx : Does x (.ok a) text) (hk : Does (k a) result text') :
    Does (x >>= k) result (text ++ text') := by
  intro t
  obtain ⟨hresult, hwritten⟩ := hx t
  rw [run_bind]
  rcases hrun : x.run t with ⟨r, t'⟩
  rw [hrun] at hresult hwritten
  subst hresult
  obtain ⟨hresult', hwritten'⟩ := hk t'
  exact ⟨hresult', by rw [hwritten', hwritten, String.append_assoc]⟩

/-- What comes after a failure is not done. -/
theorem Does.bind_error (hx : Does x (.error e) text) : Does (x >>= k) (.error e) text := by
  intro t
  obtain ⟨hresult, hwritten⟩ := hx t
  rw [run_bind]
  rcases hrun : x.run t with ⟨r, t'⟩
  rw [hrun] at hresult hwritten
  subst hresult
  exact ⟨rfl, hwritten⟩

/-- A step that writes nothing in front of another one. -/
theorem Does.bind_silent (hx : Does x (.ok a) "") (hk : Does (k a) result text) :
    Does (x >>= k) result text := by
  have h := hx.bind hk
  rwa [String.empty_append] at h

/-- What comes to an answer came past its first step. -/
theorem Does.exists_of_bind (hx : Does x read text) {t : Trace} {b : β}
    (h : ((x >>= k).run t).1 = .ok b) : ∃ a t', read = .ok a ∧ ((k a).run t').1 = .ok b := by
  cases read with
  | error e => cases (hx.bind_error t).1.symm.trans h
  | ok a =>
    rw [run_bind] at h
    obtain ⟨hresult, -⟩ := hx t
    rcases hrun : x.run t with ⟨r, t'⟩
    rw [hrun] at h hresult
    subst hresult
    exact ⟨a, t', rfl, h⟩

/-- The step does the same whatever was done before, and if it fails it writes nothing. -/
def FailsFirst (x : Run α) : Prop :=
  ∃ result text, Does x result text ∧ ∀ e, result = .error e → text = ""

/-- What writes nothing and goes on with something that fails before it writes. -/
theorem Does.failsFirst_bind (hx : Does x read "") (hk : ∀ a, read = .ok a → FailsFirst (k a)) :
    FailsFirst (x >>= k) := by
  cases read with
  | error e => exact ⟨_, "", hx.bind_error, fun _ _ => rfl⟩
  | ok a =>
    obtain ⟨result, text, hdoes, hfails⟩ := hk a rfl
    exact ⟨result, text, hx.bind_silent hdoes, hfails⟩

theorem Does.failsFirst_of_ok (hx : Does x (.ok a) text) : FailsFirst x :=
  ⟨_, text, hx, fun _ h => nomatch h⟩

theorem does_write_pure (text : String) (a : α) :
    Does (do write text; pure a) (.ok a) text := by
  have h := (does_write text).bind (k := fun _ => pure a) (does_pure a)
  rwa [String.append_empty] at h

end Run

open Run

theorem mapError_eq_ok_iff {α ε ε' : Type} {x : Except ε α} {f : ε → ε'} {a : α} :
    x.mapError f = .ok a ↔ x = .ok a := by
  cases x <;> simp [Except.mapError]

/-! ### Reading and loading -/

/-- The hierarchy of the config in force, apart from what is told of on the way to it. -/
def selectedHierarchy (read : Config.Reading) (v : Volume) (directory : String)
    (config? : Option String) : Except LoadError Hierarchy :=
  match configPath? v directory config? with
  | none => .ok .empty
  | some path => (Config.load read v path).2.map Config.toHierarchy

theorem does_readDescriptor (descriptor : String) :
    Does (readDescriptor descriptor) ((parse descriptor).mapError .descriptor) "" := by
  unfold readDescriptor
  cases parse descriptor with
  | ok t => exact (does_tell _).bind_silent (does_pure t)
  | error e => exact (does_tell _).bind_silent (does_throw _)

theorem does_loadHierarchy (lib : Libraries) (v : Volume) (directory : String)
    (config? : Option String) :
    Does (loadHierarchy lib v directory config?)
      ((selectedHierarchy lib.readConfig v directory config?).mapError .config) "" := by
  unfold loadHierarchy selectedHierarchy
  cases configPath? v directory config? with
  | none => exact (does_tell _).bind_silent (does_pure _)
  | some path =>
    rcases hload : Config.load lib.readConfig v path with ⟨events, e | config⟩
    · simp only [hload]
      exact (does_tell _).bind_silent (does_throw _)
    · simp only [hload]
      exact (does_tell _).bind_silent (does_pure _)

/-! ### Comparing -/

/-- Why two nodes that have to be identical are not, and where they differ first. -/
def refusal? (r : Resolver) (strict : Bool) (a b : Node) : Option (Mismatch × Divergence) :=
  if strict then
    ((explain a b).answer r).map fun d => (.mismatch a.name b.name (grade r a b) (some d), d)
  else none

theorem answer_strict_eq (r : Resolver) (a b : Node) :
    (strict a (some b)).answer r =
      match refusal? r true a b with
      | none => .ok ()
      | some (m, _) => .error m := by
  rw [answer_strict, refusal?, if_pos rfl, answer_explain]
  by_cases h : grade r a b = .identical
  · rw [if_pos h, if_pos h]
    rfl
  · rw [if_neg h, if_neg h]
    rfl

theorem divergence_of_refusal? {r : Resolver} {strict : Bool} {a b : Node} {m : Mismatch}
    {d : Divergence} (h : refusal? r strict a b = some (m, d)) : m.divergence = some d := by
  cases strict with
  | false => cases h
  | true =>
    obtain ⟨d', -, hd⟩ := Option.map_eq_some_iff.1 h
    obtain ⟨rfl, rfl⟩ := Prod.mk.inj hd
    rfl

/-- Two trees compared through one cache come to what they come to without it. -/
theorem compareTrees_eq (h : Hierarchy) (left right : TypeTree) (strict : Bool) :
    (compareTrees h left right strict).1 =
      ⟨grade h.relate left.root right.root,
        (refusal? h.relate strict left.root right.root).map Prod.fst⟩ := by
  obtain ⟨hgrade, hcache⟩ := (gradePair left.root right.root).inSession_eq_answer
    (s := .start) (Cache.truthful_empty h.relate)
  -- the strict comparison starts from the cache that the grading leaves, which is truthful
  obtain ⟨hstrict, -⟩ := (Compare.strict left.root (some right.root)).inSession_eq_answer hcache
  rw [answer_strict_eq] at hstrict
  unfold compareTrees
  rcases hfirst : (gradePair left.root right.root).inSession h.relate .start with ⟨g, s⟩
  rw [hfirst] at hgrade hstrict
  obtain rfl : g = grade h.relate left.root right.root := hgrade
  cases strict with
  | false => rfl
  | true =>
    rcases hsecond : (Compare.strict left.root (some right.root)).inSession h.relate s with
      ⟨result, s'⟩
    rw [hsecond] at hstrict
    obtain rfl : result = _ := hstrict
    cases hrefusal : refusal? h.relate true left.root right.root <;> simp [hsecond, hrefusal]

/-- What a comparison writes as lines: the code of the grade, and what speaks against identity. -/
def reportText (g : Grade) : Option (Mismatch × Divergence) → String
  | none => toString g.code ++ "\n"
  | some (m, d) =>
    toString g.code ++ "\n" ++ ("error: " ++ m.message ++ "\n") ++
      ("  first difference: " ++ d.text ++ "\n")

/-- What a comparison writes as a document: both descriptors in canonical form, the code of the grade,
and what speaks against identity. -/
def reportDocument (left right : TypeTree) (g : Grade) (refusal : Option (Mismatch × Divergence)) :
    Json :=
  .object <|
    [("left", .text left.canonical), ("right", .text right.canonical), ("grade", .number g.code)] ++
      match refusal with
      | none => []
      | some (m, d) =>
        [("error", .text m.message),
          ("divergence", .object
            [("sourceType", .text d.source), ("targetType", .text d.target),
              ("grade", .number d.grade.code),
              ("path", .list (d.path.map fun i => .number (Int.ofNat i)))])]

section Report

variable {g : Grade} {refusal : Option (Mismatch × Divergence)}

theorem lines_eq_reportText (h : ∀ m d, refusal = some (m, d) → m.divergence = some d) :
    ofLines (Comparison.lines ⟨g, refusal.map Prod.fst⟩) = reportText g refusal := by
  cases refusal with
  | none => simp [ofLines, Comparison.lines, reportText, Grade.text, String.join]
  | some refusal =>
    obtain ⟨m, d⟩ := refusal
    simp [ofLines, Comparison.lines, reportText, h m d rfl, Grade.text, String.join]

theorem json_eq_reportDocument (left right : TypeTree)
    (h : ∀ m d, refusal = some (m, d) → m.divergence = some d) :
    Comparison.json ⟨g, refusal.map Prod.fst⟩ left right = reportDocument left right g refusal := by
  cases refusal with
  | none => rfl
  | some refusal =>
    obtain ⟨m, d⟩ := refusal
    simp [Comparison.json, reportDocument, divergenceJson, h m d rfl]

/-- A report is a shallow document without repeated names. -/
theorem within_reportDocument (left right : TypeTree) (g : Grade)
    (refusal : Option (Mismatch × Divergence)) :
    Json.Within Json.maxDepth (reportDocument left right g refusal) := by
  have hpath (path : List Nat) :
      Json.Within 125 (.list (path.map fun i => .number (Int.ofNat i))) := by
    refine .list fun j hj => ?_
    obtain ⟨i, -, rfl⟩ := List.mem_map.1 hj
    exact .number
  cases refusal with
  | none =>
    refine .object (by simp) fun f hf => ?_
    simp only [List.append_nil, List.mem_cons, List.not_mem_nil, or_false] at hf
    rcases hf with rfl | rfl | rfl <;> constructor
  | some refusal =>
    obtain ⟨m, d⟩ := refusal
    refine .object (by simp) fun f hf => ?_
    simp only [List.cons_append, List.nil_append, List.mem_cons, List.not_mem_nil, or_false] at hf
    rcases hf with rfl | rfl | rfl | rfl | rfl
    · exact .text
    · exact .text
    · exact .number
    · exact .text
    · refine .object (by simp) fun f hf => ?_
      simp only [List.mem_cons, List.not_mem_nil, or_false] at hf
      rcases hf with rfl | rfl | rfl | rfl
      · exact .text
      · exact .text
      · exact .number
      · exact hpath d.path

end Report

/-- What a comparison writes. -/
def report (lib : Libraries) (json : Bool) (left right : TypeTree) (g : Grade)
    (refusal : Option (Mismatch × Divergence)) : String :=
  if json then lib.writeJson (reportDocument left right g refusal) ++ "\n" else reportText g refusal

theorem does_runCompare (lib : Libraries) {h : Hierarchy} {left right : String} {l r : TypeTree}
    (strict json : Bool) (hl : parse left = .ok l) (hr : parse right = .ok r) :
    Does (runCompare lib h left right strict json)
      (.ok (refusal? h.relate strict l.root r.root).isNone)
      (report lib json l r (grade h.relate l.root r.root)
        (refusal? h.relate strict l.root r.root)) := by
  have hreadl := does_readDescriptor left
  have hreadr := does_readDescriptor right
  rw [hl] at hreadl
  rw [hr] at hreadr
  refine hreadl.bind_silent (hreadr.bind_silent ?_)
  have hcompare := compareTrees_eq h l r strict
  rcases htrees : compareTrees h l r strict with ⟨comparison, events, cached⟩
  rw [htrees] at hcompare
  obtain rfl : comparison = _ := hcompare
  have hwritten : ofLines (if json then [lib.writeJson (Comparison.json
      ⟨grade h.relate l.root r.root, (refusal? h.relate strict l.root r.root).map Prod.fst⟩ l r)]
      else Comparison.lines
        ⟨grade h.relate l.root r.root, (refusal? h.relate strict l.root r.root).map Prod.fst⟩) =
      report lib json l r (grade h.relate l.root r.root) (refusal? h.relate strict l.root r.root) := by
    rw [report, ← lines_eq_reportText fun _ _ => divergence_of_refusal?,
      ← json_eq_reportDocument l r fun _ _ => divergence_of_refusal?]
    cases json <;> simp [ofLines, String.join]
  rw [← hwritten, ← Option.isNone_map]
  exact (does_tell _).bind_silent (does_write_pure _ _)

/-! ### Commands -/

section Failing

variable (lib : Libraries)

theorem failsFirst_runParse (descriptor : String) (json : Bool) :
    FailsFirst (runParse lib descriptor json) :=
  (does_readDescriptor descriptor).failsFirst_bind fun _ _ => (does_write_pure _ _).failsFirst_of_ok

theorem failsFirst_runFind (descriptor pattern : String) :
    FailsFirst (runFind lib descriptor pattern) := by
  refine (does_readDescriptor descriptor).failsFirst_bind fun t _ => ?_
  split
  · exact ⟨_, "", does_throw _, fun _ _ => rfl⟩
  · split
    · exact (does_pure _).failsFirst_of_ok
    · exact (does_write_pure _ _).failsFirst_of_ok

theorem failsFirst_runCompare (h : Hierarchy) (left right : String) (strict json : Bool) :
    FailsFirst (runCompare lib h left right strict json) :=
  (does_readDescriptor left).failsFirst_bind fun _ _ =>
    (does_readDescriptor right).failsFirst_bind fun _ _ =>
      ((does_tell _).bind_silent (does_write_pure _ _)).failsFirst_of_ok

theorem failsFirst_runCommand (v : Volume) (directory : String) (a : Arguments) :
    FailsFirst (runCommand lib v directory a) := by
  unfold runCommand
  cases a.command with
  | parse descriptor json => exact failsFirst_runParse lib descriptor json
  | compare left right strict json =>
    exact (does_loadHierarchy lib v directory a.config?).failsFirst_bind fun h _ =>
      failsFirst_runCompare lib h left right strict json
  | find descriptor pattern => exact failsFirst_runFind lib descriptor pattern

end Failing

section Compare

variable {lib : Libraries} {v : Volume} {directory left right : String} {a : Arguments}
  {strict json passed : Bool} {h : Hierarchy} {l r : TypeTree}

/-- A comparison comes to an answer if the config can be loaded and the descriptors can be read. -/
theorem does_runCommand_compare (hcommand : a.command = .compare left right strict json)
    (hconfig : selectedHierarchy lib.readConfig v directory a.config? = .ok h)
    (hl : parse left = .ok l) (hr : parse right = .ok r) :
    Does (runCommand lib v directory a) (.ok (refusal? h.relate strict l.root r.root).isNone)
      (report lib json l r (grade h.relate l.root r.root)
        (refusal? h.relate strict l.root r.root)) := by
  have hload := does_loadHierarchy lib v directory a.config?
  rw [hconfig] at hload
  unfold runCommand
  rw [hcommand]
  exact hload.bind_silent (does_runCompare lib strict json hl hr)

/-- And not otherwise. -/
theorem exists_of_run_compare (hcommand : a.command = .compare left right strict json)
    (hrun : (run lib v directory a).1 = .ok passed) :
    ∃ h l r, selectedHierarchy lib.readConfig v directory a.config? = .ok h ∧
      parse left = .ok l ∧ parse right = .ok r := by
  unfold run runCommand at hrun
  rw [hcommand] at hrun
  obtain ⟨h, t, hconfig, hrun⟩ := (does_loadHierarchy lib v directory a.config?).exists_of_bind hrun
  obtain ⟨l, t, hl, hrun⟩ := (does_readDescriptor left).exists_of_bind hrun
  obtain ⟨r, t, hr, -⟩ := (does_readDescriptor right).exists_of_bind hrun
  exact ⟨h, l, r, mapError_eq_ok_iff.1 hconfig, mapError_eq_ok_iff.1 hl, mapError_eq_ok_iff.1 hr⟩

theorem gradeDescriptors_eq (resolver : Resolver) (hl : parse left = .ok l)
    (hr : parse right = .ok r) :
    gradeDescriptors resolver left right = .ok (grade resolver l.root r.root) := by
  rw [gradeDescriptors, hl, hr]
  rfl

theorem matchDescriptors_eq (resolver : Resolver) (hl : parse left = .ok l)
    (hr : parse right = .ok r) :
    matchDescriptors resolver left (some right) =
      match refusal? resolver true l.root r.root with
      | none => .ok ()
      | some (m, _) => .error (.mismatch m) := by
  have hmatch : matchDescriptors resolver left (some right) =
      ((Compare.strict l.root (some r.root)).answer resolver).mapError .mismatch := by
    rw [matchDescriptors, hl, Option.mapM_some, hr]
    rfl
  rw [hmatch, answer_strict_eq]
  cases refusal? resolver true l.root r.root <;> rfl

/-- What is refused is what the strict comparison of the descriptors fails with. -/
theorem matchDescriptors_of_refusal? {resolver : Resolver} {m : Mismatch} {d : Divergence}
    (hl : parse left = .ok l) (hr : parse right = .ok r)
    (h : refusal? resolver strict l.root r.root = some (m, d)) :
    strict = true ∧ matchDescriptors resolver left (some right) = .error (.mismatch m) := by
  cases strict with
  | false => cases h
  | true =>
    rw [matchDescriptors_eq resolver hl hr, h]
    exact ⟨rfl, rfl⟩

theorem isNone_refusal?_eq_false_iff {resolver : Resolver}
    (hl : parse left = .ok l) (hr : parse right = .ok r) :
    (refusal? resolver strict l.root r.root).isNone = false ↔
      strict = true ∧ ∃ e, matchDescriptors resolver left (some right) = .error e := by
  constructor
  · intro h
    obtain ⟨⟨m, d⟩, hrefusal⟩ := Option.isSome_iff_exists.1 (Option.isNone_eq_false_iff.1 h)
    obtain ⟨hstrict, hmatch⟩ := matchDescriptors_of_refusal? hl hr hrefusal
    exact ⟨hstrict, _, hmatch⟩
  · rintro ⟨rfl, e, hmatch⟩
    rw [matchDescriptors_eq resolver hl hr] at hmatch
    cases hrefusal : refusal? resolver true l.root r.root with
    | none => rw [hrefusal] at hmatch; cases hmatch
    | some _ => rfl

end Compare

/-- **The command line agrees with the library.** A command that fails has written nothing. A
comparison does not fail if the config in force can be loaded and both descriptors can be read. It
then writes the code of the grade of the descriptors under the hierarchy of that config, as a line or
in a document. It does not pass exactly if the descriptors have to be identical and are not; and
exactly then it writes why, and where they differ first. -/
theorem run_agrees (lib : Libraries) {readJson : String → Option Json}
    (hjson : Json.ReadsBack readJson lib.writeJson) (v : Volume) (directory : String) (a : Arguments) :
    (∀ e, (run lib v directory a).1 = .error e → (run lib v directory a).2.written = "") ∧
    ∀ left right strict json, a.command = .compare left right strict json →
      ((∃ passed, (run lib v directory a).1 = .ok passed) ↔
        ∃ h l r, selectedHierarchy lib.readConfig v directory a.config? = .ok h ∧
          parse left = .ok l ∧ parse right = .ok r) ∧
      ∀ passed, (run lib v directory a).1 = .ok passed →
        ∃ h l r g refusal, selectedHierarchy lib.readConfig v directory a.config? = .ok h ∧
          parse left = .ok l ∧ parse right = .ok r ∧
          gradeDescriptors h.relate left right = .ok g ∧
          (json = false → (run lib v directory a).2.written = reportText g refusal) ∧
          (json = true → ∃ text, (run lib v directory a).2.written = text ++ "\n" ∧
            readJson text = some (reportDocument l r g refusal)) ∧
          (passed = false ↔
            strict = true ∧ ∃ e, matchDescriptors h.relate left (some right) = .error e) ∧
          (passed = false ↔ ∃ m d, refusal = some (m, d)) ∧
          ∀ m d, refusal = some (m, d) →
            matchDescriptors h.relate left (some right) = .error (.mismatch m) ∧
              m.divergence = some d := by
  constructor
  · intro e he
    obtain ⟨result, text, hdoes, hfails⟩ := failsFirst_runCommand lib v directory a
    obtain ⟨hresult, hwritten⟩ := hdoes .start
    rw [run, hwritten, hfails e (hresult.symm.trans he)]
    rfl
  · intro left right strict json hcommand
    refine ⟨⟨fun ⟨_, hrun⟩ => exists_of_run_compare hcommand hrun, ?_⟩, fun passed hrun => ?_⟩
    · rintro ⟨h, l, r, hconfig, hl, hr⟩
      exact ⟨_, (does_runCommand_compare hcommand hconfig hl hr .start).1⟩
    · obtain ⟨h, l, r, hconfig, hl, hr⟩ := exists_of_run_compare hcommand hrun
      obtain ⟨hresult, hwritten⟩ := does_runCommand_compare hcommand hconfig hl hr .start
      obtain rfl := Except.ok.inj (hrun.symm.trans hresult)
      have hreport : (run lib v directory a).2.written =
          report lib json l r (grade h.relate l.root r.root)
            (refusal? h.relate strict l.root r.root) := by
        rw [run, hwritten]
        exact String.empty_append
      refine ⟨h, l, r, _, refusal? h.relate strict l.root r.root, hconfig, hl, hr,
        gradeDescriptors_eq h.relate hl hr, ?_, ?_, isNone_refusal?_eq_false_iff hl hr, ?_, ?_⟩
      · rintro rfl
        exact hreport
      · rintro rfl
        exact ⟨_, hreport, hjson _ (within_reportDocument ..)⟩
      · rw [Option.isNone_eq_false_iff, Option.isSome_iff_exists, Prod.exists]
      · exact fun m d hrefusal =>
          ⟨(matchDescriptors_of_refusal? hl hr hrefusal).2, divergence_of_refusal? hrefusal⟩

theorem canonical_of_parse {descriptor text : String} {t : TypeTree} (ht : parse descriptor = .ok t)
    (h : (parse descriptor).map TypeTree.canonical = .ok text) : t.canonical = text := by
  rw [ht] at h
  exact Except.ok.inj h

/-- Files with one config: a `B` is an `A`. -/
def configuredFiles : FileSystem :=
  FileSystem.add ⟨Table.empty⟩ ["c"]
    (.file (.text "\x7b\"hierarchy\":\x7b\"B\":[\"A\"]\x7d\x7d"))

/-- The hierarchy of that config. -/
def configuredHierarchy : Hierarchy := Config.toHierarchy ⟨none, none, Table.empty.put "B" ["A"]⟩

theorem selectedHierarchy_configuredFiles :
    selectedHierarchy Config.parse configuredFiles "/" (some "c") = .ok configuredHierarchy := by
  have hpath : configPath? configuredFiles "/" (some "c") = some "/c" := by cbv
  have hload : (Config.load Config.parse configuredFiles "/c").2 =
      .ok ⟨none, none, Table.empty.put "B" ["A"]⟩ :=
    Config.loadFrom_eq_ok_iff.2 ⟨_, .last ⟨_, by cbv, by cbv⟩ rfl, by simp [Config.Fresh], rfl⟩
  rw [selectedHierarchy, hpath]
  exact congrArg (Except.map Config.toHierarchy) hload

/-- Two descriptors that have to be identical. -/
def strictArguments (json : Bool) : Arguments := ⟨some "c", .compare "L<A>" "L<B>" true json⟩

theorem run_agrees_strictArguments :
    ((run .standard configuredFiles "/" (strictArguments false)).1 = .ok false ∧
      (run .standard configuredFiles "/" (strictArguments false)).2.written =
        "1\nerror: type `L` does not match `L` (grade 1)\n" ++
          "  first difference: `A` vs `B` at parameter 0\n") ∧
    (run .standard configuredFiles "/" (strictArguments true)).1 = .ok false ∧
      ∃ text, (run .standard configuredFiles "/" (strictArguments true)).2.written = text ++ "\n" ∧
        Json.read? text = some (.object
          [("left", .text "L<A>"), ("right", .text "L<B>"), ("grade", .number 1),
            ("error", .text "type `L` does not match `L` (grade 1)"),
            ("divergence", .object
              [("sourceType", .text "A"), ("targetType", .text "B"), ("grade", .number 1),
                ("path", .list [.number 0])])]) := by
  let d : Divergence := ⟨"A", "B", .leftBroader, [0]⟩
  let m : Mismatch := .mismatch "L" "L" .leftBroader (some d)
  obtain ⟨l, hl⟩ : ∃ l, parse "L<A>" = .ok l := ⟨_, by cbv⟩
  obtain ⟨r, hr⟩ : ∃ r, parse "L<B>" = .ok r := ⟨_, by cbv⟩
  have hleft : l.canonical = "L<A>" := canonical_of_parse hl (by cbv)
  have hright : r.canonical = "L<B>" := canonical_of_parse hr (by cbv)
  have hgrade : gradeDescriptors configuredHierarchy.relate "L<A>" "L<B>" = .ok .leftBroader := by
    cbv
  have hmatch : matchDescriptors configuredHierarchy.relate "L<A>" (some "L<B>") =
      .error (.mismatch m) := by cbv
  have hruns (json : Bool) :
      (run .standard configuredFiles "/" (strictArguments json)).1 = .ok false ∧
      (json = false → (run .standard configuredFiles "/" (strictArguments json)).2.written =
        reportText .leftBroader (some (m, d))) ∧
      (json = true →
        ∃ text, (run .standard configuredFiles "/" (strictArguments json)).2.written = text ++ "\n" ∧
          Json.read? text = some (reportDocument l r .leftBroader (some (m, d)))) := by
    obtain ⟨-, hcompare⟩ :=
      run_agrees .standard Json.readsBack_pretty configuredFiles "/" (strictArguments json)
    obtain ⟨hanswer, hpassed⟩ := hcompare _ _ _ _ rfl
    obtain ⟨passed, hrun⟩ := hanswer.2 ⟨_, l, r, selectedHierarchy_configuredFiles, hl, hr⟩
    obtain ⟨h, l', r', g, refusal, hconfig, hl', hr', hgrade', htext, hdocument, hstrict, hrefusal,
      hfailure⟩ := hpassed passed hrun
    obtain rfl := Except.ok.inj (selectedHierarchy_configuredFiles.symm.trans hconfig)
    obtain rfl := Except.ok.inj (hl.symm.trans hl')
    obtain rfl := Except.ok.inj (hr.symm.trans hr')
    obtain rfl := Except.ok.inj (hgrade.symm.trans hgrade')
    obtain rfl := hstrict.2 ⟨rfl, _, hmatch⟩
    obtain ⟨m', d', rfl⟩ := hrefusal.1 rfl
    obtain ⟨hmatch', hd⟩ := hfailure m' d' rfl
    obtain rfl : m = m' := CompareError.mismatch.inj (Except.error.inj (hmatch.symm.trans hmatch'))
    obtain rfl : d = d' := Option.some.inj hd
    exact ⟨hrun, htext, hdocument⟩
  obtain ⟨text, hwritten, hread⟩ := (hruns true).2.2 rfl
  refine ⟨⟨(hruns false).1, ((hruns false).2.1 rfl).trans (by cbv)⟩, (hruns true).1, text, hwritten, ?_⟩
  rw [hread, reportDocument, hleft, hright]
  cbv

end TypeGrading.Command
