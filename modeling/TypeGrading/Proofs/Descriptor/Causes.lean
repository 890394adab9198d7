import TypeGrading.Proofs.Descriptor.Grafting
import TypeGrading.Proofs.Descriptor.Viability

/-!
# Causes that lie in the arena

A descriptor is refused for an edit only where its first name has no place: there is a root already,
or the parent that was given is not known. Later names go under names of the same descriptor, and
every name that the reader adds is one.

* `Arena.NoPlace`, `Arena.addUnder_eq_error_iff`: why no name at all can be added there;
* `Reader.Owned`: the open lists belong to records of the arena, from the start and after every
  step;
* `Reader.exists_endName_of_step`, `Reader.cause_of_endName`: a refused edit is that of a name, and
  of the first one;
* `readUnder_eq_edit_iff`: the descriptors that are refused for an edit;
* `refused_for_documented_causes`: all causes of a refused descriptor.
-/

namespace TypeGrading.Tree.Arena

/-! ### Where no name has a place -/

/-- No tree can be placed there, whatever its depth: the root is taken, or the parent unknown. -/
inductive NoPlace (a : Arena) : Option Nat → EditError → Prop
  | rootTaken (h : a.hasRoot) : NoPlace a none .rootAlreadySet
  | unknownParent {p : Nat} (h : a.size ≤ p) : NoPlace a (some p) (.unknownNode p)

variable {a : Arena} {e : EditError}

theorem NoPlace.ne_depthExceeded {parent : Option Nat} (h : a.NoPlace parent e) (limit : Nat) :
    e ≠ .depthExceeded limit := by
  cases h <;> simp

theorem noPlace_none_iff : a.NoPlace none e ↔ a.hasRoot ∧ e = .rootAlreadySet := by
  constructor
  · rintro ⟨h⟩
    exact ⟨h, rfl⟩
  · rintro ⟨h, rfl⟩
    exact .rootTaken h

theorem noPlace_some_iff {p : Nat} : a.NoPlace (some p) e ↔ a.size ≤ p ∧ e = .unknownNode p := by
  constructor
  · rintro (_ | h)
    exact ⟨h, rfl⟩
  · rintro ⟨h, rfl⟩
    exact .unknownParent h

theorem noPlace_rootAlreadySet_iff {parent : Option Nat} :
    a.NoPlace parent .rootAlreadySet ↔ parent = none ∧ a.hasRoot := by
  constructor
  · rintro ⟨h⟩
    exact ⟨rfl, h⟩
  · rintro ⟨rfl, h⟩
    exact .rootTaken h

theorem noPlace_unknownNode_iff {parent : Option Nat} {p : Nat} :
    a.NoPlace parent (.unknownNode p) ↔ parent = some p ∧ a.size ≤ p := by
  constructor
  · rintro (_ | h)
    exact ⟨rfl, h⟩
  · rintro ⟨rfl, h⟩
    exact .unknownParent h

/-- Depth apart, a name is refused exactly where none has a place. -/
theorem addUnder_eq_error_iff {parent : Option Nat} {name : String} (hname : IsName name)
    (hdepth : ∀ limit, e ≠ .depthExceeded limit) :
    a.addUnder parent name = .error e ↔ a.NoPlace parent e := by
  rw [← place_single hname]
  cases parent with
  | none =>
    rw [noPlace_none_iff]
    by_cases hroot : a.hasRoot
    · simp [place, hroot, eq_comm]
    · simp [place, hroot]
  | some p =>
    rw [noPlace_some_iff, place_some]
    rcases a.graft_cases p (TypeTree.single name) with ⟨outside, hg⟩ | ⟨r, hr, -, hg⟩ | ⟨r, hr, -, hg⟩
    · simp [hg, outside, eq_comm]
    · simp [hg, (hdepth maxDepth).symm, Nat.not_le.2 (lt_size_of_getElem? hr)]
    · simp [hg, Nat.not_le.2 (lt_size_of_getElem? hr)]

theorem id_lt_size_of_addUnder {b : Arena} {parent : Option Nat} {name : String} {id : Nat}
    (h : a.addUnder parent name = .ok (id, b)) : id < b.size := by
  cases parent with
  | none =>
    obtain ⟨-, -, rfl, rfl⟩ := addRoot_eq_ok h
    exact Nat.one_pos
  | some p =>
    exact id_lt_size_of_place (show a.place (some p) (TypeTree.single name) = _ from (add_eq_ok h).2)

end TypeGrading.Tree.Arena

namespace TypeGrading.Descriptor

open TypeGrading.Tree

/-- A refused edit stays one as a fault, unless the tree would be too deep. -/
theorem Fault.ofEdit_eq_edit_iff {e x : EditError} :
    Fault.ofEdit e = .edit x ↔ e = x ∧ ∀ limit, x ≠ .depthExceeded limit := by
  cases e <;> simp [ofEdit, eq_comm] <;> rintro rfl <;> simp

namespace Reader

variable {r s : Reader} {t : List Char} {x : EditError}

/-! ### Open lists -/

/-- Every open list belongs to a record of the arena. -/
def Owned (r : Reader) : Prop := ∀ l ∈ r.opened, l.owner < r.arena.size

theorem owned_start (a : Arena) (parent : Option Nat) : (start a parent).Owned :=
  fun l hl => absurd hl (by simp [start])

theorem size_le_of_endName {next : Option Char} {node : Nat} {b : Arena}
    (h : r.endName next = .ok (node, b)) : r.arena.size ≤ b.size := by
  rcases endName_cases h with ⟨-, rfl⟩ | ⟨start, reversed, -, -, hadd⟩
  · exact le_rfl
  · exact (Arena.extends_addUnder hadd).1

/-- **One step.** A list is opened by a name, which is added before; and no record is lost. -/
theorem owned_step (hr : r.Owned) {c : Char} (h : r.step c = .ok s) : s.Owned := by
  -- the lists that were open before still belong to records after more of them have been added
  have kept {next : Option Char} {node : Nat} {b : Arena} (hend : r.endName next = .ok (node, b)) :
      ∀ l ∈ r.opened, l.owner < b.size := fun l hl =>
    (hr l hl).trans_le (size_le_of_endName hend)
  rcases step_cases h with ⟨-, h⟩ | ⟨-, h⟩ | ⟨-, h⟩ | ⟨-, h⟩
  · obtain ⟨start, reversed, node, b, hphase, hend, -, rfl⟩ := openList_cases h
    refine List.forall_mem_cons.2 ⟨?_, kept hend⟩
    rcases endName_cases hend with ⟨hclosed, -⟩ | ⟨_, _, -, -, hadd⟩
    · cases hphase.symm.trans hclosed
    · exact Arena.id_lt_size_of_addUnder hadd
  · obtain ⟨node, b, l, outer, hend, hopen, rfl⟩ := closeList_cases h
    exact fun k hk => kept hend k (hopen ▸ List.mem_cons_of_mem l hk)
  · obtain ⟨node, b, l, outer, hend, -, rfl⟩ := nextParameter_cases h
    exact kept hend
  · rcases takeChar_cases h with ⟨start, reversed, -, rfl⟩ | ⟨node, -, -, rfl⟩
    · exact hr
    · exact hr

theorem owned_run {a : Arena} {parent : Option Nat} (h : (start a parent).run t = .ok r) :
    r.Owned :=
  run_induction (t := []) (motive := fun r _ => r.Owned) (fun _ _ _ _ hr h => owned_step hr h)
    (owned_start a parent) h

/-! ### The name that is refused -/

/-- A step stops with a refused edit only where a name ends. -/
theorem exists_endName_of_step {c : Char} (h : Faults (r.step c) (.edit x)) :
    ∃ next, Faults (r.endName next) (.edit x) := by
  rcases step_faults_iff.1 h with ⟨-, h⟩ | ⟨-, h⟩ | ⟨-, h⟩ | ⟨-, h⟩
  · rcases openList_faults_iff.1 h with ⟨_, _, hf⟩ | ⟨_, hend | ⟨_, _, _, hf⟩⟩
    · cases hf
    · exact ⟨_, hend⟩
    · cases hf
  · rcases closeList_faults_iff.1 h with hend | ⟨_, _, _, hf⟩
    · exact ⟨_, hend⟩
    · cases hf
  · rcases nextParameter_faults_iff.1 h with hend | ⟨_, _, _, hf⟩
    · exact ⟨_, hend⟩
    · cases hf
  · obtain ⟨_, _, _, hf⟩ := takeChar_faults_iff.1 h
    cases hf

theorem exists_endName_of_finish (h : Faults r.finish (.edit x)) :
    ∃ next, Faults (r.endName next) (.edit x) := by
  rcases finish_faults_iff.1 h with hend | ⟨_, _, _, _, _, hf⟩
  · exact ⟨_, hend⟩
  · cases hf

/-- A name that is refused is not blank, and the arena has refused it. -/
theorem exists_naming_of_endName {next : Option Char} (h : Faults (r.endName next) (.edit x)) :
    ∃ start reversed, r.phase = .naming start reversed ∧ ¬ Text.IsBlank reversed.reverse ∧
      (∀ limit, x ≠ .depthExceeded limit) ∧
      r.arena.addUnder r.owner (String.ofList (Text.trim reversed.reverse)) = .error x := by
  unfold endName at h
  cases hphase : r.phase with
  | closed node =>
    rw [hphase] at h
    exact absurd h not_faults_ok
  | naming start reversed =>
    rw [hphase] at h
    simp only at h
    split_ifs at h with hname
    · cases faults_malformed.1 h
    · split at h
      · exact absurd h not_faults_ok
      · rename_i e hadd
        obtain ⟨rfl, hdepth⟩ := Fault.ofEdit_eq_edit_iff.1 (faults_error.1 h).symm
        exact ⟨start, reversed, rfl, mt Text.trim_eq_nil_iff.2 hname, hdepth, hadd⟩

/-- **The cause of a refused edit.** The name refused is the first one of the text, and nothing has
a place where the whole text was to go. -/
theorem cause_of_endName {a : Arena} {parent : Option Nat} {next : Option Char}
    (hrun : (start a parent).run t = .ok r) (h : Faults (r.endName next) (.edit x)) :
    (∀ c ∈ t, ¬ isDelimiter c) ∧ ¬ Text.IsBlank t ∧ a.NoPlace parent x := by
  obtain ⟨start, reversed, hphase, hblank, hdepth, hadd⟩ := exists_naming_of_endName h
  have hlocated := located_run hrun
  have hstands := hlocated.phase
  rw [hphase] at hstands
  obtain ⟨hafter, -, hsince⟩ := hstands
  have hplain : ∀ c ∈ reversed.reverse, ¬ isDelimiter c := by
    intro c hc
    rw [hsince] at hc
    simpa using List.mem_rtakeWhile_imp hc
  have hcause := (Arena.addUnder_eq_error_iff
    (Segment.isName ⟨reversed.reverse, hblank, hplain⟩) hdepth).1 hadd
  cases hopen : r.opened with
  | cons l outer =>
    -- a parameter goes under a name of the text, which is known
    have howner : r.owner = some l.owner := by rw [owner, hopen]
    rw [howner, Arena.noPlace_some_iff] at hcause
    exact absurd (owned_run hrun l (by simp [hopen])) (Nat.not_lt.2 hcause.1)
  | nil =>
    have howner : r.owner = r.parent := by rw [owner, hopen]
    rw [sinceDelimiter_of_through (hlocated.outside hopen hafter)] at hsince
    rw [hsince] at hblank hplain
    obtain rfl := Except.ok.inj ((run_plain rfl hplain).symm.trans hrun)
    rw [howner] at hcause
    exact ⟨hplain, hblank, hcause⟩

end Reader

/-! ### Whole texts -/

/-- The text before the first delimiter; all of it where there is none. -/
def beforeDelimiter (t : List Char) : List Char := t.takeWhile fun c => !isDelimiter c

theorem plain_beforeDelimiter (t : List Char) : ∀ c ∈ beforeDelimiter t, ¬ isDelimiter c := by
  intro c hc
  simpa using List.mem_takeWhile_imp hc

theorem exists_append_beforeDelimiter (t : List Char) :
    ∃ rest, t = beforeDelimiter t ++ rest ∧ ∀ d ∈ rest.head?, isDelimiter d := by
  refine ⟨t.dropWhile fun c => !isDelimiter c, List.takeWhile_append_dropWhile.symm, ?_⟩
  intro d hd
  have := List.head?_dropWhile_not (fun c => !isDelimiter c) t
  rw [Option.mem_def.1 hd] at this
  simpa using this

/-- A text that is not blank and free of delimiters is not blank where another one starts with
it. -/
theorem not_isBlank_beforeDelimiter {front rest : List Char} (hplain : ∀ c ∈ front, ¬ isDelimiter c)
    (hblank : ¬ Text.IsBlank front) : ¬ Text.IsBlank (beforeDelimiter (front ++ rest)) := by
  have hfront : beforeDelimiter (front ++ rest) = front ++ beforeDelimiter rest :=
    List.takeWhile_append_of_pos (by simpa using hplain)
  rw [hfront]
  exact fun h => hblank fun c hc => h c (List.mem_append_left _ hc)

/-- **Refused for an edit.** A descriptor is refused for an edit exactly if nothing has a place
where it was to go and there is a name before its first delimiter, whatever follows. -/
theorem readUnder_eq_edit_iff {a : Arena} {descriptor : String} {parent : Option Nat}
    {x : EditError} : (readUnder a descriptor parent).1 = .error ⟨descriptor, .edit x⟩ ↔
      a.NoPlace parent x ∧ ¬ Text.IsBlank (beforeDelimiter descriptor.toList) := by
  rw [readUnder_eq_error_iff]
  constructor
  · rintro ⟨-, hfaults⟩
    rcases faults_bind.1 hfaults with hrun | ⟨r, hrun, hfinish⟩
    · obtain ⟨front, c, rest, r, htext, hrun, hstep⟩ := Reader.run_faults_iff.1 hrun
      obtain ⟨next, hend⟩ := Reader.exists_endName_of_step hstep
      obtain ⟨hplain, hblank, hcause⟩ := Reader.cause_of_endName hrun hend
      rw [htext]
      exact ⟨hcause, not_isBlank_beforeDelimiter hplain hblank⟩
    · obtain ⟨next, hend⟩ := Reader.exists_endName_of_finish hfinish
      obtain ⟨hplain, hblank, hcause⟩ := Reader.cause_of_endName hrun hend
      rw [← List.append_nil descriptor.toList]
      exact ⟨hcause, not_isBlank_beforeDelimiter hplain hblank⟩
  · rintro ⟨hcause, hblank⟩
    obtain ⟨rest, htext, hrest⟩ := exists_append_beforeDelimiter descriptor.toList
    let seg : Segment := ⟨beforeDelimiter descriptor.toList, hblank, plain_beforeDelimiter _⟩
    have hplace : a.place parent (TypeTree.single seg.name) = .error x :=
      (Arena.place_single seg.isName).trans
        ((Arena.addUnder_eq_error_iff seg.isName hcause.ne_depthExceeded).2 hcause)
    have hstops := Reader.stopsWith_segment (r := Reader.start a parent) rfl hplace
    rw [Fault.ofEdit_eq_edit_iff.2 ⟨rfl, hcause.ne_depthExceeded⟩] at hstops
    refine ⟨rfl, ?_⟩
    rw [htext]
    cases rest with
    | nil =>
      rw [List.append_nil]
      exact hstops.finish
    | cons d rest =>
      exact faults_bind.2 (Or.inl (hstops.run_delimiter (hrest d rfl) rest))

/-- A tree of its own is too deep only if a list too many is opened in it. -/
theorem limit_eq_of_faults {t : List Char} {limit : Nat}
    (h : Faults ((Reader.start Arena.empty none).run t >>= Reader.finish) (.depthExceeded limit)) :
    limit = maxNesting := by
  rcases faults_bind.1 h with hrun | ⟨r, hrun, hfinish⟩
  · obtain ⟨front, c, rest, r, -, hrun, hstep⟩ := Reader.run_faults_iff.1 hrun
    cases (Reader.step_faults_iff_violation hrun).1 hstep
    rfl
  · cases (Reader.finish_faults_iff_tooShort hrun).1 hfinish

/-- The wording of too many nested lists tells their greatest number. -/
theorem DescriptorError.message_of_depthExceeded {e : DescriptorError}
    (h : e.fault = .depthExceeded maxNesting) :
    e.message = "descriptor `" ++ e.descriptor ++ "` nests deeper than 256 levels" := by
  have hlimit : "` nests deeper than " ++ (toString maxNesting ++ " levels") =
      "` nests deeper than 256 levels" := by decide
  rw [← hlimit]
  simp only [message, h, String.append_assoc]

/-- **What a descriptor is refused for.** Parsing refuses a descriptor as malformed or for being
nested deeper than 256 levels, and for nothing else. Reading one into an arena may refuse an edit
besides: because there is a root already, exactly if no parent is given, there is a root, and the
text before the first delimiter is not blank; or because the parent is unknown, exactly if it is
given, is not in the arena, and the text before the first delimiter is not blank. -/
theorem refused_for_documented_causes (descriptor : String) :
    (∀ e, parse descriptor = .error e → e.descriptor = descriptor ∧
      ((∃ offset reason, e.fault = .malformed offset reason) ∨
        (e.fault = .depthExceeded maxNesting ∧
          e.message = "descriptor `" ++ descriptor ++ "` nests deeper than 256 levels"))) ∧
    ∀ (a : Arena) (parent : Option Nat),
      (∀ e x, (readUnder a descriptor parent).1 = .error e → e.fault = .edit x →
        x = .rootAlreadySet ∨ ∃ p, parent = some p ∧ x = .unknownNode p) ∧
      ((readUnder a descriptor parent).1 = .error ⟨descriptor, .edit .rootAlreadySet⟩ ↔
        parent = none ∧ a.hasRoot ∧ ¬ Text.IsBlank (beforeDelimiter descriptor.toList)) ∧
      ∀ p, (readUnder a descriptor parent).1 = .error ⟨descriptor, .edit (.unknownNode p)⟩ ↔
        parent = some p ∧ a.size ≤ p ∧ ¬ Text.IsBlank (beforeDelimiter descriptor.toList) := by
  refine ⟨?parsed, fun a parent => ⟨?only, ?rootTaken, fun p => ?unknownParent⟩⟩
  case parsed =>
    intro e h
    obtain ⟨hdescriptor, hfaults⟩ := parse_eq_error_iff.1 h
    refine ⟨hdescriptor, ?_⟩
    cases hfault : e.fault with
    | malformed offset reason => exact Or.inl ⟨offset, reason, rfl⟩
    | depthExceeded limit =>
      rw [hfault] at hfaults
      obtain rfl := limit_eq_of_faults hfaults
      refine Or.inr ⟨rfl, ?_⟩
      rw [DescriptorError.message_of_depthExceeded hfault, hdescriptor]
    | edit x =>
      -- nothing is in the way of a root in an empty arena
      rw [hfault] at hfaults
      have hcause := (readUnder_eq_edit_iff.1 (readUnder_eq_error_iff.2 ⟨rfl, hfaults⟩)).1
      rw [Arena.noPlace_none_iff] at hcause
      cases hcause.1
  case only =>
    rintro ⟨text, fault⟩ x h rfl
    obtain rfl : text = descriptor := (readUnder_eq_error_iff.1 h).1
    cases (readUnder_eq_edit_iff.1 h).1 with
    | rootTaken => exact Or.inl rfl
    | unknownParent => exact Or.inr ⟨_, rfl, rfl⟩
  case rootTaken => rw [readUnder_eq_edit_iff, Arena.noPlace_rootAlreadySet_iff, and_assoc]
  case unknownParent => rw [readUnder_eq_edit_iff, Arena.noPlace_unknownNode_iff, and_assoc]

/-- The place is asked for as soon as the first name ends, so an open list behind it is not told
where there is none. -/
theorem refused_for_documented_causes_leaf :
    (readUnder (Arena.leaf "A") "B<" none).1 = .error ⟨"B<", .edit .rootAlreadySet⟩ ∧
      (readUnder (Arena.leaf "A") "B<" (some 7)).1 = .error ⟨"B<", .edit (.unknownNode 7)⟩ ∧
      ∃ offset reason, parse "B<" = .error ⟨"B<", .malformed offset reason⟩ := by
  have hcauses := (refused_for_documented_causes "B<").2 (Arena.leaf "A")
  have hblank : ¬ Text.IsBlank (beforeDelimiter "B<".toList) := by decide
  refine ⟨(hcauses none).2.1.2 ⟨rfl, by decide, hblank⟩,
    ((hcauses (some 7)).2.2 7).2 ⟨rfl, by decide, hblank⟩, ?_⟩
  have hparse : parse "B<" = .error ⟨"B<", .malformed 2 .emptyParameter⟩ := by decide
  rcases ((refused_for_documented_causes "B<").1 _ hparse).2 with ⟨offset, reason, h⟩ | ⟨h, -⟩
  · exact ⟨offset, reason, h ▸ hparse⟩
  · cases h

end TypeGrading.Descriptor
