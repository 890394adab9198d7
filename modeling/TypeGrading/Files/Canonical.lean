import TypeGrading.Files.FileSystem

/-!
# Canonical paths

Wherever a path leads, idle parts and parts that lead up leave no trace in the place that it ends
at. So the parts of a place lead there from the root by themselves, and the path that they make up
is the canonical path of the place.

* `IsPlain`, `Located`: names of entries, and places that their own parts lead to;
* `follow_cons`, `follow_append`, `follow_plain`: walks part by part;
* `Located.step`, `Located.follow`: one step of a walk, and a whole walk;
* `canonical_canonical`: a canonical path is its own;
* `canonical_eq_of_components`: canonical paths differ in a part that carries a meaning.
-/

namespace TypeGrading.Files.FileSystem

variable {fs : FileSystem} {place inner : List String} {part : String}

/-- The part leads from a place into it, by its name. -/
def IsPlain (part : String) : Prop :=
  Path.isIdle part = false ∧ part ≠ ".." ∧ '/' ∉ part.toList ∧ '\x00' ∉ part.toList

/-- The parts of the place lead there from the root, each by its name. -/
def Located (fs : FileSystem) (place : List String) : Prop :=
  fs.follow [] place = .ok place ∧ ∀ part ∈ place, IsPlain part

/-- A walk is its first step and the walk from there. -/
theorem follow_cons (place : List String) (part : String) (rest : List String) :
    fs.follow place (part :: rest) = fs.follow place [part] >>= (fs.follow · rest) := by
  rw [follow, follow]
  cases fs.entryAt? place with
  | none => rfl
  | some e =>
    cases e with
    | file _ => rfl
    | directory =>
      by_cases hidle : Path.isIdle part = true
      · simp only [hidle, if_true]
        rfl
      · by_cases hup : part = ".."
        · simp only [hup, if_true]
          rfl
        · by_cases hsome : (fs.entryAt? (place ++ [part])).isSome = true
          · simp only [hidle, hup, hsome, if_true, if_false]
            rfl
          · simp only [hidle, hup, hsome, if_false]
            rfl

/-- A walk along two lists of parts. -/
theorem follow_append (place first rest : List String) :
    fs.follow place (first ++ rest) = fs.follow place first >>= (fs.follow · rest) := by
  induction first generalizing place with
  | nil => rfl
  | cons part first ih =>
    rw [List.cons_append, follow_cons, follow_cons place part first]
    cases fs.follow place [part] with
    | error e => rfl
    | ok inner => exact ih inner

/-- A plain part leads to what the directory has under that name. -/
theorem follow_plain (hpart : IsPlain part) :
    fs.follow place [part] = .ok inner ↔
      fs.entryAt? place = some .directory ∧ (fs.entryAt? (place ++ [part])).isSome ∧
        place ++ [part] = inner := by
  rw [follow]
  cases fs.entryAt? place with
  | none => simp
  | some e =>
    cases e with
    | file _ => simp
    | directory =>
      by_cases hsome : (fs.entryAt? (place ++ [part])).isSome = true
      · simp [hpart.1, hpart.2.1, hsome, follow]
      · simp [hpart.1, hpart.2.1, hsome]

theorem Located.dropLast (h : fs.Located place) : fs.Located place.dropLast := by
  rcases List.eq_nil_or_concat place with rfl | ⟨outer, part, rfl⟩
  · exact h
  · rw [List.concat_eq_append] at h ⊢
    rw [List.dropLast_concat]
    obtain ⟨hfollow, hplain⟩ := h
    rw [follow_append] at hfollow
    refine ⟨?_, fun p hp => hplain p (List.mem_append_left _ hp)⟩
    cases hreach : fs.follow [] outer with
    | error e => rw [hreach] at hfollow; cases hfollow
    | ok q =>
      rw [hreach] at hfollow
      have hend := (follow_plain (hplain part (by simp))).1 hfollow
      rw [List.append_cancel_right hend.2.2]

theorem Located.append (h : fs.Located place) (hdirectory : fs.entryAt? place = some .directory)
    (hpart : IsPlain part) (hsome : (fs.entryAt? (place ++ [part])).isSome) :
    fs.Located (place ++ [part]) := by
  constructor
  · rw [follow_append, h.1]
    exact (follow_plain hpart).2 ⟨hdirectory, hsome, rfl⟩
  · intro p hp
    rcases List.mem_append.1 hp with hp | hp
    · exact h.2 p hp
    · exact List.mem_singleton.1 hp ▸ hpart

/-- **One step** leads on from a place without detours to another one. -/
theorem Located.step (h : fs.Located place) (hslash : '/' ∉ part.toList)
    (hnul : '\x00' ∉ part.toList) (hstep : fs.follow place [part] = .ok inner) :
    fs.Located inner := by
  by_cases hplain : IsPlain part
  · obtain ⟨hdirectory, hsome, rfl⟩ := (follow_plain hplain).1 hstep
    exact h.append hdirectory hplain hsome
  · -- the part is idle or leads up
    have hpart : Path.isIdle part = true ∨ part = ".." := by
      by_cases hidle : Path.isIdle part = true
      · exact Or.inl hidle
      · refine Or.inr (Decidable.byContradiction fun hup => hplain ⟨?_, hup, hslash, hnul⟩)
        exact Bool.eq_false_iff.2 hidle
    rw [FileSystem.follow] at hstep
    split at hstep
    · by_cases hidle : Path.isIdle part = true
      · rw [if_pos hidle] at hstep
        exact Except.ok.inj hstep ▸ h
      · rw [if_neg hidle, if_pos (hpart.resolve_left hidle)] at hstep
        exact Except.ok.inj hstep ▸ h.dropLast
    · cases hstep
    · cases hstep

/-- **A walk** along parts without slashes ends at a place without detours. -/
theorem Located.follow {parts : List String} (h : fs.Located place)
    (hparts : ∀ p ∈ parts, '/' ∉ p.toList ∧ '\x00' ∉ p.toList)
    (hfollow : fs.follow place parts = .ok inner) : fs.Located inner := by
  induction parts generalizing place with
  | nil => exact Except.ok.inj hfollow ▸ h
  | cons part rest ih =>
    rw [follow_cons] at hfollow
    obtain ⟨hpart, hrest⟩ := List.forall_mem_cons.1 hparts
    cases hstep : fs.follow place [part] with
    | error e => rw [hstep] at hfollow; cases hfollow
    | ok next =>
      rw [hstep] at hfollow
      exact ih (h.step hpart.1 hpart.2 hstep) hrest hfollow

theorem located_of_place {path : String} (h : fs.place path = .ok place) : fs.Located place := by
  have hroot : fs.Located [] := ⟨rfl, by simp⟩
  unfold FileSystem.place at h
  split at h
  · cases h
  · split at h
    · cases h
    · rename_i hnul
      refine hroot.follow (fun part hpart => ⟨fun hc => ?_, fun hc => ?_⟩) h
      · exact (Path.of_mem_parts hpart hc).2 rfl
      · exact hnul (Path.of_mem_parts hpart hc).1

theorem pathOf_eq (hplace : place ≠ []) : pathOf place = "/".intercalate ("" :: place) := by
  rw [String.intercalate_cons_of_ne_nil hplace, pathOf, String.empty_append]

/-- The parts of a place are read back from its path. -/
theorem Located.parts_pathOf (h : fs.Located place) (hplace : place ≠ []) :
    Path.parts (pathOf place) = "" :: place := by
  rw [pathOf_eq hplace, Path.parts_intercalate (by simp)]
  exact List.forall_mem_cons.2 ⟨by simp, fun p hp => (h.2 p hp).2.2.1⟩

theorem Located.components_pathOf (h : fs.Located place) :
    Path.components (pathOf place) = "" :: place := by
  by_cases hplace : place = []
  · subst hplace
    decide
  · have hkept : place.filter (!Path.isIdle ·) = place :=
      List.filter_eq_self.2 fun p hp => by simp [(h.2 p hp).1]
    obtain ⟨p, ps, rfl⟩ := List.exists_cons_of_ne_nil hplace
    rw [Path.components, h.parts_pathOf hplace]
    exact congrArg ("" :: ·) hkept

/-- The path without detours leads to its place. -/
theorem Located.place_pathOf (h : fs.Located place) : fs.place (pathOf place) = .ok place := by
  obtain ⟨hfollow, hplain⟩ := h
  by_cases hplace : place = []
  · subst hplace
    rfl
  · have hne : pathOf place ≠ "" := by simp [pathOf]
    have hnul : '\x00' ∉ (pathOf place).toList := by
      rw [pathOf_eq hplace]
      intro hc
      rcases Path.of_mem_intercalate hc with hc | ⟨p, hp, hc⟩
      · exact absurd hc (by decide)
      · rcases List.mem_cons.1 hp with rfl | hp
        · simp at hc
        · exact (hplain p hp).2.2.2 hc
    rw [FileSystem.place, if_neg hne, if_neg hnul, parts_pathOf ⟨hfollow, hplain⟩ hplace, follow_cons]
    exact hfollow

theorem exists_located_of_canonical? {path c : String} (h : fs.canonical? path = some c) :
    ∃ place, fs.Located place ∧ pathOf place = c := by
  unfold canonical? at h
  cases hp : fs.place path with
  | error e => rw [hp] at h; cases h
  | ok place =>
    rw [hp] at h
    exact ⟨place, located_of_place hp, Option.some.inj h⟩

/-- Canonical paths are their own. -/
theorem canonical_canonical {path c : String} (h : fs.canonical? path = some c) :
    fs.canonical? c = some c := by
  obtain ⟨place, hplace, rfl⟩ := exists_located_of_canonical? h
  rw [canonical?, hplace.place_pathOf]
  rfl

/-- Canonical paths with the same components are the same. -/
theorem canonical_eq_of_components {path path' c c' : String} (h : fs.canonical? path = some c)
    (h' : fs.canonical? path' = some c') (heq : Path.components c = Path.components c') :
    c = c' := by
  obtain ⟨place, hplace, rfl⟩ := exists_located_of_canonical? h
  obtain ⟨place', hplace', rfl⟩ := exists_located_of_canonical? h'
  rw [hplace.components_pathOf, hplace'.components_pathOf] at heq
  rw [List.tail_eq_of_cons_eq heq]

end TypeGrading.Files.FileSystem
