/-!
# Paths

Paths as texts whose parts are separated by `/`. Nothing here looks at files: `a/../b` and `b` are
different paths. Parts that are empty or `.` carry no meaning except at the start, but stay in the
text as written.

* `parts`, `components`: what stands between the slashes, and what of it tells paths apart;
* `parent?`, `ancestors`: the path without its last part, and so on;
* `join`: a path seen from another;
* `extension?`, `withDefaultExtension`: the ending of the last part.
-/

namespace TypeGrading.Files.Path

/-- The parts between the slashes. The first is empty for an absolute path. -/
def parts (path : String) : List String := (path.toList.splitOn '/').map String.ofList

/-- A character of a part is one of the path and no slash. -/
theorem of_mem_splitOn {s part : List Char} {c : Char} (hpart : part ∈ s.splitOn '/')
    (hc : c ∈ part) : c ∈ s ∧ c ≠ '/' := by
  induction s generalizing part with
  | nil =>
    rw [List.splitOn_nil, List.mem_singleton] at hpart
    simp [hpart] at hc
  | cons d s ih =>
    have hrest : part ∈ s.splitOn '/' → c ∈ d :: s ∧ c ≠ '/' := fun h =>
      ⟨List.mem_cons_of_mem d (ih h hc).1, (ih h hc).2⟩
    rw [List.splitOn_cons_eq_if_modifyHead] at hpart
    split at hpart
    · rcases List.mem_cons.1 hpart with rfl | hpart
      · exact absurd hc List.not_mem_nil
      · exact hrest hpart
    · rename_i hd
      cases hsplit : s.splitOn '/' with
      | nil => exact absurd hsplit (List.splitOn_ne_nil '/' s)
      | cons first others =>
        rw [hsplit, List.modifyHead_cons, List.mem_cons] at hpart
        rw [hsplit] at ih hrest
        rcases hpart with rfl | hpart
        · rcases List.mem_cons.1 hc with rfl | hc
          · exact ⟨List.mem_cons_self, by simpa using hd⟩
          · exact ⟨List.mem_cons_of_mem d (ih List.mem_cons_self hc).1, (ih List.mem_cons_self hc).2⟩
        · exact hrest (List.mem_cons_of_mem first hpart)

theorem of_mem_parts {path part : String} {c : Char} (hpart : part ∈ parts path)
    (hc : c ∈ part.toList) : c ∈ path.toList ∧ c ≠ '/' := by
  obtain ⟨s, hs, rfl⟩ := List.mem_map.1 hpart
  exact of_mem_splitOn hs (by simpa using hc)

/-- Parts without slashes are read back from the path that they make up. -/
theorem parts_intercalate {ps : List String} (hne : ps ≠ []) (hps : ∀ p ∈ ps, '/' ∉ p.toList) :
    parts ("/".intercalate ps) = ps := by
  have hsplit : (['/'].intercalate (ps.map String.toList)).splitOn '/' = ps.map String.toList := by
    refine List.splitOn_intercalate '/' ?_ (by simpa using hne)
    simpa using hps
  rw [parts, String.toList_intercalate]
  simp [hsplit, Function.comp_def]

theorem of_mem_intercalate {ps : List String} {c : Char} (hc : c ∈ ("/".intercalate ps).toList) :
    c = '/' ∨ ∃ p ∈ ps, c ∈ p.toList := by
  induction ps with
  | nil => simp at hc
  | cons p ps ih =>
    by_cases hps : ps = []
    · subst hps
      exact Or.inr ⟨p, List.mem_cons_self, by simpa using hc⟩
    · rw [String.intercalate_cons_of_ne_nil hps, String.toList_append, String.toList_append,
        List.mem_append, List.mem_append] at hc
      rcases hc with (hc | hc) | hc
      · exact Or.inr ⟨p, List.mem_cons_self, hc⟩
      · exact Or.inl (by simpa using hc)
      · rcases ih hc with hc | ⟨q, hq, hc⟩
        · exact Or.inl hc
        · exact Or.inr ⟨q, List.mem_cons_of_mem p hq, hc⟩

/-- The path starts at the root. -/
def isAbsolute (path : String) : Bool := path.startsWith "/"

/-- The part carries no meaning behind the first one. -/
def isIdle (part : String) : Bool := part = "" || part = "."

/-- What tells paths apart: the first part, and of the others those that carry a meaning. -/
def components (path : String) : List String :=
  match parts path with
  | [] | [""] => []
  | first :: rest => first :: rest.filter (!isIdle ·)

/-- A slash at the end tells no paths apart. -/
example : components "/a//b/./" = components "/a/b" := by decide

/-- The list without the idle parts at its end. -/
def dropIdleEnd (ps : List String) : List String := (ps.reverse.dropWhile isIdle).reverse

theorem length_dropIdleEnd_le (ps : List String) : (dropIdleEnd ps).length ≤ ps.length := by
  have h := (List.dropWhile_sublist isIdle (l := ps.reverse)).length_le
  simpa [dropIdleEnd] using h

/-- The text of a first part and the parts behind it. -/
def ofParts (first : String) (rest : List String) : String :=
  if first = "" ∧ rest = [] then "/" else "/".intercalate (first :: rest)

/-- The parents of the path of some parts, nearest first. -/
def parentsOf (first : String) (rest : List String) : List String :=
  let kept := dropIdleEnd rest
  if kept = [] then (if first = "" then [] else [""])
  else
    let outer := dropIdleEnd kept.dropLast
    ofParts first outer :: parentsOf first outer
termination_by rest.length
decreasing_by
  rename_i hkept
  have h1 := length_dropIdleEnd_le (dropIdleEnd rest).dropLast
  have h2 := length_dropIdleEnd_le rest
  have h3 : 0 < (dropIdleEnd rest).length := List.length_pos_iff.2 hkept
  simp only [List.length_dropLast] at h1
  omega

/-- The parents of a path, nearest first: the root or the empty path is the last. -/
def parents (path : String) : List String :=
  match parts path with
  | [] => []
  | first :: rest => parentsOf first rest

/-- The path without its last part. -/
def parent? (path : String) : Option String := (parents path).head?

/-- A path and its parents, nearest first. -/
def ancestors (path : String) : List String := path :: parents path

/-- The path `p` seen from `base`; an absolute path is the same from everywhere. -/
def join (base p : String) : String :=
  if isAbsolute p then p
  else if base = "" ∨ base.endsWith "/" then base ++ p
  else base ++ "/" ++ p

/-- The last part of a path, without the parts that only navigate, and the path up to its end. -/
def fileName? (path : String) : Option (String × String) :=
  match parts path with
  | [] => none
  | first :: rest =>
    let kept := dropIdleEnd rest
    match (first :: kept).getLast? with
    | none => none
    | some name =>
      if isIdle name ∨ name = ".." then none else some (name, "/".intercalate (first :: kept))

/-- What follows the last dot of a name; a dot at its start does not count. -/
def extension? (name : String) : Option String :=
  match name.toList.splitOn '.' with
  | [] | [_] | [[], _] => none
  | pieces => pieces.getLast?.map String.ofList

/-- The path with an extension, where its last part has none. -/
def withDefaultExtension (path extension : String) : String :=
  match fileName? path with
  | none => path
  | some (name, upToName) =>
    match extension? name with
    | some _ => path
    | none => upToName ++ "." ++ extension

end TypeGrading.Files.Path
