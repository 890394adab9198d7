import TypeGrading.Config.Basic
import TypeGrading.Event
import TypeGrading.Files.Volume

/-!
# Loading configs

A config file may extend another one, which may extend a third; loading it lays each over the one
it extends.

* `basePath?`: where the extended file is, seen from the file that extends it;
* `load`: the config of a file with all that it extends;
* `find?`: the nearest config file above a directory;
* `LoadError`: why a config could not be loaded.

How a config is written is left open: a `Reading` reads the texts. A file that extends itself, directly
or not, is refused, so loading ends.
-/

namespace TypeGrading.Config

open Files

/-- The name of the config file that is looked for when none is given. -/
def fileName : String := "sigtree.json"

/-- The extension of an extended file that is given without one. -/
def extension : String := "json"

/-- Why a config could not be loaded. -/
inductive LoadError
  | unreadable (path : String) (fault : FileFault)
  | invalid (path : String) (fault : TextFault)
  | cycle (path : String)
  | noDirectory
  deriving DecidableEq, Repr

/-- Where the file `base` is that the file at `path` extends: relative to the directory of that
file, with the usual extension if it is given without one. -/
def basePath? (path base : String) : Option String :=
  (Path.parent? path).map fun directory =>
    Path.join directory (Path.withDefaultExtension base extension)

/-- The files that have not been visited. -/
def unvisited (v : Volume) (visited : List (List String)) : List String :=
  v.files.filter (Path.components · ∉ visited)

/-- Visiting a file that can be read and has not been visited leaves fewer to visit. -/
theorem length_unvisited_lt {v : Volume} {visited : List (List String)} {path source : String}
    (h : v.readText path = .ok source) (new : v.remembered path ∉ visited) :
    (unvisited v (v.remembered path :: visited)).length < (unvisited v visited).length := by
  obtain ⟨c, hc, hmem⟩ := v.exists_canonical h
  rw [Volume.remembered, Volume.canonical, hc, Option.getD_some] at new ⊢
  refine Hierarchy.length_filter_lt (x := c) ?_ hmem ?_ ?_
  · intro y hy
    simp only [List.mem_cons, not_or, decide_eq_true_eq] at hy ⊢
    exact hy.2
  · simpa using new
  · simp

/-- Load a file, those that extend it having been visited: what happened, and the config. -/
def loadFrom (read : Reading) (v : Volume) (visited : List (List String)) (path : String) :
    List Event × Except LoadError Config :=
  if _seen : v.remembered path ∈ visited then ([], .error (.cycle (v.canonical path)))
  else
    match _read : v.readText path with
    | .error e => ([], .error (.unreadable path e))
    | .ok source =>
      match read source with
      | .error e => ([], .error (.invalid path e))
      | .ok config =>
        match config.extends? with
        | none => ([], .ok config)
        | some base =>
          match basePath? path base with
          | none => ([], .error .noDirectory)
          | some basePath =>
            let (events, loaded) := loadFrom read v (v.remembered path :: visited) basePath
            (.loadingBase path basePath :: events, loaded.map (merge · config))
termination_by (unvisited v visited).length
decreasing_by exact length_unvisited_lt _read _seen

/-- Load a file with all that it extends: what happened, and the config. -/
def load (read : Reading) (v : Volume) (path : String) : List Event × Except LoadError Config :=
  loadFrom read v [] path

/-- The config file nearest above a directory, itself included. -/
def find? (v : Volume) (directory : String) : Option String :=
  ((Path.ancestors directory).map (Path.join · fileName)).find? v.isFile

end TypeGrading.Config
