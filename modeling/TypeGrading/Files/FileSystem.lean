import TypeGrading.Files.Path
import TypeGrading.Table

/-!
# File systems

A finite hierarchy of files and directories, and how a path leads through it.

* `Entry`, `FileSystem`: what there is, by the parts of its place below the root;
* `place`: where a path leads, step by step; every part but the last has to be a directory;
* `canonical?`, `readText`, `isFile`: the questions asked about a path.
-/

namespace TypeGrading.Files

/-- What a file holds, as far as reading text goes. -/
inductive Contents
  | text (s : String)
  | notText
  deriving DecidableEq, Repr

/-- What there is at a place. -/
inductive Entry
  | file (contents : Contents)
  | directory
  deriving DecidableEq, Repr

/-- Why a path could not be read. -/
inductive FileFault
  | notFound
  | notADirectory
  | isADirectory
  | notText
  | invalidPath
  deriving DecidableEq, Repr

/-- The wording of a path that could not be read. -/
def FileFault.message : FileFault → String
  | .notFound => "No such file or directory (os error 2)"
  | .notADirectory => "Not a directory (os error 20)"
  | .isADirectory => "Is a directory (os error 21)"
  | .notText => "stream did not contain valid UTF-8"
  | .invalidPath => "file name contained an unexpected NUL byte"

/-- Files and directories by their place: the names that lead there from the root. The root itself
is a directory. -/
structure FileSystem where
  entries : Table (List String) Entry

namespace FileSystem

/-- What there is at a place. -/
def entryAt? (fs : FileSystem) (place : List String) : Option Entry :=
  if place = [] then some .directory else fs.entries.get? place

/-- Put an entry at a place, with the directories that lead there. -/
def add (fs : FileSystem) (place : List String) (e : Entry) : FileSystem :=
  let outer := (List.range place.length).tail.map place.take
  ⟨(outer.foldl (fun t p => if t.contains p then t else t.put p .directory) fs.entries).put place e⟩

/-- Where the parts of a path lead from a place. -/
def follow (fs : FileSystem) (place : List String) : List String → Except FileFault (List String)
  | [] => .ok place
  | part :: rest =>
    match fs.entryAt? place with
    | some .directory =>
      if Path.isIdle part then fs.follow place rest
      else if part = ".." then fs.follow place.dropLast rest
      else
        let inner := place ++ [part]
        if (fs.entryAt? inner).isSome then fs.follow inner rest else .error .notFound
    | some (.file _) => .error .notADirectory
    | none => .error .notFound

/-- Where a path leads. -/
def place (fs : FileSystem) (path : String) : Except FileFault (List String) :=
  if path = "" then .error .notFound
  else if '\x00' ∈ path.toList then .error .invalidPath
  else fs.follow [] (Path.parts path)

/-- The path that names a place without detours. -/
def pathOf (place : List String) : String := "/" ++ "/".intercalate place

/-- The path without detours to where a path leads. -/
def canonical? (fs : FileSystem) (path : String) : Option String :=
  (fs.place path).toOption.map pathOf

/-- The text of the file that a path leads to. -/
def readText (fs : FileSystem) (path : String) : Except FileFault String := do
  let place ← fs.place path
  match fs.entryAt? place with
  | some (.file (.text s)) => pure s
  | some (.file .notText) => throw .notText
  | some .directory => throw .isADirectory
  | none => throw .notFound

/-- The path leads to a file. -/
def isFile (fs : FileSystem) (path : String) : Bool :=
  match fs.place path with
  | .ok place =>
    match fs.entryAt? place with
    | some (.file _) => true
    | _ => false
  | .error _ => false

/-- The paths without detours to all entries. -/
def allPaths (fs : FileSystem) : List String := fs.entries.keys.map pathOf

/-- A file that can be read has a path without detours among those of the entries. -/
theorem exists_canonical_of_readText {fs : FileSystem} {path s : String}
    (h : fs.readText path = .ok s) : ∃ c, fs.canonical? path = some c ∧ c ∈ fs.allPaths := by
  unfold readText at h
  cases hp : fs.place path with
  | error e => rw [hp] at h; cases h
  | ok place =>
    rw [hp] at h
    refine ⟨pathOf place, by simp [canonical?, hp, Except.toOption], ?_⟩
    have hne : place ≠ [] := by
      rintro rfl
      simp [entryAt?, bind, Except.bind, throw, throwThe, MonadExceptOf.throw] at h
    cases he : fs.entries.get? place with
    | none =>
      simp [entryAt?, hne, he, bind, Except.bind, throw, throwThe, MonadExceptOf.throw] at h
    | some e =>
      have hk : place ∈ fs.entries.keys := by
        rw [← Table.contains_iff, Table.contains, he]
        rfl
      exact List.mem_map.2 ⟨place, hk, rfl⟩

end FileSystem

end TypeGrading.Files
