import TypeGrading.Files.Canonical

/-!
# Volumes

Files as a program meets them: it asks about paths, and need not know what the answers rest on.

* `Volume`: the questions, and what holds of canonical paths;
* `Volume.canonical`, `Volume.remembered`: the canonical path of a file, and what is remembered of
  it;
* `FileSystem.volume`: a hierarchy of files and directories answers them.

Paths with detours may lead to one file, and links may; its canonical path is the same for all.
-/

namespace TypeGrading.Files

/-- What can be asked about a path: the text of the file that it leads to, whether there is a file,
and its canonical path. There are finitely many files, each that can be read has a canonical path,
and a canonical path is its own; different canonical paths have different components. -/
structure Volume where
  readText : String → Except FileFault String
  isFile : String → Bool
  canonical? : String → Option String
  files : List String
  exists_canonical : ∀ {path s : String}, readText path = .ok s →
    ∃ c, canonical? path = some c ∧ c ∈ files
  canonical_canonical : ∀ {path c : String}, canonical? path = some c → canonical? c = some c
  canonical_eq_of_components : ∀ {path path' c c' : String}, canonical? path = some c →
    canonical? path' = some c' → Path.components c = Path.components c' → c = c'

/-- The canonical path; of a path that leads nowhere, the path itself. -/
def Volume.canonical (v : Volume) (path : String) : String := (v.canonical? path).getD path

/-- What a path is remembered by: the components of its canonical path. -/
def Volume.remembered (v : Volume) (path : String) : List String :=
  Path.components (v.canonical path)

/-- The files of a hierarchy of files and directories. -/
def FileSystem.volume (fs : FileSystem) : Volume where
  readText := fs.readText
  isFile := fs.isFile
  canonical? := fs.canonical?
  files := fs.allPaths
  exists_canonical := exists_canonical_of_readText
  canonical_canonical := canonical_canonical
  canonical_eq_of_components := canonical_eq_of_components

instance : Coe FileSystem Volume := ⟨FileSystem.volume⟩

end TypeGrading.Files
