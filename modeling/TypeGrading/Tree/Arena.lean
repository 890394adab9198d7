/-!
# Arenas

A tree of names as a growing array of records: a record knows its parent, its children in order
and its depth, each by position in the array.

* `Record`, `Arena`: what is stored; links to children point to later records only;
* `Arena.leaf`: one record;
* `Arena.attach`: a copy of a whole arena under a record of another;
* `Arena.truncate`: forget every record from some position on.

The forward links make every walk down an arena end.
-/

namespace TypeGrading.Tree

/-- One stored name with its links. -/
structure Record where
  name : String
  parent : Option Nat
  children : List Nat
  depth : Nat
  deriving DecidableEq, Repr

namespace Record

/-- A record as it reads in a copy that starts at `offset`, whose root hangs under `parent` at
depth `depth`. -/
def moved (offset parent depth : Nat) (r : Record) : Record where
  name := r.name
  parent := some (match r.parent with
    | none => parent
    | some p => p + offset)
  children := r.children.map (· + offset)
  depth := r.depth + depth

/-- The record with one more child at the end. -/
def addChild (child : Nat) (r : Record) : Record :=
  { r with children := r.children ++ [child] }

/-- The record without its children from position `size` on. -/
def keepBelow (size : Nat) (r : Record) : Record :=
  { r with children := r.children.filter (· < size) }

end Record

/-- Records whose links to children point forward and inside. -/
structure Arena where
  records : Array Record
  forward : ∀ i (h : i < records.size), ∀ c ∈ records[i].children, i < c ∧ c < records.size

namespace Arena

/-- The number of records. -/
def size (a : Arena) : Nat := a.records.size

/-- Two arenas with the same records are the same. -/
@[ext] theorem ext {a b : Arena} (h : a.records = b.records) : a = b := by
  cases a; cases b; cases h; rfl

instance : DecidableEq Arena := fun a b =>
  decidable_of_iff (a.records = b.records) ⟨ext, fun h => h ▸ rfl⟩

/-- The arena without records. -/
def empty : Arena := ⟨#[], by simp⟩

instance : Inhabited Arena := ⟨empty⟩

/-- The arena of one name. -/
def leaf (name : String) : Arena where
  records := #[⟨name, none, [], 0⟩]
  forward := by
    intro i h c hc
    have : i = 0 := by simpa using h
    subst this
    simp at hc

/-- The greatest depth of a record, 0 in an empty arena. -/
def deepest (a : Arena) : Nat := a.records.foldl (fun d r => max d r.depth) 0

/-- The records of a copy of `b` placed behind `a`, its root hung under `parent` as last child. -/
def attachedRecords (a b : Arena) (parent depth : Nat) : Array Record :=
  (a.records ++ b.records.map (Record.moved a.size parent depth)).modify parent
    (Record.addChild a.size)

theorem size_attachedRecords (a b : Arena) (parent depth : Nat) :
    (attachedRecords a b parent depth).size = a.size + b.size := by
  simp [attachedRecords, size]

/-- A copy of the nonempty arena `b` under the record `parent` of `a`, its root at `depth`. -/
def attach (a b : Arena) (parent depth : Nat) (inside : parent < a.size) (rooted : 0 < b.size) :
    Arena where
  records := attachedRecords a b parent depth
  forward := by
    have hsize := size_attachedRecords a b parent depth
    -- the links of the plain concatenation, before the new child is entered
    have base : ∀ i (h : i < (a.records ++ b.records.map
          (Record.moved a.size parent depth)).size),
        ∀ c ∈ (a.records ++ b.records.map (Record.moved a.size parent depth))[i].children,
          i < c ∧ c < a.size + b.size := by
      intro i h c hc
      by_cases hi : i < a.records.size
      · rw [Array.getElem_append_left hi] at hc
        have := a.forward i hi c hc
        simp only [size]
        omega
      · have hb : i - a.records.size < b.records.size := by
          simp only [Array.size_append, Array.size_map] at h
          omega
        rw [Array.getElem_append_right (by omega)] at hc
        simp only [Array.getElem_map, Record.moved, List.mem_map] at hc
        obtain ⟨d, hd, rfl⟩ := hc
        have := b.forward _ hb d hd
        simp only [size] at this ⊢
        omega
    intro i h c hc
    rw [hsize]
    simp only [attachedRecords, Array.getElem_modify] at hc
    split at hc
    · rename_i hp
      simp only [Record.addChild, List.mem_append, List.mem_singleton] at hc
      rcases hc with hc | rfl
      · exact base i _ c hc
      · omega
    · exact base i _ c hc

/-- The arena without the records from position `n` on, and without the links to them. -/
def truncate (a : Arena) (n : Nat) : Arena where
  records := (a.records.take n).map (Record.keepBelow n)
  forward := by
    intro i h c hc
    simp only [Array.size_map, Array.take_eq_extract, Array.size_extract] at h ⊢
    simp only [Array.getElem_map, Array.take_eq_extract, Array.getElem_extract, Nat.zero_add,
      Record.keepBelow, List.mem_filter, decide_eq_true_eq] at hc
    have := a.forward i (by omega) c hc.1
    omega

@[simp] theorem size_empty : empty.size = 0 := rfl

@[simp] theorem size_leaf (name : String) : (leaf name).size = 1 := rfl

@[simp] theorem size_attach (a b : Arena) (parent depth : Nat) (inside : parent < a.size)
    (rooted : 0 < b.size) : (a.attach b parent depth inside rooted).size = a.size + b.size :=
  size_attachedRecords a b parent depth

@[simp] theorem size_truncate (a : Arena) (n : Nat) : (a.truncate n).size = min n a.size := by
  simp [truncate, size]

end Arena

end TypeGrading.Tree
