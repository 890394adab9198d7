/-!
# Tables

A finite map kept in the order in which its keys were first written.

* `Table α β`: entries without two of one key;
* `get?`, `contains`, `keys`, `size`: the reading side;
* `put`: a new key goes to the end, a known one keeps its place and takes the new value.
-/

namespace TypeGrading

/-- A finite map in insertion order. -/
structure Table (α β : Type) where
  entries : List (α × β)
  nodup : (entries.map Prod.fst).Nodup

namespace Table

variable {α β : Type}

/-- The table without entries. -/
def empty : Table α β := ⟨[], by simp⟩

instance : Inhabited (Table α β) := ⟨empty⟩

/-- The keys, first written first. -/
def keys (t : Table α β) : List α := t.entries.map Prod.fst

/-- The number of keys. -/
def size (t : Table α β) : Nat := t.entries.length

variable [DecidableEq α]

/-- The value of a key. -/
def get? (t : Table α β) (k : α) : Option β := (t.entries.find? (·.1 = k)).map Prod.snd

/-- The table has the key. -/
def contains (t : Table α β) (k : α) : Bool := (t.get? k).isSome

/-- The entries with the value of `k` replaced. -/
def overwrite (entries : List (α × β)) (k : α) (v : β) : List (α × β) :=
  entries.map fun e => if e.1 = k then (k, v) else e

theorem map_fst_overwrite (entries : List (α × β)) (k : α) (v : β) :
    (overwrite entries k v).map Prod.fst = entries.map Prod.fst := by
  simp only [overwrite, List.map_map]
  apply List.map_congr_left
  intro e _
  by_cases h : e.1 = k <;> simp [h]

/-- Write `v` for `k`. -/
def put (t : Table α β) (k : α) (v : β) : Table α β :=
  if h : k ∈ t.entries.map Prod.fst then
    ⟨overwrite t.entries k v, by rw [map_fst_overwrite]; exact t.nodup⟩
  else
    ⟨t.entries ++ [(k, v)], by
      simp only [List.map_append, List.map_cons, List.map_nil]
      refine List.nodup_append.2 ⟨t.nodup, by simp, ?_⟩
      intro a ha b hb
      simp only [List.mem_singleton] at hb
      rintro rfl
      exact h (hb ▸ ha)⟩

/-- Write every entry of a list, in order; a later one wins. -/
def putAll (t : Table α β) (entries : List (α × β)) : Table α β :=
  entries.foldl (fun t e => t.put e.1 e.2) t

/-- The table of a list of entries; of two with one key the later wins. -/
def ofList (entries : List (α × β)) : Table α β := empty.putAll entries

/-! ### What a write does to the reading side -/

theorem get?_eq_none_iff {t : Table α β} {k : α} : t.get? k = none ↔ k ∉ t.keys := by
  simp only [get?, Option.map_eq_none_iff, List.find?_eq_none, keys, List.mem_map]
  constructor
  · rintro h ⟨e, he, rfl⟩
    exact h e he (by simp)
  · intro h e he hk
    exact h ⟨e, he, by simpa using hk⟩

theorem contains_iff {t : Table α β} {k : α} : t.contains k = true ↔ k ∈ t.keys := by
  rw [contains, Option.isSome_iff_ne_none, ne_eq, get?_eq_none_iff, Decidable.not_not]

theorem find?_overwrite_self (entries : List (α × β)) (k : α) (v : β)
    (h : k ∈ entries.map Prod.fst) :
    (overwrite entries k v).find? (·.1 = k) = some (k, v) := by
  induction entries with
  | nil => simp at h
  | cons e es ih =>
    by_cases he : e.1 = k
    · simp [overwrite, he]
    · have hk : k ∈ es.map Prod.fst := by
        rw [List.map_cons, List.mem_cons] at h
        rcases h with h | h
        · exact absurd h.symm he
        · exact h
      have := ih hk
      simp only [overwrite, List.map_cons, he, if_false, List.find?_cons, decide_false]
      exact this

theorem find?_overwrite_of_ne (entries : List (α × β)) {k j : α} (v : β) (h : j ≠ k) :
    (overwrite entries k v).find? (·.1 = j) = entries.find? (·.1 = j) := by
  induction entries with
  | nil => rfl
  | cons e es ih =>
    have h' : k ≠ j := fun hk => h hk.symm
    by_cases he : e.1 = k
    · have hj : ¬ e.1 = j := fun hj => h (hj.symm.trans he)
      simp only [overwrite, List.map_cons, he, if_true, List.find?_cons, h', decide_false]
      exact ih
    · by_cases hj : e.1 = j
      · simp [overwrite, hj, h]
      · simp only [overwrite, List.map_cons, he, if_false, List.find?_cons, hj, decide_false]
        exact ih

/-- A key reads back what was written last. -/
@[simp] theorem get?_put_self (t : Table α β) (k : α) (v : β) : (t.put k v).get? k = some v := by
  unfold put get?
  split
  · rename_i h
    simp [find?_overwrite_self _ _ _ h]
  · rename_i h
    have hn : t.entries.find? (·.1 = k) = none := by
      have : t.get? k = none := get?_eq_none_iff.2 h
      simpa [get?] using this
    simp [List.find?_append, hn]

/-- A write leaves the other keys alone. -/
theorem get?_put_of_ne (t : Table α β) {k j : α} (v : β) (h : j ≠ k) :
    (t.put k v).get? j = t.get? j := by
  unfold put get?
  have h' : k ≠ j := fun hk => h hk.symm
  split
  · simp [find?_overwrite_of_ne _ _ h]
  · simp [List.find?_append, h']

/-! ### Tables by their entries -/

theorem get?_cons {e : α × β} {es : List (α × β)} (nodup : ((e :: es).map Prod.fst).Nodup)
    (k : α) :
    get? ⟨e :: es, nodup⟩ k =
      if e.1 = k then some e.2 else get? ⟨es, (List.nodup_cons.1 nodup).2⟩ k := by
  by_cases he : e.1 = k <;> simp [get?, he]

theorem get?_eq_some_iff {t : Table α β} {k : α} {v : β} :
    t.get? k = some v ↔ (k, v) ∈ t.entries := by
  obtain ⟨entries, nodup⟩ := t
  induction entries with
  | nil => simp [get?]
  | cons e es ih =>
    obtain ⟨hnew, hnodup⟩ := List.nodup_cons.1 nodup
    rw [get?_cons, List.mem_cons]
    by_cases he : e.1 = k
    · have hes : (k, v) ∉ es := fun h => hnew (he ▸ List.mem_map.2 ⟨_, h, rfl⟩)
      subst he
      simp [hes, Prod.ext_iff, eq_comm]
    · have hne : (k, v) ≠ e := fun h => he (h ▸ rfl)
      rw [if_neg he, ih hnodup]
      exact ⟨Or.inr, fun h => h.resolve_left hne⟩

/-- The order of the entries changes no value. -/
theorem get?_of_perm {t u : Table α β} (h : t.entries.Perm u.entries) (k : α) :
    t.get? k = u.get? k :=
  Option.ext fun v => by rw [get?_eq_some_iff, get?_eq_some_iff, h.mem_iff]

/-- A table written over another one wins. -/
theorem get?_putAll (t u : Table α β) (k : α) :
    (t.putAll u.entries).get? k = (u.get? k).or (t.get? k) := by
  obtain ⟨entries, nodup⟩ := u
  induction entries generalizing t with
  | nil => rfl
  | cons e es ih =>
    obtain ⟨hnew, hnodup⟩ := List.nodup_cons.1 nodup
    have hput : (t.putAll (e :: es)).get? k = ((t.put e.1 e.2).putAll es).get? k := rfl
    rw [hput, ih _ hnodup, get?_cons]
    by_cases he : e.1 = k
    · have hnone : get? ⟨es, hnodup⟩ k = none := get?_eq_none_iff.2 (he ▸ hnew)
      subst he
      simp [hnone]
    · rw [if_neg he, get?_put_of_ne _ _ (Ne.symm he)]

end Table

end TypeGrading
