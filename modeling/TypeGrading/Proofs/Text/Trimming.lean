import Mathlib.Tactic
import TypeGrading.Text.Blank

/-!
# Trimming

* `mem_of_mem_trim`, `trim_trim`: trimming keeps no new character, and once is enough;
* `trim_append_of_blank`: blanks in front are cut off.
-/

namespace TypeGrading.Text

theorem isBlank_nil : IsBlank [] := by simp [IsBlank]

theorem isBlank_append {s t : List Char} (hs : IsBlank s) (ht : IsBlank t) : IsBlank (s ++ t) := by
  intro c hc
  rcases List.mem_append.1 hc with hc | hc
  · exact hs c hc
  · exact ht c hc

theorem mem_of_mem_trimStart {s : List Char} {c : Char} (h : c ∈ trimStart s) : c ∈ s :=
  (List.dropWhile_suffix _).subset h

theorem mem_of_mem_trim {s : List Char} {c : Char} (h : c ∈ trim s) : c ∈ s :=
  mem_of_mem_trimStart (List.mem_reverse.1 (mem_of_mem_trimStart (List.mem_reverse.1 h)))

theorem not_isBlank_head_trimStart (s : List Char) : ∀ c ∈ (trimStart s).head?, ¬ isBlank c := by
  intro c hc
  have h := List.head?_dropWhile_not isBlank s
  rw [show (s.dropWhile isBlank).head? = some c from hc] at h
  simpa using h

theorem trimStart_eq_self_of_head {s : List Char} (h : ∀ c ∈ s.head?, ¬ isBlank c) :
    trimStart s = s := by
  cases s with
  | nil => rfl
  | cons c s => simp [trimStart, h c (by simp)]

theorem trimStart_trimStart (s : List Char) : trimStart (trimStart s) = trimStart s :=
  trimStart_eq_self_of_head (not_isBlank_head_trimStart s)

/-- What trimming leaves starts where trimming at the start stopped. -/
theorem head?_trim (s : List Char) : ∀ c ∈ (trim s).head?, ¬ isBlank c := by
  intro c hc
  -- the end is cut off from a text that starts with a character that is not blank
  have hpre : trim s <+: trimStart s := by
    rw [trim, ← List.reverse_suffix, List.reverse_reverse]
    exact List.dropWhile_suffix _
  obtain ⟨rest, hrest⟩ := hpre
  refine not_isBlank_head_trimStart s c ?_
  rw [← hrest]
  cases ht : trim s with
  | nil => simp [ht] at hc
  | cons d t => simpa [ht] using hc

theorem trim_trim (s : List Char) : trim (trim s) = trim s := by
  rw [trim, trimStart_eq_self_of_head (head?_trim s)]
  rw [trim, List.reverse_reverse, trimStart_trimStart]

theorem trim_append_of_blank {b s : List Char} (hb : IsBlank b) : trim (b ++ s) = trim s := by
  have hstart : trimStart (b ++ s) = trimStart s := by
    rw [trimStart, List.dropWhile_append_of_pos hb]
    rfl
  rw [trim, hstart, trim]

end TypeGrading.Text
