import TypeGrading.Proofs.Descriptor.Edits
import TypeGrading.Proofs.Descriptor.Refusal

/-!
# Reading in place

Reading a descriptor under a node and grafting its tree there are one operation: the same texts are
accepted, at the same position and with the same records, and what the graft is refused for, the
text is refused for.

* `readUnder_some_eq_ok_iff`, `readUnder_of_graft_refused`: the two outcomes under a node;
* `parse_eq_ok_iff_readUnder`, `parse_eq_error_iff_readUnder`: the two outcomes in an empty arena;
* `reading_is_grafting`: all of them together.
-/

namespace TypeGrading.Descriptor

open TypeGrading.Tree

variable {a b : Arena} {parent id : Nat} {descriptor : String} {t : TypeTree}

/-! ### Under a node -/

/-- The text of a parsed tree is read by grafting the tree. -/
theorem readUnder_of_parse (h : parse descriptor = .ok t) (a : Arena) (parent : Nat) :
    readUnder a descriptor (some parent) =
      match a.graft parent t with
      | .ok (id, b) => (.ok id, b)
      | .error e => (.error ⟨descriptor, .ofEdit e⟩, a) := by
  obtain ⟨p, htext, nest, rfl⟩ := parse_eq_ok_iff.1 h
  exact readUnder_eq_place htext nest a (some parent)

theorem readUnder_some_eq_ok_iff : readUnder a descriptor (some parent) = (.ok id, b) ↔
    ∃ t, parse descriptor = .ok t ∧ a.graft parent t = .ok (id, b) := by
  constructor
  · intro hread
    obtain ⟨p, htext, nest, hplace⟩ := exists_place_of_readUnder hread
    exact ⟨_, parse_phrase htext nest, hplace⟩
  · rintro ⟨t, hparse, hgraft⟩
    rw [readUnder_of_parse hparse, hgraft]

/-- A text whose tree cannot be grafted is refused with that cause. -/
theorem readUnder_of_graft_refused {e : EditError} (hparse : parse descriptor = .ok t)
    (hgraft : a.graft parent t = .error e) :
    (e = .unknownNode parent ∧ readUnder a descriptor (some parent) =
      (.error ⟨descriptor, .edit (.unknownNode parent)⟩, a)) ∨
    (e = .depthExceeded maxDepth ∧ readUnder a descriptor (some parent) =
      (.error ⟨descriptor, .depthExceeded maxDepth⟩, a)) := by
  have hread := readUnder_of_parse hparse a parent
  rw [hgraft] at hread
  rcases a.graft_cases parent t with ⟨-, hcause⟩ | ⟨r, -, -, hcause⟩ | ⟨r, hr, -, hcause⟩
  · obtain rfl := Except.error.inj (hgraft.symm.trans hcause)
    exact Or.inl ⟨rfl, hread⟩
  · obtain rfl := Except.error.inj (hgraft.symm.trans hcause)
    exact Or.inr ⟨rfl, hread⟩
  · cases hgraft.symm.trans hcause

/-! ### In an empty arena -/

theorem parse_eq_ok_iff_readUnder : parse descriptor = .ok t ↔
    ∃ id b, readUnder Arena.empty descriptor none = (.ok id, b) ∧ b.build = .ok t := by
  constructor
  · intro hparse
    rcases hread : readUnder Arena.empty descriptor none with ⟨e | id, b⟩
    · rw [parse, hread] at hparse
      cases hparse
    · refine ⟨id, b, rfl, ?_⟩
      cases hbuild : b.build with
      | error e =>
        simp only [parse, hread, hbuild] at hparse
        cases hparse
      | ok u =>
        simp only [parse, hread, hbuild] at hparse
        rw [Except.ok.inj hparse]
  · rintro ⟨id, b, hread, hbuild⟩
    simp only [parse, hread, hbuild]

theorem parse_eq_error_iff_readUnder {e : DescriptorError} : parse descriptor = .error e ↔
    readUnder Arena.empty descriptor none = (.error e, Arena.empty) := by
  constructor
  · intro hparse
    apply readUnder_refused
    rcases hread : readUnder Arena.empty descriptor none with ⟨e' | id, b⟩
    · rw [parse, hread] at hparse
      rw [Except.error.inj hparse]
    · -- a text that is read has a phrase, so it parses
      obtain ⟨p, htext, nest⟩ := exists_phrase_of_readUnder hread
      cases hparse.symm.trans (parse_phrase htext nest)
  · intro hread
    rw [parse, hread]

/-- **Reading in place is grafting.** A descriptor is read under a node exactly if it parses and its
tree can be grafted there, and then the position and the arena are those of the graft. If it parses
and the graft is refused, because the node is unknown or the tree would reach too deep, it is
refused with that cause. And in an empty arena reading and building is parsing. -/
theorem reading_is_grafting (a : Arena) (parent : Nat) (descriptor : String) :
    (∀ id b, readUnder a descriptor (some parent) = (.ok id, b) ↔
      ∃ t, parse descriptor = .ok t ∧ a.graft parent t = .ok (id, b)) ∧
    (∀ t e, parse descriptor = .ok t → a.graft parent t = .error e →
      (e = .unknownNode parent ∧ readUnder a descriptor (some parent) =
        (.error ⟨descriptor, .edit (.unknownNode parent)⟩, a)) ∨
      (e = .depthExceeded maxDepth ∧ readUnder a descriptor (some parent) =
        (.error ⟨descriptor, .depthExceeded maxDepth⟩, a))) ∧
    (∀ t, parse descriptor = .ok t ↔
      ∃ id b, readUnder Arena.empty descriptor none = (.ok id, b) ∧ b.build = .ok t) ∧
    (∀ e, parse descriptor = .error e ↔
      readUnder Arena.empty descriptor none = (.error e, Arena.empty)) :=
  ⟨fun _ _ => readUnder_some_eq_ok_iff, fun _ _ => readUnder_of_graft_refused,
    fun _ => parse_eq_ok_iff_readUnder, fun _ => parse_eq_error_iff_readUnder⟩

/-- The derivation of a name with one parameter. -/
def pairPhrase : Phrase :=
  .list ⟨['B'], by decide, by simp [isDelimiter]⟩
    (.segment ⟨['C'], by decide, by simp [isDelimiter]⟩) [] Gap.empty

theorem text_pairPhrase : pairPhrase.text = "B<C>".toList := by
  have htext : pairPhrase.text = ['B', '<', 'C', '>'] := by
    simp [pairPhrase, Phrase.text, Gap.empty]
  exact htext.trans (by decide)

theorem nesting_pairPhrase : pairPhrase.nesting = 1 := by simp [pairPhrase, Phrase.nesting]

theorem reading_is_grafting_graftedArena :
    readUnder graftedArena "B<C>" (some 9) =
        (.error ⟨"B<C>", .edit (.unknownNode 9)⟩, graftedArena) ∧
      ∃ b, readUnder graftedArena "B<C>" (some 3) = (.ok 4, b) := by
  have hparse : parse "B<C>" = .ok (TypeTree.ofExpr pairPhrase.expr) :=
    parse_phrase text_pairPhrase (by rw [nesting_pairPhrase]; decide)
  have hsize : graftedArena.size = 4 := by decide +kernel
  constructor
  · have hunknown : graftedArena.graft 9 (TypeTree.ofExpr pairPhrase.expr) = .error (.unknownNode 9) :=
      Arena.graft_eq_unknownNode _ (by omega)
    rcases (reading_is_grafting graftedArena 9 "B<C>").2.1 _ _ hparse hunknown with
      ⟨-, hread⟩ | ⟨hcause, -⟩
    · exact hread
    · cases hcause
  · have hup : graftedArena.records[3]? = some ⟨"C", some 2, [], 3⟩ := by decide +kernel
    have hdeepest : (TypeTree.ofExpr pairPhrase.expr).arena.deepest = 1 := by
      rw [TypeTree.deepest_ofExpr, Phrase.height_expr, nesting_pairPhrase]
    have hgraft := Arena.graft_eq_ok (t := TypeTree.ofExpr pairPhrase.expr) hup
      (by rw [hdeepest]; decide)
    rw [hsize] at hgraft
    exact ⟨_, ((reading_is_grafting graftedArena 3 "B<C>").1 4 _).2 ⟨_, hparse, hgraft⟩⟩

end TypeGrading.Descriptor
