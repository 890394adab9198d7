import TypeGrading.Proofs.Descriptor.Acceptance
import TypeGrading.Proofs.Tree.Forgetting

/-!
# Reading where there is no room

A reader that is given the text of a phrase stops where the first name has no place, with the cause
for which the whole tree of the phrase has none; and what was added until then is forgotten.

* `readUnder_refused`: a refused text leaves the arena as it was;
* `Reader.StopsWith`: a reader stops with a fault at the end of a text at the latest;
* `Reader.run_phrase_refused`: where the tree of a phrase cannot be placed, its text is not read;
* `readUnder_eq_place`, `exists_place_of_readUnder`: reading the text of a phrase is placing its
  tree.
-/

namespace TypeGrading.Descriptor

open TypeGrading.Tree

/-! ### The arena after a refused text -/

/-- **A refused text leaves the arena as it was**, however many of its names had been added. -/
theorem readUnder_refused {a : Arena} {descriptor : String} {parent : Option Nat}
    {e : DescriptorError} (h : (readUnder a descriptor parent).1 = .error e) :
    readUnder a descriptor parent = (.error e, a) := by
  rcases readUnder_cases (motive := Arena.Extends a)
      (fun _ _ _ _ _ hb hadd => hb.trans (Arena.extends_addUnder hadd)) (Arena.Extends.refl a)
      descriptor parent with ⟨id, b, hread, -⟩ | ⟨e', b, hread, hb⟩
  · rw [hread] at h
    cases h
  · rw [hread] at h ⊢
    rw [hb.2, Except.error.inj h]

theorem readUnder_eq_error {a : Arena} {descriptor : String} {parent : Option Nat} {f : Fault}
    {b : Arena} (h : (Reader.start a parent).run descriptor.toList >>= Reader.finish =
      .error ⟨f, b⟩) : readUnder a descriptor parent = (.error ⟨descriptor, f⟩, a) := by
  apply readUnder_refused
  rw [readUnder, h]

namespace Reader

variable {r s : Reader} {t : List Char} {f : Fault}

/-! ### Stopping -/

/-- The reader stops with a fault, before the end of the text or at whatever comes next. -/
def StopsWith (r : Reader) (t : List Char) (f : Fault) : Prop :=
  (∃ b, r.run t = .error ⟨f, b⟩) ∨
    ∃ s, r.run t = .ok s ∧ ∀ next, ∃ b, s.endName next = .error ⟨f, b⟩

theorem run_append_eq_error {b : Arena} (h : r.run t = .error ⟨f, b⟩) (u : List Char) :
    r.run (t ++ u) = .error ⟨f, b⟩ :=
  List.foldlM_append.trans
    (congrArg (fun x : Except Stopped Reader => x >>= fun q => q.run u) h)

/-- A delimiter is not taken where a name cannot end. -/
theorem step_eq_error {d : Char} (hd : isDelimiter d)
    (h : ∀ next, ∃ b, r.endName next = .error ⟨f, b⟩) : ∃ b, r.step d = .error ⟨f, b⟩ := by
  simp only [isDelimiter, Bool.or_eq_true, beq_iff_eq] at hd
  rcases hd with (rfl | rfl) | rfl
  · obtain ⟨b, hb⟩ := h (some '<')
    refine ⟨b, ?_⟩
    cases hphase : r.phase with
    | closed node =>
      simp only [endName, hphase] at hb
      cases hb
    | naming start reversed =>
      simp only [step, openList, hphase, hb, if_true]
      rfl
  · obtain ⟨b, hb⟩ := h (some '>')
    exact ⟨b, by simp only [step, closeList, hb]; rfl⟩
  · obtain ⟨b, hb⟩ := h (some ',')
    exact ⟨b, by simp only [step, nextParameter, hb]; rfl⟩

theorem StopsWith.run_delimiter {d : Char} (h : r.StopsWith t f) (hd : isDelimiter d)
    (u : List Char) : ∃ b, r.run (t ++ d :: u) = .error ⟨f, b⟩ := by
  rcases h with ⟨b, hrun⟩ | ⟨s, hrun, hend⟩
  · exact ⟨b, run_append_eq_error hrun _⟩
  · obtain ⟨b, hstep⟩ := step_eq_error hd hend
    refine ⟨b, (run_append_eq hrun _).trans ?_⟩
    exact run_append_eq_error (t := [d]) (u := u) (by rw [run, List.foldlM_cons, hstep]; rfl)

theorem StopsWith.finish (h : r.StopsWith t f) :
    ∃ b, r.run t >>= Reader.finish = .error ⟨f, b⟩ := by
  rcases h with ⟨b, hrun⟩ | ⟨s, hrun, hend⟩
  · exact ⟨b, by rw [hrun]; rfl⟩
  · obtain ⟨b, hb⟩ := hend none
    refine ⟨b, ?_⟩
    rw [hrun]
    show s.finish = _
    rw [Reader.finish, hb]
    rfl

/-! ### Phrases -/

/-- The text of a phrase stops the reader with the cause for which its tree cannot be placed. -/
def Refuses (p : Phrase) : Prop :=
  ∀ (r : Reader) (start : Nat) (e : EditError), r.phase = .naming start [] →
    r.opened.length + p.nesting ≤ maxNesting →
    r.arena.place r.owner (TypeTree.ofExpr p.expr) = .error e → r.StopsWith p.text (.ofEdit e)

/-- A segment is read, and its name has no place. -/
theorem stopsWith_segment {seg : Segment} {start : Nat} {e : EditError}
    (hr : r.phase = .naming start [])
    (hplace : r.arena.place r.owner (TypeTree.single seg.name) = .error e) :
    r.StopsWith seg.chars (.ofEdit e) := by
  rw [Arena.place_single seg.isName] at hplace
  have hchars : (seg.chars.reverse ++ []).reverse = seg.chars := by simp
  refine Or.inr ⟨_, run_plain hr seg.plain, fun next => ⟨r.arena, endName_eq_error rfl ?_ ?_⟩⟩
  · rw [hchars]
    exact seg.trim_ne_nil
  · rw [hchars]
    exact hplace

section Params

variable {a : Arena} {parent : Nat} {up : Record} {name : String} {l : OpenList}
  {outer : List OpenList}

/-- A parameter that lies too deep is not read. -/
theorem stopsWith_param {q : Phrase} (hq : Refuses q) {done : List TypeExpr} {start : Nat}
    (hup : a.records[parent]? = some up) (hr : r.phase = .naming start [])
    (hopen : r.opened = l :: outer) (hown : l.owner = a.size)
    (hplace : a.place (some parent) (TypeTree.ofExpr (.app name done)) = .ok (a.size, r.arena))
    (nest : outer.length + (q.nesting + 1) ≤ maxNesting)
    (deep : maxDepth < up.depth + 1 + (q.nesting + 1)) :
    r.StopsWith q.text (.depthExceeded maxDepth) := by
  have howner : r.owner = some a.size := by rw [owner, hopen, ← hown]
  obtain ⟨own, hcopy, hdepth⟩ := Arena.depth_of_graft hup (TypeTree.root_ofExpr _).2 hplace
  refine hq r start (.depthExceeded maxDepth) hr (by rw [hopen, List.length_cons]; omega) ?_
  rw [howner, Arena.place_some]
  refine Arena.graft_eq_depthExceeded hcopy ?_
  rw [TypeTree.deepest_ofExpr, Phrase.height_expr, hdepth]
  omega

/-- A parameter that does not lie too deep has room under the type so far. -/
theorem hasRoom_param {q : Phrase} {done : List TypeExpr} {b : Arena}
    (hup : a.records[parent]? = some up)
    (hplace : a.place (some parent) (TypeTree.ofExpr (.app name done)) = .ok (a.size, b))
    (fits : up.depth + 1 + (q.nesting + 1) ≤ maxDepth) :
    a.HasRoom (some parent) (TypeExpr.app name (done ++ [q.expr])).height := by
  obtain ⟨up', hup', hdone, -, -⟩ := Arena.exists_attach_of_graft hplace
  obtain rfl := Option.some.inj (hup.symm.trans hup')
  rw [TypeTree.deepest_ofExpr] at hdone
  refine ⟨up, hup, ?_⟩
  rw [TypeExpr.height_append_singleton, Phrase.height_expr]
  omega

/-- The parameters of the innermost list are read up to the first one that lies too deep. -/
theorem run_params_refused {q : Phrase} {ps : List Phrase} (hps : ∀ p ∈ q :: ps, Refuses p)
    {done : List TypeExpr} {start : Nat} (hup : a.records[parent]? = some up)
    (hr : r.phase = .naming start []) (hopen : r.opened = l :: outer) (hown : l.owner = a.size)
    (hplace : a.place (some parent) (TypeTree.ofExpr (.app name done)) = .ok (a.size, r.arena))
    (nest : ∀ p ∈ q :: ps, outer.length + (p.nesting + 1) ≤ maxNesting)
    (deep : ∃ p ∈ q :: ps, maxDepth < up.depth + 1 + (p.nesting + 1)) (u : List Char) :
    ∃ b, r.run (q.text ++ (Phrase.others ps ++ '>' :: u)) = .error ⟨.depthExceeded maxDepth, b⟩ := by
  -- the parameters that fit move from the list to `done`, as where all of them are read
  induction ps generalizing q r start done with
  | nil =>
    obtain ⟨p, hp, hdeep⟩ := deep
    obtain rfl := List.mem_singleton.1 hp
    exact (stopsWith_param (hps p hp) hup hr hopen hown hplace (nest p hp) hdeep).run_delimiter
      (by decide) u
  | cons p ps ih =>
    have hq : q ∈ q :: p :: ps := List.mem_cons_self
    rw [Phrase.others_cons]
    rcases Nat.lt_or_ge maxDepth (up.depth + 1 + (q.nesting + 1)) with hdeep | hfits
    · exact (stopsWith_param (hps q hq) hup hr hopen hown hplace (nest q hq) hdeep).run_delimiter
        (by decide) _
    · obtain ⟨s, c, node, hrun, hs, hplace'⟩ := run_param (run_phrase q) hr hopen hown hplace
        (nest q hq) (hasRoom_param hup hplace hfits)
      rw [hopen] at hs
      have hrest : ∃ p' ∈ p :: ps, maxDepth < up.depth + 1 + (p'.nesting + 1) := by
        obtain ⟨p', hp', hdeep⟩ := deep
        rcases List.mem_cons.1 hp' with rfl | hp'
        · exact absurd hfits (Nat.not_le.2 hdeep)
        · exact ⟨p', hp', hdeep⟩
      obtain ⟨b, hb⟩ := ih (r := { s with
          arena := c
          offset := s.offset + 1
          phase := .naming (s.offset + 1) [] }) (fun p' hp' => hps p' (List.mem_cons_of_mem _ hp'))
        rfl hs.opened_eq hplace' (fun p' hp' => nest p' (List.mem_cons_of_mem _ hp')) hrest
      refine ⟨b, ?_⟩
      rw [run_append_eq hrun, List.cons_append, List.append_assoc, run_cons_eq (nextParameter_eq hs)]
      exact hb

end Params

/-- **Reading a phrase where there is no room.** Where the phrase may be nested that deep but its
tree cannot be placed, the reader stops with that cause at the end of its text at the latest. -/
theorem run_phrase_refused (p : Phrase) : Refuses p := by
  induction p with
  | segment seg =>
    intro r start e hr nest hplace
    rw [Phrase.expr, TypeTree.ofExpr_leaf] at hplace
    rw [Phrase.text]
    exact stopsWith_segment hr hplace
  | list seg first ps gap ihf iho =>
    intro r start e hr nest hplace
    have hps : ∀ p ∈ first :: ps, Refuses p := List.forall_mem_cons.2 ⟨ihf, iho⟩
    have hnest : ∀ p ∈ first :: ps, r.opened.length + (p.nesting + 1) ≤ maxNesting := fun p hp => by
      have := Phrase.nesting_list_le_iff.1 (le_refl (Phrase.list seg first ps gap).nesting) p hp
      omega
    rw [Phrase.text_list]
    cases hname : r.arena.place r.owner (TypeTree.ofExpr (.app seg.name [])) with
    | error e' =>
      -- not even the name before the list has a place
      have hlow : (TypeTree.ofExpr (.app seg.name [])).arena.deepest ≤
          (TypeTree.ofExpr (Phrase.list seg first ps gap).expr).arena.deepest := by
        rw [TypeTree.deepest_ofExpr, TypeExpr.height_leaf]
        exact Nat.zero_le _
      obtain rfl : e = e' :=
        Except.error.inj (hplace.symm.trans (Arena.place_eq_error_of_le hname hlow))
      rw [TypeTree.ofExpr_leaf] at hname
      exact Or.inl ((stopsWith_segment hr hname).run_delimiter (by decide) _)
    | ok added =>
      -- the name has a place, so some parameter lies too deep
      obtain ⟨rfl, parent, up, howner, hup, fits, deep⟩ := Arena.cause_of_place hname hplace
      rw [TypeTree.deepest_ofExpr] at fits deep
      rw [Phrase.height_expr] at deep
      have hdeep : ∃ p ∈ first :: ps, maxDepth < up.depth + 1 + (p.nesting + 1) := by
        by_contra hnone
        have hle : (Phrase.list seg first ps gap).nesting ≤ maxDepth - (up.depth + 1) := by
          rw [Phrase.nesting_list_le_iff]
          intro p hp
          by_contra hp'
          exact hnone ⟨p, hp, by omega⟩
        omega
      have room : r.arena.HasRoom r.owner 0 := by
        rw [howner]
        exact ⟨up, hup, by omega⟩
      obtain ⟨s, b, hrun, hphase, hs, hb⟩ := run_segment seg hr room
      have hopen := openList_eq hphase hs.endName_eq (by
        have := hnest first List.mem_cons_self
        rw [hs.opened_eq]
        omega)
      rw [howner] at hb
      obtain ⟨c, hc⟩ := run_params_refused (r := { s with
          arena := b
          offset := s.offset + 1
          opened := ⟨r.arena.size, s.offset⟩ :: s.opened
          phase := .naming (s.offset + 1) [] }) hps hup rfl rfl rfl hb
        (by rw [hs.opened_eq]; exact hnest) hdeep gap.chars
      refine Or.inl ⟨c, ?_⟩
      rw [run_append_eq hrun, run_cons_eq hopen]
      exact hc

end Reader

/-! ### Whole texts -/

/-- **Reading is placing.** The text of a phrase that is not nested too deep is read into an arena
where its tree can be placed, with the same result; where the tree is refused, the text is refused
with that cause, and the arena is left as it was. -/
theorem readUnder_eq_place {descriptor : String} {p : Phrase} (htext : p.text = descriptor.toList)
    (nest : p.nesting ≤ maxNesting) (a : Arena) (parent : Option Nat) :
    readUnder a descriptor parent =
      match a.place parent (TypeTree.ofExpr p.expr) with
      | .ok (id, b) => (.ok id, b)
      | .error e => (.error ⟨descriptor, .ofEdit e⟩, a) := by
  cases hplace : a.place parent (TypeTree.ofExpr p.expr) with
  | ok added =>
    have room := Arena.hasRoom_of_place hplace (by
      rw [TypeTree.deepest_ofExpr, Phrase.height_expr]
      exact nest)
    rw [TypeTree.deepest_ofExpr, Phrase.height_expr] at room
    obtain ⟨b, hb, hread⟩ := readUnder_phrase htext nest room
    obtain rfl := Except.ok.inj (hplace.symm.trans hb)
    exact hread
  | error e =>
    have hstops := Reader.run_phrase_refused p (Reader.start a parent) 0 e rfl
      (by simpa [Reader.start] using nest) hplace
    rw [htext] at hstops
    obtain ⟨b, hb⟩ := hstops.finish
    exact readUnder_eq_error hb

/-- A text that is read is that of a phrase whose tree is placed. -/
theorem exists_place_of_readUnder {a b : Arena} {descriptor : String} {parent : Option Nat}
    {id : Nat} (h : readUnder a descriptor parent = (.ok id, b)) :
    ∃ p : Phrase, p.text = descriptor.toList ∧ p.nesting ≤ maxNesting ∧
      a.place parent (TypeTree.ofExpr p.expr) = .ok (id, b) := by
  obtain ⟨p, htext, nest⟩ := exists_phrase_of_readUnder h
  refine ⟨p, htext, nest, ?_⟩
  rw [readUnder_eq_place htext nest] at h
  cases hplace : a.place parent (TypeTree.ofExpr p.expr) with
  | error cause =>
    rw [hplace] at h
    cases (Prod.mk.inj h).1
  | ok added =>
    rw [hplace] at h
    obtain ⟨hid, rfl⟩ := Prod.mk.inj h
    rw [← Except.ok.inj hid]

end TypeGrading.Descriptor
