import Statechart.Proofs.Machine.Handling
import Statechart.Proofs.Machine.Targets
import Statechart.Proofs.Text.Segments
/-!
What a text means as a position. Full paths and paths from below the root are written alike, and a
full path wins. Main statement: a built machine looks up exactly what a text means, which is one state
at most; every state is found by its full path, and every state but the root by its path from below
the root, unless that is the full path of another state. Only a child of the root with the id of the
root brings this about.
-/

namespace Statechart

namespace Definition

variable {d : Definition} {q : Nat} {s : Slot} {text : String}

/-! ## Paths below the root -/

/-- Below the root a path has a second id. -/
theorem Placed.segments_below (hs : d.Placed q s) (hq : q ≠ 0) :
    ∃ id rest, s.path.segments = d.id :: id :: rest := by
  rcases hs.parent_cases with ⟨hroot, -⟩ | ⟨p, t, ht, -, -, hpath, -⟩
  · exact absurd hroot hq
  · obtain ⟨front, hfront, -⟩ := ht.reaches.1
    have hsegments : s.path.segments = d.id :: (front ++ [s.id]) := by
      rw [hpath, StatePath.segments_child, hfront, List.cons_append]
    obtain ⟨id, rest, hrest⟩ := List.exists_cons_of_ne_nil (List.concat_ne_nil s.id front)
    exact ⟨id, rest, by rw [hsegments, hrest]⟩

/-- Below the root the full path is the id of the root, a dot and the path from below it. -/
theorem Placed.display_below (hs : d.Placed q s) (hq : q ≠ 0) :
    s.path.display = d.id ++ "." ++ s.path.relative := by
  obtain ⟨id, rest, hsegments⟩ := hs.segments_below hq
  rw [StatePath.display, StatePath.relative, hsegments, List.tail_cons]
  exact String.intercalate_cons_of_ne_nil (List.cons_ne_nil id rest)

/-- The path of the root is no longer than its id. -/
theorem Placed.display_ne_below (hd : d.Shaped) (hs : d.Placed 0 s) :
    s.path.display ≠ d.id ++ "." ++ text := by
  intro hdisplay
  have hsegments : s.path.segments = d.id :: splitDots text := by
    rw [(hs.display_eq_iff hd).mp hdisplay, splitDots_append_dot hd.id.2.1]
  have hroot : s.path.segments = [d.id] := by
    rw [hs.unique .root]
    rfl
  rw [hroot, List.cons.injEq] at hsegments
  exact splitDots_ne_nil text hsegments.2.symm

/-- From below the root a path is shown without a leading mark. -/
theorem Placed.stripHash_relative (hd : d.Shaped) (hs : d.Placed q s) (hq : q ≠ 0) :
    stripHash s.path.relative = s.path.relative := by
  obtain ⟨id, rest, hsegments⟩ := hs.segments_below hq
  have hid : ValidId id := hd.validId hs.reaches.1 id (by simp [hsegments])
  have hrelative : s.path.relative = StatePath.display ⟨id :: rest⟩ := by
    rw [StatePath.relative, hsegments]
    rfl
  rw [hrelative, StatePath.stripHash_display hid]

/-- If the path of a state from below the root is the full path of another one, then it repeats the
id of the root, and so does a child of the root. -/
theorem Placed.repeats_of_display_eq_relative (hd : d.Shaped) (hs : d.Placed q s) (hq : q ≠ 0)
    {j : Nat} {u : Slot} (hu : d.Placed j u) (hdisplay : u.path.display = s.path.relative) :
    j ≠ q ∧ ∃ c v, d.Placed c v ∧ v.parent = some 0 ∧ v.id = d.id := by
  -- the full path behind the id of the root is the full path below the root
  have hsegments : s.path.segments = d.id :: u.path.segments := by
    have hfull : s.path.display = d.id ++ "." ++ u.path.display := by
      rw [hs.display_below hq, hdisplay]
    rw [(hs.display_eq_iff hd).mp hfull, splitDots_append_dot hd.id.2.1,
      (hu.display_eq_iff hd).mp rfl]
  constructor
  · rintro rfl
    have hlength := congrArg List.length hsegments
    rw [hu.unique hs, List.length_cons] at hlength
    omega
  · obtain ⟨rest, hrest, hbelow⟩ := hs.reaches.1
    obtain ⟨rest', hrest', -⟩ := hu.reaches.1
    have hrepeats : rest = d.id :: rest' := by
      rw [hsegments, hrest', List.cons.injEq] at hrest
      exact hrest.2.symm
    -- so the chain goes on from the root to a child with the same id
    rw [hrepeats] at hbelow
    cases hbelow with
    | step hchild _ =>
      obtain ⟨c, v, hv, hpath, -⟩ := (d.reaches_root.snoc hchild).placed
      refine ⟨c, v, hv, ?_⟩
      have hconcat : v.path.segments = StatePath.segments ⟨[d.id]⟩ ++ [d.id] := by rw [hpath]
      exact (hv.segments_eq_concat_iff hd .root).mp hconcat

end Definition

namespace Machine

/-- The full path of the state at a position is shown by a text. -/
def ShownAt (m : Machine) (text : String) (k : Nat) : Prop :=
  ∃ t, m.state? k = some t ∧ t.path.display = text

/-- A text means the state whose full path it shows, but for one leading `#`. If there is none, it
means the state whose full path it shows behind the id of the root. -/
def Means (m : Machine) (s : String) (k : Nat) : Prop :=
  m.ShownAt (stripHash s) k ∨
    (∀ j, ¬ m.ShownAt (stripHash s) j) ∧ m.ShownAt (m.id ++ "." ++ stripHash s) k

/-- A child of the root has the id of the root. -/
def RepeatsRootId (m : Machine) : Prop :=
  ∃ c u, m.state? c = some u ∧ u.parent = some root ∧ u.id = m.id

/-- Which state a machine finds for a text. -/
structure LooksUp (m : Machine) : Prop where
  lookup_iff : ∀ s k, m.lookup s = some k ↔ m.Means s k
  unique : ∀ s j k, m.Means s j → m.Means s k → j = k
  empty : m.lookup "" = none
  hash : m.lookup "#" = none
  /-- No text with an empty segment is found. -/
  gap : ∀ s, HasEmptySegment (stripHash s) → m.lookup s = none
  /-- Nor is a text, if a segment still starts with `#` when one leading `#` is gone. -/
  marked : ∀ s, (∃ id ∈ splitDots (stripHash s), id.toList.head? = some '#') → m.lookup s = none
  full : ∀ k t, m.state? k = some t →
    m.lookup t.path.display = some k ∧ m.lookup ("#" ++ t.path.display) = some k
  /-- From below the root a state is found unless the text is the full path of another one. -/
  relative : ∀ k t, m.state? k = some t → k ≠ root →
    (m.lookup t.path.relative = some k ↔ ∀ j, j ≠ k → ¬ m.ShownAt t.path.relative j)
  clash : ∀ k t j, m.state? k = some t → k ≠ root → j ≠ k → m.ShownAt t.path.relative j →
    m.RepeatsRootId

variable {m : Machine} {d : Definition} {s text : String} {k : Nat} {t : State}

namespace Realizes

theorem id_eq (h : m.Realizes d) : m.id = d.id := congrArg Definition.id h.definition

/-- The index answers with the position whose full path is shown. -/
theorem index?_iff_shownAt (h : m.Realizes d) : m.index? text = some k ↔ m.ShownAt text k := by
  rw [h.index]
  constructor
  · rintro ⟨u, hu, hdisplay⟩
    obtain ⟨t, ht, hfills⟩ := h.state_of_placed hu
    exact ⟨t, ht, by rw [hfills.path, hdisplay]⟩
  · rintro ⟨t, ht, hdisplay⟩
    obtain ⟨u, hu, hfills⟩ := h.placed_of_state ht
    exact ⟨u, hu, by rw [← hfills.path, hdisplay]⟩

/-- A text is looked up as what it means. -/
theorem lookup_iff_means (h : m.Realizes d) : m.lookup s = some k ↔ m.Means s k := by
  have hfull : ∀ j, m.index? (stripHash s) = some j ↔ m.ShownAt (stripHash s) j :=
    fun _ => h.index?_iff_shownAt
  simp only [lookup, Means, ← h.index?_iff_shownAt]
  -- the second look into the index is taken only if the first one finds nothing
  cases m.index? (stripHash s) <;> simp

/-- Behind the id of the root a text shows the states whose path from below the root it is. -/
theorem shownAt_below_iff (h : m.Realizes d) :
    m.ShownAt (m.id ++ "." ++ text) k ↔
      k ≠ root ∧ ∃ t, m.state? k = some t ∧ t.path.relative = text := by
  rw [h.id_eq]
  constructor
  · rintro ⟨t, ht, hdisplay⟩
    obtain ⟨u, hu, hfills⟩ := h.placed_of_state ht
    rw [hfills.path] at hdisplay
    have hk : k ≠ 0 := by
      rintro rfl
      exact hu.display_ne_below h.shaped hdisplay
    rw [hu.display_below hk] at hdisplay
    refine ⟨hk, t, ht, ?_⟩
    rw [hfills.path]
    exact (String.append_right_inj _).mp hdisplay
  · rintro ⟨hk, t, ht, rfl⟩
    obtain ⟨u, hu, hfills⟩ := h.placed_of_state ht
    exact ⟨t, ht, by rw [hfills.path, hu.display_below hk]⟩

/-- The segments of what is found may all be ids of states. -/
theorem validId_of_means (h : m.Realizes d) (hk : m.Means s k) :
    ∀ id ∈ splitDots (stripHash s), ValidId id := by
  have hshown : ∀ text, m.ShownAt text k → ∀ id ∈ splitDots text, ValidId id := by
    rintro text ⟨t, ht, hdisplay⟩
    obtain ⟨u, hu, hfills⟩ := h.placed_of_state ht
    rw [hfills.path, hu.display_eq_iff h.shaped] at hdisplay
    rw [← hdisplay]
    exact h.shaped.validId hu.reaches.1
  rcases hk with hfull | ⟨-, hbelow⟩
  · exact hshown _ hfull
  · intro id hid
    apply hshown _ hbelow
    rw [h.id_eq, splitDots_append_dot h.shaped.id.2.1]
    exact List.mem_cons_of_mem _ hid

theorem lookup_eq_none (h : m.Realizes d)
    (hinvalid : ∃ id ∈ splitDots (stripHash s), ¬ ValidId id) : m.lookup s = none := by
  obtain ⟨id, hid, hne⟩ := hinvalid
  apply Option.eq_none_iff_forall_ne_some.mpr
  intro k hk
  exact hne (h.validId_of_means (h.lookup_iff_means.mp hk) id hid)

theorem lookup_eq_none_of_gap (h : m.Realizes d) (hgap : HasEmptySegment (stripHash s)) :
    m.lookup s = none :=
  h.lookup_eq_none ⟨"", empty_mem_splitDots_iff.mpr hgap, fun hvalid => hvalid.1 rfl⟩

/-- From below the root a state is found if no other state has that text as its full path. -/
theorem lookup_relative_iff (h : m.Realizes d) (ht : m.state? k = some t) (hk : k ≠ root) :
    m.lookup t.path.relative = some k ↔ ∀ j, j ≠ k → ¬ m.ShownAt t.path.relative j := by
  obtain ⟨u, hu, hfills⟩ := h.placed_of_state ht
  have hstrip : stripHash t.path.relative = t.path.relative := by
    rw [hfills.path]
    exact hu.stripHash_relative h.shaped hk
  have hbelow : m.ShownAt (m.id ++ "." ++ t.path.relative) k :=
    h.shownAt_below_iff.mpr ⟨hk, t, ht, rfl⟩
  constructor
  · intro hlookup j hj hshown
    have hmeans : m.Means t.path.relative j := .inl (by rwa [hstrip])
    have hfound := h.lookup_iff_means.mpr hmeans
    rw [hlookup, Option.some.injEq] at hfound
    exact hj hfound.symm
  · intro hother
    rw [h.lookup_iff_means, Means, hstrip]
    by_cases hself : m.ShownAt t.path.relative k
    · exact .inl hself
    · refine .inr ⟨?_, hbelow⟩
      intro j hshown
      by_cases hj : j = k
      · exact hself (hj ▸ hshown)
      · exact hother j hj hshown

theorem repeatsRootId_of_shownAt (h : m.Realizes d) (ht : m.state? k = some t) (hk : k ≠ root)
    {j : Nat} (hshown : m.ShownAt t.path.relative j) : j ≠ k ∧ m.RepeatsRootId := by
  obtain ⟨x, hx, hdisplay⟩ := hshown
  obtain ⟨v, hv, hfills⟩ := h.placed_of_state ht
  obtain ⟨u, hu, hfills'⟩ := h.placed_of_state hx
  rw [hfills.path, hfills'.path] at hdisplay
  obtain ⟨hj, c, w, hw, hparent, hid⟩ := hv.repeats_of_display_eq_relative h.shaped hk hu hdisplay
  obtain ⟨y, hy, hfills''⟩ := h.state_of_placed hw
  exact ⟨hj, c, y, hy, hfills''.parent.trans hparent, by rw [hfills''.id, hid, h.id_eq]⟩

end Realizes

/-- A built machine looks up exactly what a text means. -/
theorem looksUp_of_ofDefinition (h : ofDefinition d = .ok m) : m.LooksUp := by
  have hm := realizes_of_ofDefinition h
  refine ⟨fun s k => hm.lookup_iff_means, ?_, hm.lookup_eq_none_of_gap ?_,
    hm.lookup_eq_none_of_gap ?_, fun s => hm.lookup_eq_none_of_gap, ?_, ?_,
    fun k t => hm.lookup_relative_iff, ?_⟩
  · intro s j k hj hk
    rw [← hm.lookup_iff_means] at hj hk
    exact Option.some.inj (hj.symm.trans hk)
  · exact hasEmptySegment_empty
  · exact hasEmptySegment_empty
  · rintro s ⟨id, hid, hhash⟩
    exact hm.lookup_eq_none ⟨id, hid, fun hvalid => hvalid.2.2 hhash⟩
  · intro k t ht
    obtain ⟨u, hu, hfills⟩ := hm.placed_of_state ht
    rw [hfills.path]
    exact hm.lookup_display hu
  · intro k t j ht hk _ hshown
    exact (hm.repeatsRootId_of_shownAt ht hk hshown).2

/-! ## A lamp in a lamp -/

end Machine

/-- The first state of the lamp has the id of the lamp, and a state that is there twice. -/
def Definition.lamp : Definition where
  id := "lamp"
  context := none
  root := .mk (some "lamp") [
    ("lamp", .mk (some "on") [("on", .atomic)] .empty),
    ("on", .atomic)]
    .empty

/-- The machine of the lamp. -/
def Machine.lamp : Machine := (ofDefinition .lamp).toOption.getD ⟨.lamp, #[], .empty⟩

theorem Machine.ofDefinition_lamp : ofDefinition .lamp = .ok .lamp := by rfl

/-- The inner light of the lamp is not found from below the root: the text is the full path of the
outer one. -/
theorem Machine.looksUp_lamp :
    ofDefinition .lamp = .ok .lamp ∧ lamp.lookup "lamp.on" = some 3 ∧
      lamp.lookup "lamp.lamp.on" = some 2 ∧ lamp.lookup "lamp..on" = none ∧
      lamp.lookup "##lamp" = none ∧ lamp.RepeatsRootId := by
  have hlooksUp := looksUp_of_ofDefinition ofDefinition_lamp
  have hinner : ∃ t, lamp.state? 2 = some t ∧ t.path.display = "lamp.lamp.on" ∧
      t.path.relative = "lamp.on" := ⟨_, rfl, rfl, rfl⟩
  have houter : lamp.ShownAt "lamp.on" 3 := ⟨_, rfl, rfl⟩
  obtain ⟨t, ht, hfull, hrelative⟩ := hinner
  refine ⟨ofDefinition_lamp, (hlooksUp.lookup_iff _ _).mpr (.inl houter), ?_, ?_, ?_, ?_⟩
  · rw [← hfull]
    exact (hlooksUp.full 2 t ht).1
  · exact hlooksUp.gap _ ⟨"lamp.".toList, ".on".toList, rfl, .inr rfl, .inr rfl⟩
  · exact hlooksUp.marked _ ⟨"#lamp", by decide, rfl⟩
  · exact hlooksUp.clash 2 t 3 ht (by decide) (by decide) (by rwa [hrelative])

end Statechart
