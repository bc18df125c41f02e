import Statechart.Proofs.Interpreter.ActivePath
import Statechart.Proofs.Machine.Lookup
/-!
Lying within a position. Three ways to say where an interpreter is go together: the segments of its
path, the texts under which the active states are shown, and looking a text up. Main statement: the
question whether a snapshot lies within a position always has an answer, which is whether the segments
asked for lead in from the root or from just below it; over a machine these are the positions of the
active states.
-/

namespace Statechart

namespace StatePath

variable {p q : StatePath} {position : String}

/-! ## Segments that lead in -/

/-- The segments of a position lead into a path, from its root or from just below it. -/
def LeadsInto (q p : StatePath) : Prop :=
  q.segments <+: p.segments ∨ q.segments <+: p.segments.tail

theorem segments_ne_nil_of_parse? (h : parse? position = some q) : q.segments ≠ [] := by
  rw [(parse?_eq_some_iff.mp h).2]
  exact splitDots_ne_nil _

/-- A path and the segments that lead into it from the root have the same first segment. -/
theorem root_eq_of_isPrefix (hne : q.segments ≠ []) (h : q.segments <+: p.segments) :
    q.root = p.root := by
  obtain ⟨behind, hbehind⟩ := h
  have hhead : p.segments.head? = q.segments.head? := by
    rw [← hbehind, List.head?_append_of_ne_nil _ hne]
  rw [root, root, hhead]

/-- Below the root there is room only for what is shorter than the whole path. -/
theorem depth_lt_of_prefix_tail (hne : q.segments ≠ []) (h : q.segments <+: p.segments.tail) :
    q.depth < p.depth := by
  have hlength : q.segments.length ≤ p.segments.tail.length := h.length_le
  have hpos : 0 < q.segments.length := List.length_pos_iff.mpr hne
  rw [List.length_tail] at hlength
  simp only [depth]
  omega

/-- The segments asked for below the root are there: the two guards see to it. -/
theorem within?_of_parse? (h : parse? position = some q) :
    ∃ b, p.within? position = some b ∧ (b = true ↔ q.LeadsInto p) := by
  have hne := segments_ne_nil_of_parse? h
  unfold within?
  rw [h]
  by_cases hfull : q.segments <+: p.segments
  · have hguard : q.root = p.root ∧ p.startsWith q = true :=
      ⟨root_eq_of_isPrefix hne hfull, startsWith_iff.mpr hfull⟩
    exact ⟨true, by simp only [if_pos hguard], by simp [LeadsInto, hfull]⟩
  · have hguard : ¬ (q.root = p.root ∧ p.startsWith q = true) :=
      fun hguard => hfull (startsWith_iff.mp hguard.2)
    have hleads : q.LeadsInto p ↔ q.segments <+: p.segments.tail := by
      simp [LeadsInto, hfull]
    simp only [if_neg hguard]
    by_cases hdepth : q.depth < p.depth
    · -- the path is not empty, so that its first segment can be passed over
      have hslice : p.from? 1 = some p.segments.tail := by
        rw [from?, if_pos (by omega), List.drop_one]
      refine ⟨q.segments.isPrefixOf p.segments.tail, ?_, ?_⟩
      · rw [if_pos hdepth, hslice, Option.map_some]
      · rw [hleads, List.isPrefixOf_iff_prefix]
    · refine ⟨false, by rw [if_neg hdepth], ?_⟩
      rw [hleads]
      exact ⟨fun hfalse => absurd hfalse Bool.false_ne_true,
        fun htail => absurd (depth_lt_of_prefix_tail hne htail) hdepth⟩

/-- The question whether a path lies within a position always has an answer. -/
theorem exists_within? (p : StatePath) (position : String) :
    ∃ b, p.within? position = some b ∧
      (b = true ↔ ∃ q, parse? position = some q ∧ q.LeadsInto p) := by
  cases hparse : parse? position with
  | none => exact ⟨false, by rw [within?, hparse], by simp⟩
  | some q =>
    obtain ⟨b, hb, hleads⟩ := within?_of_parse? (p := p) hparse
    exact ⟨b, hb, by simp [hleads]⟩

end StatePath

/-! ## The states above a state -/

/-- The front of a chain leads to a node as well. -/
theorem Definition.Reaches.of_isPrefix {d : Definition} {ids front : List String} {n : Node}
    (h : d.Reaches ids n) (hfront : front <+: ids) (hne : front ≠ []) :
    ∃ n', d.Reaches front n' := by
  obtain ⟨behind, rfl⟩ := hfront
  -- the chain is made shorter at its end, one id after the other
  induction behind using List.reverseRecOn generalizing n with
  | nil =>
    rw [List.append_nil] at h
    exact ⟨n, h⟩
  | append_singleton behind id ih =>
    rw [← List.append_assoc] at h
    have hlonger : front ++ behind ≠ [] := List.append_ne_nil_of_left_ne_nil hne behind
    obtain ⟨n', hn', -⟩ := h.of_snoc hlonger
    exact ih hn'

namespace Machine.Realizes

variable {m : Machine} {d : Definition} {l : Nat} {u : Slot} {k : Nat} {text : String}

/-- The states on the line of a state are those whose paths lead into its path. -/
theorem mem_lineage_iff (h : m.Realizes d) (hu : d.Placed l u) :
    k ∈ m.lineage l ↔ ∃ t, d.Placed k t ∧ t.path.segments <+: u.path.segments := by
  induction hu with
  | root =>
    constructor
    · intro hk
      rw [List.mem_singleton.mp hk]
      exact ⟨_, .root, List.prefix_rfl⟩
    · rintro ⟨t, ht, hfront⟩
      -- a path has an id at least, and the root has no other
      have hpath : t.path.segments = [d.id] := by
        rcases List.prefix_concat_iff.mp (show t.path.segments <+: [] ++ [d.id] from hfront) with
          hall | hnone
        · exact hall
        · exact absurd (List.prefix_nil.mp hnone) ht.reaches.1.ne_nil
      exact List.mem_singleton.mpr (ht.position_unique h.shaped .root (StatePath.ext hpath))
  | child hparent hstates ih =>
    have hchild := Definition.Placed.child hparent hstates
    rw [h.lineage_eq_concat hchild rfl, List.mem_append, List.mem_singleton, ih]
    show _ ↔ ∃ t, d.Placed k t ∧ t.path.segments <+: _ ++ [_]
    simp only [List.prefix_concat_iff]
    constructor
    · rintro (⟨t, ht, hfront⟩ | rfl)
      · exact ⟨t, ht, .inr hfront⟩
      · exact ⟨_, hchild, .inl rfl⟩
    · rintro ⟨t, ht, hall | hfront⟩
      · exact .inr (ht.position_unique h.shaped hchild (StatePath.ext hall))
      · exact .inl ⟨t, ht, hfront⟩

/-- A state on the line is shown by a text if and only if the pieces of the text lead in from the
root. -/
theorem exists_shownAt_iff (h : m.Realizes d) (hu : d.Placed l u) :
    (∃ k ∈ m.lineage l, m.ShownAt text k) ↔ splitDots text <+: u.path.segments := by
  constructor
  · rintro ⟨k, hk, x, hx, hdisplay⟩
    obtain ⟨t, ht, hfront⟩ := (h.mem_lineage_iff hu).mp hk
    obtain ⟨v, hv, hfills⟩ := h.placed_of_state hx
    rw [hfills.path, hv.unique ht, ht.display_eq_iff h.shaped] at hdisplay
    rwa [← hdisplay]
  · intro hfront
    obtain ⟨n, hn⟩ := hu.reaches.1.of_isPrefix hfront (splitDots_ne_nil text)
    obtain ⟨k, t, ht, hpath, -⟩ := hn.placed
    obtain ⟨x, hx, hfills⟩ := h.state_of_placed ht
    have hsegments : t.path.segments = splitDots text := by rw [hpath]
    refine ⟨k, (h.mem_lineage_iff hu).mpr ⟨t, ht, hsegments ▸ hfront⟩, x, hx, ?_⟩
    rw [hfills.path, ht.display_eq_iff h.shaped, hsegments]

/-- The same from just below the root: the id of the root stands in front of the text. -/
theorem exists_shownAt_below_iff (h : m.Realizes d) (hu : d.Placed l u) :
    (∃ k ∈ m.lineage l, m.ShownAt (m.id ++ "." ++ text) k) ↔
      splitDots text <+: u.path.segments.tail := by
  obtain ⟨rest, hsegments, -⟩ := hu.reaches.1
  rw [h.exists_shownAt_iff hu, h.id_eq, splitDots_append_dot h.shaped.id.2.1, hsegments,
    List.tail_cons, List.cons_prefix_cons]
  simp

/-- What leads into the path of a state can be read: its pieces are ids. -/
theorem exists_leadsInto_iff (h : m.Realizes d) (hu : d.Placed l u) {position : String} :
    (∃ q, StatePath.parse? position = some q ∧ q.LeadsInto u.path) ↔
      splitDots (stripHash position) <+: u.path.segments ∨
        splitDots (stripHash position) <+: u.path.segments.tail := by
  constructor
  · rintro ⟨q, hq, hleads⟩
    rwa [StatePath.LeadsInto, (StatePath.parse?_eq_some_iff.mp hq).2] at hleads
  · intro hleads
    have hpieces : "" ∉ splitDots (stripHash position) := by
      intro hmem
      have hid : "" ∈ u.path.segments := by
        rcases hleads with hfull | hbelow
        · exact hfull.subset hmem
        · exact List.mem_of_mem_tail (hbelow.subset hmem)
      exact (h.shaped.validId hu.reaches.1 "" hid).1 rfl
    exact ⟨⟨_⟩, StatePath.parse?_eq_some_iff.mpr ⟨hpieces, rfl⟩, hleads⟩

/-- The texts under which the state at a position is shown: its full path, and below the root the path
from there. -/
theorem shownAt_or_below_iff (h : m.Realizes d) :
    m.ShownAt text k ∨ m.ShownAt (m.id ++ "." ++ text) k ↔
      ∃ t, m.state? k = some t ∧
        (t.path.display = text ∨ k ≠ root ∧ t.path.relative = text) := by
  rw [h.shownAt_below_iff]
  constructor
  · rintro (⟨t, ht, hfull⟩ | ⟨hk, t, ht, hrelative⟩)
    · exact ⟨t, ht, .inl hfull⟩
    · exact ⟨t, ht, .inr ⟨hk, hrelative⟩⟩
  · rintro ⟨t, ht, hfull | ⟨hk, hrelative⟩⟩
    · exact .inl ⟨t, ht, hfull⟩
    · exact .inr ⟨hk, t, ht, hrelative⟩

/-- Unless a child of the root has its id, a text that is shown below the root is looked up there. -/
theorem means_iff_of_not_repeatsRootId (h : m.Realizes d) (hroot : ¬ m.RepeatsRootId) {s : String} :
    m.Means s k ↔ m.ShownAt (stripHash s) k ∨ m.ShownAt (m.id ++ "." ++ stripHash s) k := by
  have hfull : m.ShownAt (m.id ++ "." ++ stripHash s) k → ∀ j, ¬ m.ShownAt (stripHash s) j := by
    intro hbelow j hshown
    obtain ⟨hk, t, ht, hrelative⟩ := h.shownAt_below_iff.mp hbelow
    rw [← hrelative] at hshown
    exact hroot (h.repeatsRootId_of_shownAt ht hk hshown).2
  rw [Means, and_iff_right_of_imp hfull]

end Machine.Realizes

/-! ## Snapshots -/

namespace Snapshot

variable {C : Type}

theorem matchesPath_iff (s : Snapshot C) (position : String) :
    s.path.within? position = some (s.matchesPath position) ∧
      (s.matchesPath position = true ↔
        ∃ q, StatePath.parse? position = some q ∧ q.LeadsInto s.path) := by
  obtain ⟨b, hb, hleads⟩ := s.path.exists_within? position
  have hmatches : s.matchesPath position = b := by rw [matchesPath, hb, Option.getD_some]
  rw [hmatches]
  exact ⟨hb, hleads⟩

/-- At rest a snapshot lies within the positions of the active states. -/
theorem matchesPath_of_restsAt {m : Machine} {d : Definition} (h : m.Realizes d) {a : ActivePath}
    {ids : List String} (ha : m.RestsAt d a ids) (context : C) (position : String) :
    (⟨m.pathOf a, context⟩ : Snapshot C).matchesPath position = true ↔
      ∃ k ∈ a.nodes, m.ShownAt (stripHash position) k ∨
        m.ShownAt (m.id ++ "." ++ stripHash position) k := by
  rw [(matchesPath_iff _ _).2, h.pathOf_of_restsAt ha]
  obtain ⟨l, u, hu, -, rfl, rfl⟩ := ha
  rw [h.exists_leadsInto_iff hu, ← h.exists_shownAt_iff hu, ← h.exists_shownAt_below_iff hu]
  simp only [and_or_left, exists_or]

/-- Whether a snapshot lies within a position is always answered, whatever its path, and by the
segments alone. Wherever a run has come, it lies within the positions of its active states, each of
them given by the full path or, below the root, by the path from there. Unless a child of the root has
the id of the root, these are the texts under which an active state is looked up. -/
theorem matchesPath_inside :
    (∀ {C : Type} (s : Snapshot C) (position : String),
      s.path.within? position = some (s.matchesPath position) ∧
        (s.matchesPath position = true ↔
          ∃ q, StatePath.parse? position = some q ∧
            (q.segments <+: s.path.segments ∨ q.segments <+: s.path.segments.tail))) ∧
      ∀ {m : Machine} {d : Definition}, Machine.ofDefinition d = .ok m →
        ∀ {C : Type} (context : C) (ops : List (Operation C)) (position : String),
          let i := (Interpreter.new m context).performAll ops
          (i.snapshot.matchesPath position = true ↔
            ∃ k ∈ i.active.nodes, ∃ t, m.state? k = some t ∧
              (t.path.display = stripHash position ∨
                k ≠ Machine.root ∧ t.path.relative = stripHash position)) ∧
            (¬ m.RepeatsRootId →
              (i.snapshot.matchesPath position = true ↔
                ∃ k ∈ i.active.nodes, m.lookup position = some k)) := by
  refine ⟨fun s position => s.matchesPath_iff position, ?_⟩
  intro m d h C context ops position i
  have hm := Machine.realizes_of_ofDefinition h
  have hrests : i.Rests m d := Interpreter.rests_performAll hm context ops
  obtain ⟨ids, ha⟩ := hrests.active
  have hmatches : i.snapshot.matchesPath position = true ↔
      ∃ k ∈ i.active.nodes, m.ShownAt (stripHash position) k ∨
        m.ShownAt (m.id ++ "." ++ stripHash position) k := by
    rw [Interpreter.snapshot, hrests.machine]
    exact matchesPath_of_restsAt hm ha i.context position
  constructor
  · simp only [hmatches, hm.shownAt_or_below_iff]
  · intro hroot
    simp only [hmatches, hm.lookup_iff_means, hm.means_iff_of_not_repeatsRootId hroot]

/-- An order that is being processed lies within the state in which orders are active, and not within
the one in which they are closed. -/
theorem matchesPath_inside_order :
    let i := (Interpreter.new Machine.order ()).performAll [.start none, .send { type := "PAY" }]
    Machine.ofDefinition .order = .ok .order ∧ ¬ Machine.order.RepeatsRootId ∧
      i.snapshot.path.within? "order.active" = some true ∧
      i.snapshot.matchesPath "active.processing" = true ∧
      i.snapshot.matchesPath "#active" = true ∧ ¬ i.snapshot.matchesPath "closed" = true := by
  intro i
  obtain ⟨hsegments, hmachine⟩ := matchesPath_inside
  have hpath : i.snapshot.path = ⟨["order", "active", "processing"]⟩ := by rfl
  have hnodes : i.active.nodes = [0, 2, 3] := by rfl
  have hroot : ¬ Machine.order.RepeatsRootId := by
    have hids : ∀ u ∈ Machine.order.states, u.parent = some Machine.root → u.id ≠ "order" := by
      decide
    rintro ⟨c, u, hu, hparent, hid⟩
    exact hids u (Array.mem_of_getElem? hu) hparent hid
  -- the three forms of the answer: by segments, by the texts of the states, by looking them up
  have hfull : i.snapshot.matchesPath "order.active" = true := by
    apply (hsegments i.snapshot "order.active").2.mpr
    exact ⟨⟨["order", "active"]⟩, by decide, .inl (by rw [hpath]; exact ⟨["processing"], rfl⟩)⟩
  have hprocessing : i.snapshot.matchesPath "active.processing" = true := by
    apply (hmachine Machine.ofDefinition_order () _ "active.processing").1.mpr
    exact ⟨3, by simp [i, hnodes], _, rfl, .inr ⟨by decide, rfl⟩⟩
  have hactive : i.snapshot.matchesPath "#active" = true := by
    apply ((hmachine Machine.ofDefinition_order () _ "#active").2 hroot).mpr
    exact ⟨2, by simp [i, hnodes], rfl⟩
  refine ⟨Machine.ofDefinition_order, hroot, ?_, hprocessing, hactive, ?_⟩
  · rw [(hsegments i.snapshot "order.active").1, hfull]
  · intro hclosed
    obtain ⟨k, hk, hlookup⟩ :=
      ((hmachine Machine.ofDefinition_order () _ "closed").2 hroot).mp hclosed
    have hfound : Machine.order.lookup "closed" = some 5 := by rfl
    rw [hfound, Option.some.injEq] at hlookup
    rw [hnodes, ← hlookup] at hk
    simp at hk

end Snapshot

end Statechart
