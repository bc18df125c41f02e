import Statechart.Proofs.Machine.Built
/-!
Which definitions are accepted. The rules are stated on the tree of nodes alone: what the ids are,
how siblings and initial children go together, and what a target may say. Main statement: a machine
is built from a definition if and only if the definition follows the rules.
-/

namespace Statechart

/-- A target that is a full path: it starts with `#` or contains a dot. -/
def AbsoluteText (s : String) : Prop := s.toList.head? = some '#' ∨ '.' ∈ s.toList

namespace Definition

/-- A target denotes a state: a bare one is among some ids, an absolute one is, without one leading
`#`, the dotted text of a chain of ids from the root. -/
def Denotes (d : Definition) (ids : List String) (target : String) : Prop :=
  target ≠ "" ∧
    (¬AbsoluteText target ∧ target ∈ ids ∨
      AbsoluteText target ∧ ∃ chain n, d.Reaches chain n ∧ stripHash target = ".".intercalate chain)

/-- The rules for a definition. -/
structure WellFormed (d : Definition) : Prop where
  /-- Ids are not empty, contain no dot and do not start with `#`. -/
  ids : ∀ chain n, d.Reaches chain n → ∀ id ∈ chain, ValidId id
  /-- Siblings have different ids. -/
  distinct : ∀ chain n, d.Reaches chain n → (n.states.map Prod.fst).Nodup
  /-- A node has an initial child exactly when it has children. -/
  initial_iff : ∀ chain n, d.Reaches chain n → (n.initial.isSome ↔ n.states ≠ [])
  /-- The initial child is one of the children. -/
  initial_mem : ∀ chain n, d.Reaches chain n → ∀ id, n.initial = some id →
    id ∈ n.states.map Prod.fst
  /-- A bare target of the root is the id of the root or of one of its children. -/
  root_targets : ∀ event target, d.root.on.get? event = some target →
    d.Denotes (d.id :: d.root.states.map Prod.fst) target
  /-- A bare target of any other node is the id of a child of its parent. -/
  child_targets : ∀ chain parent id n, d.Reaches chain parent → (id, n) ∈ parent.states →
    ∀ event target, n.on.get? event = some target →
      d.Denotes (parent.states.map Prod.fst) target

variable {d : Definition}

theorem shaped_iff : d.Shaped ↔
    (∀ chain n, d.Reaches chain n → ∀ id ∈ chain, ValidId id) ∧
      ∀ chain n, d.Reaches chain n → (n.states.map Prod.fst).Nodup ∧
        (n.initial.isSome ↔ n.states ≠ []) ∧
        ∀ id, n.initial = some id → id ∈ n.states.map Prod.fst := by
  constructor
  · intro hd
    refine ⟨fun chain n hn => hd.validId hn, ?_⟩
    intro chain n hn
    have hsound := hd.sound hn
    exact ⟨hsound.distinct, hsound.initial_iff, hsound.initial_mem⟩
  · intro hparts
    obtain ⟨hids, hnodes⟩ := hparts
    refine ⟨hids _ _ d.reaches_root d.id (List.mem_singleton_self _), ?_⟩
    intro rest n hrest
    have hn : d.Reaches (d.id :: rest) n := ⟨rest, rfl, hrest⟩
    obtain ⟨hdistinct, hinitial, hmem⟩ := hnodes _ _ hn
    refine ⟨?_, hdistinct, hinitial, hmem⟩
    -- the id of a child is the last one of a longer chain
    intro id hid
    obtain ⟨⟨id', c⟩, hc, rfl⟩ := List.mem_map.mp hid
    exact hids _ c (hn.snoc hc) id' (List.mem_append_right _ (List.mem_singleton_self _))

/-! ## Denoting a state -/

theorem exists_chain_iff (hd : d.Shaped) {text : String} :
    (∃ chain n, d.Reaches chain n ∧ text = ".".intercalate chain) ↔
      ∃ n, d.Reaches (splitDots text) n := by
  constructor
  · intro hexists
    obtain ⟨chain, n, hn, rfl⟩ := hexists
    rw [splitDots_intercalate (fun id hid => (hd.validId hn id hid).2.1) hn.ne_nil]
    exact ⟨n, hn⟩
  · intro hexists
    obtain ⟨n, hn⟩ := hexists
    exact ⟨_, n, hn, (intercalate_splitDots text).symm⟩

theorem denotes_of_absolute (hd : d.Shaped) {ids chain : List String} {target : String}
    (h : Target.isAbsolute target = true) :
    d.Denotes ids target ↔ ∃ n, d.Reaches (d.targetOf chain target) n := by
  have habs : AbsoluteText target := Target.isAbsolute_iff.mp h
  have hne : target ≠ "" := by
    intro heq
    subst heq
    cases h
  rw [targetOf_of_absolute h, ← exists_chain_iff hd, Denotes]
  simp [hne, habs]

theorem denotes_of_bare {ids : List String} {target : String}
    (h : Target.isAbsolute target = false) : d.Denotes ids target ↔ target ≠ "" ∧ target ∈ ids := by
  have hbare : ¬AbsoluteText target := by
    intro habs
    rw [Target.isAbsolute_iff.mpr habs] at h
    cases h
  rw [Denotes]
  simp [hbare]

/-- A bare id leads on from a node if and only if it is the id of one of its children. -/
theorem exists_reaches_concat_iff (hd : d.Shaped) {chain : List String} {n : Node} {id : String}
    (hn : d.Reaches chain n) :
    (∃ c, d.Reaches (chain ++ [id]) c) ↔ id ≠ "" ∧ id ∈ n.states.map Prod.fst := by
  constructor
  · intro hexists
    obtain ⟨c, hc⟩ := hexists
    obtain ⟨n', hn', hmem⟩ := hc.of_snoc hn.ne_nil
    rw [hn'.unique hd hn] at hmem
    have hid : id ∈ n.states.map Prod.fst := List.mem_map.mpr ⟨(id, c), hmem, rfl⟩
    exact ⟨((hd.sound hn).ids id hid).1, hid⟩
  · intro hparts
    obtain ⟨-, hmem⟩ := hparts
    obtain ⟨⟨id', c⟩, hc, rfl⟩ := List.mem_map.mp hmem
    exact ⟨c, hn.snoc hc⟩

/-- At the root a target denotes a state if and only if it names a node. -/
theorem denotes_root_iff (hd : d.Shaped) {target : String} :
    d.Denotes (d.id :: d.root.states.map Prod.fst) target ↔
      ∃ n, d.Reaches (d.targetOf [d.id] target) n := by
  cases h : Target.isAbsolute target with
  | true => exact denotes_of_absolute hd h
  | false =>
    rw [denotes_of_bare h, targetOf_root_of_bare h, List.mem_cons]
    -- the id of the root wins over a child with the same id
    by_cases heq : target = d.id
    · rw [if_pos heq, heq]
      simp only [true_or, and_true]
      exact ⟨fun _ => ⟨d.root, d.reaches_root⟩, fun _ => hd.id.1⟩
    · rw [if_neg heq]
      have hchild : (∃ c, d.Reaches [d.id, target] c) ↔
          target ≠ "" ∧ target ∈ d.root.states.map Prod.fst :=
        exists_reaches_concat_iff hd d.reaches_root
      simp only [heq, false_or]
      exact hchild.symm

/-- Below the root a target denotes a state if and only if it names a node. -/
theorem denotes_child_iff (hd : d.Shaped) {chain : List String} {parent : Node} {id : String}
    {target : String} (hparent : d.Reaches chain parent) :
    d.Denotes (parent.states.map Prod.fst) target ↔
      ∃ n, d.Reaches (d.targetOf (chain ++ [id]) target) n := by
  cases h : Target.isAbsolute target with
  | true => exact denotes_of_absolute hd h
  | false =>
    rw [denotes_of_bare h, targetOf_child_of_bare h hparent.ne_nil]
    exact (exists_reaches_concat_iff hd hparent).symm

/-! ## Acceptance -/

/-- In a well-shaped definition all targets name nodes if and only if all of them denote states. -/
theorem targets_iff (hd : d.Shaped) :
    (∀ chain n, d.Reaches chain n → ∀ event target, n.on.get? event = some target →
        ∃ n', d.Reaches (d.targetOf chain target) n') ↔
      (∀ event target, d.root.on.get? event = some target →
          d.Denotes (d.id :: d.root.states.map Prod.fst) target) ∧
        ∀ chain parent id n, d.Reaches chain parent → (id, n) ∈ parent.states →
          ∀ event target, n.on.get? event = some target →
            d.Denotes (parent.states.map Prod.fst) target := by
  constructor
  · intro h
    constructor
    · intro event target htarget
      exact (denotes_root_iff hd).mpr (h _ _ d.reaches_root event target htarget)
    · intro chain parent id n hparent hmem event target htarget
      exact (denotes_child_iff hd hparent).mpr (h _ _ (hparent.snoc hmem) event target htarget)
  · intro hparts chain n hn event target htarget
    obtain ⟨hroot, hchild⟩ := hparts
    -- a chain of one id is the root, and a longer one ends at a child of the node before
    induction chain using List.reverseRecOn with
    | nil => exact absurd rfl hn.ne_nil
    | append_singleton chain id _ =>
      by_cases hne : chain = []
      · subst hne
        obtain ⟨rfl, rfl⟩ := hn.eq_root
        exact (denotes_root_iff hd).mp (hroot event target htarget)
      · obtain ⟨parent, hparent, hmem⟩ := hn.of_snoc hne
        exact (denotes_child_iff hd hparent).mp
          (hchild chain parent id n hparent hmem event target htarget)

/-- A machine is built from a definition if and only if the definition is well-formed. -/
theorem exists_machine_iff_wellFormed (d : Definition) :
    (∃ m, Machine.ofDefinition d = .ok m) ↔ d.WellFormed := by
  rw [Machine.ofDefinition_ok_iff]
  constructor
  · intro hparts
    obtain ⟨hd, htargets⟩ := hparts
    obtain ⟨hids, hnodes⟩ := shaped_iff.mp hd
    obtain ⟨hroot, hchild⟩ := (targets_iff hd).mp htargets
    exact ⟨hids, fun chain n hn => (hnodes chain n hn).1, fun chain n hn => (hnodes chain n hn).2.1,
      fun chain n hn => (hnodes chain n hn).2.2, hroot, hchild⟩
  · intro h
    have hd : d.Shaped := shaped_iff.mpr ⟨h.ids, fun chain n hn =>
      ⟨h.distinct chain n hn, h.initial_iff chain n hn, h.initial_mem chain n hn⟩⟩
    exact ⟨hd, (targets_iff hd).mpr ⟨h.root_targets, h.child_targets⟩⟩

end Definition

end Statechart
