import Statechart.Proofs.StatePath
import Statechart.Proofs.Table
/-!
The nodes of a definition by the ids that lead to them. A chain of ids reaches a node if every id is
the id of a child of the node before it. Where siblings have different ids a chain reaches one node
at most, and it is the one that the search by ids finds.
-/

namespace Statechart

namespace Node

/-- A chain of child ids leads from a node down to another one. -/
inductive Reaches : Node → List String → Node → Prop
  | refl (n : Node) : Reaches n [] n
  | step {n c m : Node} {id : String} {ids : List String} :
    (id, c) ∈ n.states → Reaches c ids m → Reaches n (id :: ids) m

namespace Reaches

theorem trans {n m k : Node} {ids ids' : List String} (h : Reaches n ids m)
    (h' : Reaches m ids' k) : Reaches n (ids ++ ids') k := by
  induction h with
  | refl => exact h'
  | step hc _ ih => exact .step hc (ih h')

/-- A chain can be made longer at its end. -/
theorem snoc {n m c : Node} {ids : List String} {id : String} (h : Reaches n ids m)
    (hc : (id, c) ∈ m.states) : Reaches n (ids ++ [id]) c :=
  h.trans (.step hc (.refl c))

/-- The last id of a chain is the id of a child of the node before. -/
theorem of_snoc {n c : Node} {ids : List String} {id : String} (h : Reaches n (ids ++ [id]) c) :
    ∃ m, Reaches n ids m ∧ (id, c) ∈ m.states := by
  -- chains are built at their front, so the induction is on the ids before the last one
  induction ids generalizing n with
  | nil =>
    cases h with
    | step hc hrest =>
      cases hrest
      exact ⟨n, .refl n, hc⟩
  | cons id' rest ih =>
    cases h with
    | step hc hrest =>
      obtain ⟨m, hm, hlast⟩ := ih hrest
      exact ⟨m, .step hc hm, hlast⟩

end Reaches

/-! ## The rules for one node and for a tree -/

/-- The structural rules for one node: its children have valid and different ids, and it has an
initial child if and only if it has children. -/
structure Sound (n : Node) : Prop where
  ids : ∀ id ∈ n.states.map Prod.fst, ValidId id
  distinct : (n.states.map Prod.fst).Nodup
  initial_iff : n.initial.isSome ↔ n.states ≠ []
  initial_mem : ∀ id, n.initial = some id → id ∈ n.states.map Prod.fst

/-- Every node of a tree follows the structural rules. -/
def Shaped (n : Node) : Prop := ∀ ids m, n.Reaches ids m → m.Sound

theorem shaped_iff {n : Node} : n.Shaped ↔ n.Sound ∧ ∀ c ∈ n.states, c.2.Shaped := by
  constructor
  · intro h
    refine ⟨h [] n (.refl n), ?_⟩
    intro c hc ids m hm
    exact h (c.1 :: ids) m (.step hc hm)
  · intro hparts ids m hm
    obtain ⟨hn, hstates⟩ := hparts
    cases hm with
    | refl => exact hn
    | step hc hrest => exact hstates _ hc _ m hrest

theorem Shaped.sound {n : Node} (h : n.Shaped) : n.Sound := (shaped_iff.mp h).1

theorem Shaped.reached {n m : Node} {ids : List String} (h : n.Shaped) (hm : n.Reaches ids m) :
    m.Shaped :=
  fun ids' k hk => h (ids ++ ids') k (hm.trans hk)

/-- In a well-shaped tree the search by ids finds exactly the nodes that chains reach. -/
theorem descend?_eq_some_iff {n m : Node} {ids : List String} (h : n.Shaped) :
    n.descend? ids = some m ↔ n.Reaches ids m := by
  induction ids generalizing n with
  | nil =>
    rw [descend?]
    constructor
    · intro heq
      cases heq
      exact .refl _
    · intro hm
      cases hm
      rfl
  | cons id rest ih =>
    rw [descend?, child?]
    have hnd := h.sound.distinct
    constructor
    · intro heq
      obtain ⟨c, hc, hrest⟩ := Option.bind_eq_some_iff.mp heq
      have hmem := Table.mem_of_find? hc
      exact .step hmem ((ih ((shaped_iff.mp h).2 _ hmem)).mp hrest)
    · intro hm
      cases hm with
      | step hc hrest =>
        rw [Table.find?_of_mem hnd hc, Option.bind_some]
        exact (ih ((shaped_iff.mp h).2 _ hc)).mpr hrest

end Node

namespace Definition

/-- A chain of ids, root id first, leads to a node of a definition. -/
def Reaches (d : Definition) (ids : List String) (n : Node) : Prop :=
  ∃ rest, ids = d.id :: rest ∧ d.root.Reaches rest n

theorem reaches_root (d : Definition) : d.Reaches [d.id] d.root := ⟨[], rfl, .refl d.root⟩

theorem Reaches.snoc {d : Definition} {ids : List String} {id : String} {m c : Node}
    (h : d.Reaches ids m) (hc : (id, c) ∈ m.states) : d.Reaches (ids ++ [id]) c := by
  obtain ⟨rest, rfl, hrest⟩ := h
  exact ⟨rest ++ [id], rfl, hrest.snoc hc⟩

theorem Reaches.ne_nil {d : Definition} {ids : List String} {n : Node} (h : d.Reaches ids n) :
    ids ≠ [] := by
  obtain ⟨rest, rfl, -⟩ := h
  exact List.cons_ne_nil _ _

/-- The root is reached by its own id only. -/
theorem Reaches.eq_root {d : Definition} {id : String} {n : Node} (h : d.Reaches [id] n) :
    id = d.id ∧ n = d.root := by
  obtain ⟨rest, heq, hrest⟩ := h
  cases heq
  cases hrest
  exact ⟨rfl, rfl⟩

/-- A chain of more than one id ends below a node that the chain before it reaches. -/
theorem Reaches.of_snoc {d : Definition} {ids : List String} {id : String} {c : Node}
    (h : d.Reaches (ids ++ [id]) c) (hne : ids ≠ []) :
    ∃ m, d.Reaches ids m ∧ (id, c) ∈ m.states := by
  obtain ⟨first, rest, rfl⟩ := List.exists_cons_of_ne_nil hne
  obtain ⟨rest', heq, hrest⟩ := h
  rw [List.cons_append, List.cons.injEq] at heq
  obtain ⟨rfl, rfl⟩ := heq
  obtain ⟨m, hm, hc⟩ := hrest.of_snoc
  exact ⟨m, ⟨rest, rfl, hm⟩, hc⟩

/-- The structural rules for a definition. -/
structure Shaped (d : Definition) : Prop where
  id : ValidId d.id
  root : d.root.Shaped

theorem Shaped.sound {d : Definition} (h : d.Shaped) {ids : List String} {n : Node}
    (hn : d.Reaches ids n) : n.Sound := by
  obtain ⟨rest, -, hrest⟩ := hn
  exact h.root rest n hrest

/-- Every id on a chain of a well-shaped definition is valid. -/
theorem Shaped.validId {d : Definition} (h : d.Shaped) {ids : List String} {n : Node}
    (hn : d.Reaches ids n) : ∀ id ∈ ids, ValidId id := by
  -- along the chain: the root id first, then every id is checked by the node before it
  have hbelow : ∀ {n m : Node} {ids : List String}, n.Shaped → n.Reaches ids m →
      ∀ id ∈ ids, ValidId id := by
    intro n m ids hshaped hreach
    induction hreach with
    | refl => intro id hid; cases hid
    | step hc _ ih =>
      intro id hid
      rcases List.mem_cons.mp hid with rfl | hrest
      · exact hshaped.sound.ids _ (List.mem_map_of_mem hc)
      · exact ih ((Node.shaped_iff.mp hshaped).2 _ hc) id hrest
  obtain ⟨rest, rfl, hrest⟩ := hn
  intro id hid
  rcases List.mem_cons.mp hid with rfl | hid
  · exact h.id
  · exact hbelow h.root hrest id hid

theorem node?_eq_some_iff {d : Definition} (h : d.Shaped) {ids : List String} {n : Node} :
    d.node? ⟨ids⟩ = some n ↔ d.Reaches ids n := by
  cases ids with
  | nil =>
    constructor
    · intro heq
      cases heq
    · intro hn
      exact absurd rfl hn.ne_nil
  | cons id rest =>
    show (if id = d.id then d.root.descend? rest else none) = some n ↔ _
    by_cases hid : id = d.id
    · rw [if_pos hid, Node.descend?_eq_some_iff h.root]
      constructor
      · intro hrest
        exact ⟨rest, by rw [hid], hrest⟩
      · intro hexists
        obtain ⟨rest', heq, hrest⟩ := hexists
        cases heq
        exact hrest
    · rw [if_neg hid]
      constructor
      · intro heq
        cases heq
      · intro hexists
        obtain ⟨rest', heq, -⟩ := hexists
        cases heq
        exact absurd rfl hid

/-- Chains of a well-shaped definition reach one node each. -/
theorem Reaches.unique {d : Definition} (h : d.Shaped) {ids : List String} {n m : Node}
    (hn : d.Reaches ids n) (hm : d.Reaches ids m) : n = m := by
  have heq := ((node?_eq_some_iff h).mpr hn).symm.trans ((node?_eq_some_iff h).mpr hm)
  exact Option.some.inj heq

end Definition

end Statechart
