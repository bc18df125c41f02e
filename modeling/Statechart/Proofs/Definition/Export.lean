import Statechart.Proofs.Definition.Reading
import Statechart.Proofs.Machine.Built
/-!
Exported definitions. What a definition writes is read back as the same definition, but for a declared
context that is null: it is read as no context. Main statement: the machine of an exported definition
has the states and the index of the machine it was exported from, and the same definition.
-/

namespace Statechart

open Json (Document Value)
open Json.Document (ofValue ofMembers ofMembers_eq_fields)

namespace Node

/-! ## Nodes -/

theorem readOn?_onMembers (on : Table String) :
    readOn? (ofValue (.object (onMembers on))) = some on := by
  have htargets : readTargets? (ofMembers (onMembers on)) = some on.entries := by
    rw [readTargets?_eq_some_iff, ofMembers_eq_fields, onMembers, List.map_map]
    rfl
  rw [ofValue, readOn?, htargets, Option.map_some, Table.ofList_entries]

/-- The fields that a node writes: those that are there. -/
def writtenFields (n : Node) : Fields where
  initial := n.initial.map some
  states := if n.states.isEmpty then none else some n.states
  on := if n.on.isEmpty then none else some n.on

/-- What is absent or empty is what a field is that was not written. -/
theorem ofFields_writtenFields (n : Node) : ofFields n.writtenFields = n := by
  have hinitial : (n.initial.map some).getD none = n.initial := by cases n.initial <;> rfl
  have hstates : (if n.states.isEmpty then none else some n.states).getD [] = n.states := by
    split <;> simp_all
  have hon : (if n.on.isEmpty then none else some n.on).getD Table.empty = n.on := by
    split
    · next hempty => exact (Table.ext (List.isEmpty_iff.mp hempty)).symm
    · rfl
  rw [ofFields, writtenFields, hinitial, hstates, hon]
  cases n
  rfl

theorem readFields?_members {n : Node}
    (h : readStates? (ofValue (.object (stateMembers n.states))) = some n.states) :
    readFields? (ofMembers n.members) = some n.writtenFields := by
  obtain ⟨initial, states, on⟩ := n
  have hon := readOn?_onMembers on
  have hinitial : ∀ id, (ofValue (.string id)).optionalText? = some (some id) := fun _ => rfl
  rw [states_mk] at h
  cases initial <;> cases states <;> by_cases hempty : on.isEmpty <;>
    simp [members, ofMembers, readFields?, field?, writtenFields, h, hon, hempty, hinitial]

mutual

/-- A node is read back from what it writes. -/
theorem read?_members : ∀ n : Node, read? (ofValue (.object n.members)) = some n
  | mk initial states on => by
    have hstates : readStates? (ofValue (.object (stateMembers states))) = some states :=
      readEntries?_stateMembers states
    rw [ofValue, read?, readFields?_members (n := mk initial states on) hstates, Option.map_some,
      ofFields_writtenFields]

theorem readEntries?_stateMembers : ∀ states : List (String × Node),
    readEntries? (ofMembers (stateMembers states)) = some states
  | [] => rfl
  | (id, n) :: rest => by
    rw [stateMembers, ofMembers, readEntries?, read?_members n, readEntries?_stateMembers rest]
    rfl

end

/-! ## No name is repeated -/

theorem map_fst_members_sublist (n : Node) :
    (n.members.map Prod.fst).Sublist ["initial", "states", "on"] := by
  obtain ⟨initial, states, on⟩ := n
  cases initial <;> cases states <;> by_cases hempty : on.isEmpty <;> simp [members, hempty]

theorem mem_members {n : Node} {m : String × Value} (h : m ∈ n.members) :
    (∃ id, m = ("initial", .string id)) ∨ m = ("states", .object (stateMembers n.states)) ∨
      m = ("on", .object (onMembers n.on)) := by
  obtain ⟨initial, states, on⟩ := n
  cases initial <;> cases states <;> by_cases hempty : on.isEmpty <;>
    simp [members, hempty] at h ⊢ <;> grind

theorem map_fst_stateMembers (states : List (String × Node)) :
    (stateMembers states).map Prod.fst = states.map Prod.fst := by
  induction states with
  | nil => rfl
  | cons s rest ih => rw [stateMembers, List.map_cons, List.map_cons, ih]

theorem distinct_onMembers (on : Table String) : (Value.object (onMembers on)).Distinct := by
  rw [Value.Distinct, Value.distinctMembers_iff]
  constructor
  · have hnames : (onMembers on).map Prod.fst = on.entries.map Prod.fst := by
      rw [onMembers, List.map_map]
      rfl
    rw [hnames]
    exact on.nodup_keys
  · intro m hm
    obtain ⟨e, -, rfl⟩ := List.mem_map.mp hm
    exact trivial

mutual

/-- What a well-shaped node writes repeats no name, since no two of its children have the same id. -/
theorem distinct_members : ∀ {n : Node}, n.Shaped → (Value.object n.members).Distinct
  | mk initial states on, h => by
    obtain ⟨hsound, hchildren⟩ := shaped_iff.mp h
    have hstates : (Value.object (stateMembers states)).Distinct :=
      ⟨map_fst_stateMembers states ▸ hsound.distinct, distinctMembers_stateMembers hchildren⟩
    refine ⟨(map_fst_members_sublist _).nodup (by simp), ?_⟩
    rw [Value.distinctMembers_iff]
    intro m hm
    rcases mem_members hm with ⟨id, rfl⟩ | rfl | rfl
    · exact trivial
    · exact hstates
    · exact distinct_onMembers on

theorem distinctMembers_stateMembers : ∀ {states : List (String × Node)},
    (∀ s ∈ states, s.2.Shaped) → Value.DistinctMembers (stateMembers states)
  | [], _ => trivial
  | _ :: _, h =>
    ⟨distinct_members (h _ List.mem_cons_self),
      distinctMembers_stateMembers fun s hs => h s (List.mem_cons_of_mem _ hs)⟩

end

end Node

namespace Definition

/-! ## Definitions -/

variable {d : Definition}

theorem readHeader?_of_forall {ms : List (String × Document)} (h : ∀ m ∈ ms, m.1 ∉ ownNames) :
    readHeader? (Json.fields ms) = some { rest := Json.fields ms } := by
  induction ms with
  | nil => rfl
  | cons m rest ih =>
    rw [Json.fields_cons, readHeader?_other (h m List.mem_cons_self),
      ih fun m hm => h m (List.mem_cons_of_mem _ hm)]
    rfl

/-- What the root node writes leaves the header of a definition alone. -/
theorem readHeader?_members (n : Node) :
    readHeader? (ofMembers n.members) = some { rest := ofMembers n.members } := by
  rw [ofMembers_eq_fields]
  refine readHeader?_of_forall ?_
  intro m hm
  obtain ⟨m', hm', rfl⟩ := List.mem_map.mp hm
  have hname := (Node.map_fst_members_sublist n).subset (List.mem_map_of_mem hm')
  intro hown
  simp only [ownNames, List.mem_cons, List.not_mem_nil, or_false] at hname hown
  rcases hname with h | h | h <;> simp [h] at hown

/-- A definition is read back from what it writes, its context as one that is read. -/
theorem ofJson?_toJson (h : ∀ c, d.context = some c → c.Distinct) :
    ofJson? d.toJson = some { d with context := d.context.bind contextOf } := by
  obtain ⟨id, context, root⟩ := d
  have hroot : (Node.readFields? (ofMembers root.members)).map Node.ofFields = some root := by
    rw [← Node.read?_members root, ofValue, Node.read?]
  obtain ⟨f, hf, rfl⟩ := Option.map_eq_some_iff.mp hroot
  have hid : (ofValue (.string id)).text? = some id := rfl
  cases context with
  | none =>
    rw [ofJson?, toJson, members, ofValue, List.cons_append, List.nil_append, ofMembers, read?,
      readHeader?_id (.inl rfl), readHeader?_members, hid]
    simp [ofHeader?, hf]
  | some c =>
    have hcontext := readContext?_ofValue (h c rfl)
    rw [ofJson?, toJson, members, ofValue, List.cons_append, List.singleton_append, ofMembers,
      ofMembers, read?, readHeader?_id (.inl rfl), readHeader?_context, readHeader?_members, hid,
      hcontext]
    simp [ofHeader?, hf]

theorem map_fst_members_sublist (d : Definition) :
    (d.members.map Prod.fst).Sublist ["id", "context", "initial", "states", "on"] := by
  have hroot := Node.map_fst_members_sublist d.root
  rw [members, List.map_append, List.map_cons]
  refine .cons_cons "id" ?_
  cases d.context with
  | none => exact hroot.cons "context"
  | some c => exact hroot.cons_cons "context"

/-- What a well-shaped definition writes repeats no name. -/
theorem distinct_toJson (hd : d.Shaped) (h : ∀ c, d.context = some c → c.Distinct) :
    d.toJson.Distinct := by
  have hroot := Value.distinctMembers_iff.mp (Node.distinct_members hd.root).2
  rw [toJson, Value.Distinct, Value.distinctMembers_iff]
  refine ⟨d.map_fst_members_sublist.nodup (by simp), ?_⟩
  intro m hm
  rw [members, List.mem_append, List.mem_cons] at hm
  rcases hm with (rfl | hm) | hm
  · exact trivial
  · cases hc : d.context with
    | none => simp [hc] at hm
    | some c =>
      simp only [hc, List.mem_singleton] at hm
      exact hm ▸ h c hc
  · exact hroot m hm

end Definition

namespace Machine

variable {d : Definition} {m : Machine}

/-- Building does not look at the declared context. -/
theorem ofDefinition_withContext (h : ofDefinition d = .ok m) (c : Option Value) :
    ofDefinition { d with context := c } =
      .ok { m with definition := { m.definition with context := c } } := by
  have hroot : Definition.rootPath { d with context := c } = d.rootPath := rfl
  unfold ofDefinition at h ⊢
  rw [hroot]
  cases hlaid : Builder.empty.addNode d.id d.rootPath none d.root with
  | error e =>
    simp only [hlaid] at h
    cases h
  | ok laid =>
    obtain ⟨b, position⟩ := laid
    simp only [hlaid] at h ⊢
    cases hresolved : b.resolveAll b.pending with
    | error e =>
      simp only [hresolved] at h
      cases h
    | ok b' =>
      simp only [hresolved, Except.ok.injEq] at h ⊢
      rw [← h]

/-- An exported definition repeats no name, and what is built from it is the machine it was exported
from. A declared context that is null is gone, nothing else. The declared context is a value, so it
repeats no name. -/
theorem ofJson_toJson (diag : Diagnostics) (h : ofDefinition d = .ok m)
    (hcontext : ∀ c, d.context = some c → c.Distinct) :
    m.definition.toJson.Distinct ∧
      ∃ m', ofJson diag m.definition.toJson = .ok m' ∧ m'.states = m.states ∧ m'.index = m.index ∧
        (d.context ≠ some .null → m'.definition = m.definition ∧ m'.checksum = m.checksum) ∧
        (d.context = some .null → m'.definition = { m.definition with context := none }) := by
  have hm := realizes_of_ofDefinition h
  obtain rfl := hm.definition
  refine ⟨Definition.distinct_toJson hm.shaped hcontext, ?_⟩
  rw [ofJson, Definition.ofJson?_toJson hcontext, ofRead, ofDefinition_withContext h]
  refine ⟨_, rfl, rfl, rfl, ?_, ?_⟩
  · intro hnull
    have hsame : m.definition.context.bind Definition.contextOf = m.definition.context := by
      cases hc : m.definition.context with
      | none => rfl
      | some c => cases c <;> first | exact absurd hc hnull | rfl
    rw [hsame]
    exact ⟨rfl, rfl⟩
  · intro hnull
    rw [hnull]
    rfl

/-- An order whose context has a null inside keeps it; one whose context is null loses it. -/
theorem ofJson_toJson_order :
    let kept := { Definition.order with context := some (.object [("coupon", .null)]) }
    let lost := { Definition.order with context := some .null }
    ofDefinition kept = .ok { Machine.order with definition := kept } ∧
      ofDefinition lost = .ok { Machine.order with definition := lost } ∧
      (∃ m', ofJson default kept.toJson = .ok m' ∧ m'.states = order.states ∧
        m'.definition = kept) ∧
      (∃ m', ofJson default lost.toJson = .ok m' ∧ m'.states = order.states ∧
        m'.definition = .order) := by
  intro kept lost
  have hkept := ofDefinition_withContext ofDefinition_order (some (.object [("coupon", .null)]))
  have hlost := ofDefinition_withContext ofDefinition_order (some .null)
  have hdistinct : ∀ c, kept.context = some c → c.Distinct := by
    intro c hc
    cases hc
    exact ⟨by simp, trivial, trivial⟩
  obtain ⟨-, m', hm', hstates, -, hsame, -⟩ := ofJson_toJson default hkept hdistinct
  obtain ⟨-, m'', hm'', hstates'', -, -, hgone⟩ :=
    ofJson_toJson default hlost fun c hc => by cases hc; exact trivial
  exact ⟨hkept, hlost, ⟨m', hm', hstates, (hsame (by simp)).1⟩, ⟨m'', hm'', hstates'', hgone rfl⟩⟩

end Machine

end Statechart
