import Statechart.Proofs.Definition.Layout
import Statechart.Machine.Basic
/-!
The first pass of building a machine. Adding a node fails exactly where the structural check fails
and with the same error; otherwise it puts the layout of the node behind the states that are there.
A state is reserved as atomic and gets its kind after its children are added; what is added behind
it does not touch it.
-/

namespace Statechart

/-- The state of a slot, its transitions not there yet. -/
def Slot.state (s : Slot) : State := ⟨s.id, s.path, s.parent, s.kind, .empty⟩

/-- The transitions of a node at a position, as they wait. -/
def Node.pending (position : Nat) (n : Node) : List Pending :=
  n.on.entries.map fun e => ⟨position, e.1, e.2⟩

namespace Builder

/-- Puts the state of a slot, its kind known, behind the others. -/
def place (b : Builder) (s : Slot) : Builder where
  states := b.states.push s.state
  index := b.index.insert s.path.display b.states.size
  pending := b.pending ++ s.node.pending b.states.size

/-- Puts the states of some slots behind the others. -/
def placeAll (b : Builder) (slots : List Slot) : Builder := slots.foldl place b

@[simp]
theorem size_placeAll (b : Builder) (slots : List Slot) :
    (b.placeAll slots).states.size = b.states.size + slots.length := by
  induction slots generalizing b with
  | nil => rfl
  | cons s rest ih =>
    show ((b.place s).placeAll rest).states.size = _
    rw [ih, List.length_cons]
    show (b.states.push s.state).size + rest.length = _
    rw [Array.size_push]
    omega

theorem placeAll_append (b : Builder) (slots slots' : List Slot) :
    b.placeAll (slots ++ slots') = (b.placeAll slots).placeAll slots' :=
  List.foldl_append

/-! ## The kind that is filled in later -/

/-- The kind of a state may be set before or after another state is put behind it. -/
theorem setKind_place {b : Builder} {position : Nat} (h : position < b.states.size) (kind : Kind)
    (s : Slot) : (b.place s).setKind position kind = (b.setKind position kind).place s := by
  have hstates : (b.states.push s.state).modify position (fun t => { t with kind }) =
      (b.states.modify position fun t => { t with kind }).push s.state := by
    apply Array.ext_getElem?
    intro i
    -- the position is below the one that is filled, so the two changes do not meet
    rw [Array.getElem?_modify, Array.getElem?_push, Array.getElem?_push, Array.getElem?_modify,
      Array.size_modify]
    by_cases hi : position = i
    · rw [if_pos hi, if_pos hi, if_neg (by omega), if_neg (by omega)]
    · rw [if_neg hi, if_neg hi]
  show (⟨_, _, _⟩ : Builder) = ⟨_, _, _⟩
  simp only [hstates, place, setKind, Array.size_modify]

theorem setKind_placeAll {b : Builder} {position : Nat} (h : position < b.states.size) (kind : Kind)
    (slots : List Slot) :
    (b.placeAll slots).setKind position kind = (b.setKind position kind).placeAll slots := by
  induction slots generalizing b with
  | nil => rfl
  | cons s rest ih =>
    have hsize : (b.place s).states.size = b.states.size + 1 := Array.size_push ..
    show ((b.place s).placeAll rest).setKind position kind =
      ((b.setKind position kind).place s).placeAll rest
    rw [ih (by omega), setKind_place h]

/-- A reserved state whose kind is set is a placed one. -/
theorem setKind_reserve (b : Builder) (s : Slot) :
    (b.reserve s.id s.path s.parent s.node.on).setKind b.states.size s.kind = b.place s := by
  have hstates : (b.states.push ⟨s.id, s.path, s.parent, .atomic, .empty⟩).modify b.states.size
      (fun t => { t with kind := s.kind }) = b.states.push s.state := by
    apply Array.ext_getElem?
    intro i
    rw [Array.getElem?_modify, Array.getElem?_push, Array.getElem?_push]
    by_cases hi : b.states.size = i
    · rw [if_pos hi, if_pos hi.symm, if_pos hi.symm]
      rfl
    · rw [if_neg hi, if_neg (Ne.symm hi), if_neg (Ne.symm hi)]
  show (⟨_, _, _⟩ : Builder) = ⟨_, _, _⟩
  simp only [reserve, hstates]
  rfl

/-- Nothing has to be set for a state that stays atomic. -/
theorem reserve_eq_place (b : Builder) (s : Slot) (h : s.kind = .atomic) :
    b.reserve s.id s.path s.parent s.node.on = b.place s := by
  rw [place, Slot.state, h]
  rfl

/-! ## The loop over the children -/

theorem children_foldl_add (initial : String) (ps : List (String × Nat)) (siblings : Siblings) :
    (ps.foldl (Siblings.add initial) siblings).children = siblings.children ++ ps.map Prod.snd := by
  induction ps generalizing siblings with
  | nil => simp
  | cons p rest ih =>
    rw [List.foldl_cons, ih, Siblings.add, List.map_cons, List.append_assoc, List.singleton_append]

/-- Where siblings have different ids, the initial child is the one that a search by its id finds.
-/
theorem initial_foldl_add {ps : List (String × Nat)} (hnd : (ps.map Prod.fst).Nodup)
    (initial : String) (siblings : Siblings) :
    (ps.foldl (Siblings.add initial) siblings).initial =
      (Table.find? initial ps).or siblings.initial := by
  induction ps generalizing siblings with
  | nil => rfl
  | cons p rest ih =>
    obtain ⟨id, position⟩ := p
    rw [List.map_cons, List.nodup_cons] at hnd
    rw [List.foldl_cons, ih hnd.2, Table.find?, Siblings.add]
    by_cases hid : initial = id
    · -- no later sibling has the id again, so the position found here stays
      have hrest : Table.find? initial rest = none :=
        Table.find?_eq_none_iff.mpr (hid ▸ hnd.1)
      rw [if_pos hid, if_pos hid.symm, hrest]
      rfl
    · rw [if_neg hid, if_neg (Ne.symm hid)]

/-! ## Adding a node -/

theorem reserve_atomic (b : Builder) (id : String) (path : StatePath) (parent : Option Nat)
    (on : Table String) : b.reserve id path parent on =
      b.placeAll ((Node.mk none [] on).layout b.states.size path parent id) := by
  have hkind := Node.kindAt_of_states_nil (n := .mk none [] on) rfl (b.states.size + 1)
  exact reserve_eq_place b (Node.slot b.states.size path parent id (.mk none [] on)) hkind

/-- Closing a reserved state behind which its children are laid out gives its whole layout, unless
the declared initial id is the id of no child. -/
theorem close_reserve (b : Builder) (id : String) (path : StatePath) (parent : Option Nat)
    (initial : String) {states : List (String × Node)} (on : Table String)
    (hcheck : Node.checkStates path [] states = .ok ()) :
    ((b.reserve id path parent on).placeAll
        (Node.layoutStates (b.states.size + 1) path b.states.size states)).close b.states.size path
          initial ((Node.positions (b.states.size + 1) states).foldl (Siblings.add initial)
            ⟨[], [], none⟩) =
      if initial ∈ states.map Prod.fst then
        .ok (b.placeAll ((Node.mk (some initial) states on).layout b.states.size path parent id),
          b.states.size)
      else .error (.unknownInitial path.display initial) := by
  have hids := Node.map_fst_positions (b.states.size + 1) states
  have hnd : ((Node.positions (b.states.size + 1) states).map Prod.fst).Nodup := by
    rw [hids]
    exact ((Node.checkStates_eq_ok_iff states path []).mp hcheck).2.1
  rw [close, initial_foldl_add hnd, children_foldl_add, List.nil_append, Option.or_none, ← hids]
  cases hfind : Table.find? initial (Node.positions (b.states.size + 1) states) with
  | none => rw [if_neg (Table.find?_eq_none_iff.mp hfind)]
  | some c =>
    rw [if_pos (List.mem_map.mpr ⟨_, Table.mem_of_find? hfind, rfl⟩)]
    -- the slot of the node has the kind that closing sets
    have hkind : (Node.mk (some initial) states on).kindAt (b.states.size + 1) =
        .compound c ((Node.positions (b.states.size + 1) states).map Prod.snd) := by
      rw [Node.kindAt, Node.initial_mk, Option.bind_some, Node.states_mk, hfind]
    have hsize : b.states.size < (b.reserve id path parent on).states.size := by
      show _ < (b.states.push _).size
      rw [Array.size_push]
      omega
    have hset := setKind_reserve b
      (Node.slot b.states.size path parent id (.mk (some initial) states on))
    show Except.ok (setKind _ _ _, _) = _
    rw [setKind_placeAll hsize, ← hkind]
    exact congrArg (fun b' => Except.ok (placeAll b' _, b.states.size)) hset

mutual

/-- Adding a node fails as its check fails, and otherwise lays it out behind the other states. -/
theorem addNode_eq : ∀ (n : Node) (b : Builder) (id : String) (path : StatePath)
    (parent : Option Nat),
    b.addNode id path parent n =
      match checkId id with
      | .error e => .error e
      | .ok () =>
        match n.check path with
        | .error e => .error e
        | .ok () => .ok (b.placeAll (n.layout b.states.size path parent id), b.states.size)
  | .mk initial states on, b, id, path, parent => by
    rw [addNode]
    cases checkId id with
    | error e => rfl
    | ok _ =>
      cases states with
      | nil =>
        cases initial with
        | some i => rfl
        | none =>
          have hreserve := reserve_atomic b id path parent on
          exact congrArg (fun b' => Except.ok (b', b.states.size)) hreserve
      | cons s rest =>
        cases initial with
        | none => rfl
        | some i =>
          have hsize : (b.reserve id path parent on).states.size = b.states.size + 1 :=
            Array.size_push ..
          -- the children start right behind the reserved position
          have hstates := addStates_eq (s :: rest) (b.reserve id path parent on) path
            b.states.size i ⟨[], [], none⟩
          rw [hsize] at hstates
          cases hcheck : Node.checkStates path [] (s :: rest) with
          | error e => simp [hstates, hcheck, Node.check]
          | ok _ =>
            rw [hcheck] at hstates
            simp only [List.isEmpty_cons, Bool.false_eq_true, if_false, hstates, Node.check, hcheck,
              close_reserve b id path parent i on hcheck]
            split <;> rfl

theorem addStates_eq : ∀ (states : List (String × Node)) (b : Builder) (path : StatePath)
    (parent : Nat) (initial : String) (siblings : Siblings),
    b.addStates path parent initial siblings states =
      match Node.checkStates path siblings.seen states with
      | .error e => .error e
      | .ok () =>
        .ok (b.placeAll (Node.layoutStates b.states.size path parent states),
          (Node.positions b.states.size states).foldl (Siblings.add initial) siblings)
  | [], b, path, parent, initial, siblings => by
    rfl
  | (id, n) :: rest, b, path, parent, initial, siblings => by
    rw [addStates, Node.checkStates]
    by_cases hseen : id ∈ siblings.seen
    · rw [if_pos hseen, if_pos hseen]
    · rw [if_neg hseen, if_neg hseen, addNode_eq n]
      cases checkId id with
      | error e => rfl
      | ok _ =>
        cases n.check (path.child id) with
        | error e => rfl
        | ok _ =>
          show addStates _ path parent initial (siblings.add initial (id, b.states.size)) rest = _
          rw [addStates_eq rest, size_placeAll, Node.length_layout, Node.layoutStates,
            placeAll_append]
          rfl

end

/-! ## Looking at states that were placed -/

theorem states_placeAll (b : Builder) (slots : List Slot) :
    (b.placeAll slots).states = b.states ++ (slots.map Slot.state).toArray := by
  induction slots generalizing b with
  | nil => simp [placeAll]
  | cons s rest ih =>
    show ((b.place s).placeAll rest).states = _
    rw [ih]
    show b.states.push s.state ++ _ = _
    simp

theorem placeAll_concat (b : Builder) (slots : List Slot) (s : Slot) :
    b.placeAll (slots ++ [s]) = (b.placeAll slots).place s :=
  placeAll_append b slots [s]

variable {slots : List Slot}

theorem size_placeAll_empty : (empty.placeAll slots).states.size = slots.length := by
  rw [size_placeAll]
  exact Nat.zero_add _

theorem getElem?_states_placeAll_empty (i : Nat) :
    (empty.placeAll slots).states[i]? = (slots[i]?).map Slot.state := by
  rw [states_placeAll]
  show (#[] ++ (slots.map Slot.state).toArray)[i]? = _
  rw [Array.empty_append, List.getElem?_toArray, List.getElem?_map]

/-- What the index gives for a text is the position of a slot with that text. -/
theorem exists_of_get?_index {t : String} {q : Nat}
    (h : (empty.placeAll slots).index.get? t = some q) :
    ∃ s, slots[q]? = some s ∧ s.path.display = t := by
  induction slots using List.reverseRecOn with
  | nil => cases h
  | append_singleton slots s ih =>
    rw [placeAll_concat, place, Table.get?_insert, size_placeAll_empty] at h
    -- the slot placed last hides earlier ones with the same text
    by_cases ht : t = s.path.display
    · rw [if_pos ht] at h
      cases h
      exact ⟨s, by rw [List.getElem?_append_right (Nat.le_refl _), Nat.sub_self]; rfl, ht.symm⟩
    · rw [if_neg ht] at h
      obtain ⟨s', hs', hdisplay⟩ := ih h
      have hlt := (List.getElem?_eq_some_iff.mp hs').1
      exact ⟨s', by rw [List.getElem?_append_left hlt, hs'], hdisplay⟩

/-- The text of every slot is in the index. -/
theorem exists_get?_index {s : Slot} (h : s ∈ slots) :
    ∃ q, (empty.placeAll slots).index.get? s.path.display = some q := by
  induction slots using List.reverseRecOn with
  | nil => cases h
  | append_singleton slots s' ih =>
    rw [placeAll_concat, place, Table.get?_insert]
    by_cases ht : s.path.display = s'.path.display
    · exact ⟨_, if_pos ht⟩
    · rw [if_neg ht]
      rcases List.mem_append.mp h with hmem | hmem
      · exact ih hmem
      · rw [List.mem_singleton.mp hmem] at ht
        exact absurd rfl ht

/-- The transitions that wait are those of the slots, in the order of the slots. -/
theorem pending_placeAll (b : Builder) (slots : List Slot) :
    (b.placeAll slots).pending =
      b.pending ++ (slots.zipIdx b.states.size).flatMap fun s => s.1.node.pending s.2 := by
  induction slots generalizing b with
  | nil => simp [placeAll]
  | cons s rest ih =>
    have hsize : (b.place s).states.size = b.states.size + 1 := Array.size_push ..
    show ((b.place s).placeAll rest).pending = _
    rw [ih, hsize, List.zipIdx_cons, List.flatMap_cons, ← List.append_assoc]
    rfl

theorem mem_pending_placeAll_empty {p : Pending} :
    p ∈ (empty.placeAll slots).pending ↔
      ∃ s, slots[p.node]? = some s ∧ s.node.on.get? p.event = some p.target := by
  rw [pending_placeAll]
  show p ∈ [] ++ (slots.zipIdx 0).flatMap _ ↔ _
  rw [List.nil_append, List.mem_flatMap]
  constructor
  · intro hexists
    obtain ⟨⟨s, i⟩, hs, hp⟩ := hexists
    obtain ⟨e, he, rfl⟩ := List.mem_map.mp hp
    exact ⟨s, List.mem_zipIdx_iff_getElem?.mp hs, Table.get?_eq_some_iff.mpr he⟩
  · intro hexists
    obtain ⟨s, hs, hp⟩ := hexists
    refine ⟨(s, p.node), List.mem_zipIdx_iff_getElem?.mpr hs, ?_⟩
    exact List.mem_map.mpr ⟨(p.event, p.target), Table.get?_eq_some_iff.mp hp, rfl⟩

end Builder

/-! ## The first pass over a definition -/

namespace Definition

/-- The states of a definition before any transition is resolved. -/
def laidOut (d : Definition) : Builder := Builder.empty.placeAll d.layout

theorem addNode_empty (d : Definition) :
    Builder.empty.addNode d.id d.rootPath none d.root =
      match d.check with
      | .error e => .error e
      | .ok () => .ok (d.laidOut, 0) := by
  rw [Builder.addNode_eq, check]
  cases checkId d.id with
  | error e => rfl
  | ok _ => rfl

variable {d : Definition}

theorem getElem?_states_laidOut (q : Nat) :
    d.laidOut.states[q]? = (d.layout[q]?).map Slot.state :=
  Builder.getElem?_states_placeAll_empty q

/-- Every state of a well-shaped definition is found under the text of its path, and nothing else
is found. -/
theorem get?_index_laidOut_iff (hd : d.Shaped) {t : String} {q : Nat} :
    d.laidOut.index.get? t = some q ↔ ∃ s, d.Placed q s ∧ s.path.display = t := by
  constructor
  · intro h
    obtain ⟨s, hs, hdisplay⟩ := Builder.exists_of_get?_index h
    exact ⟨s, getElem?_layout_iff.mp hs, hdisplay⟩
  · intro hexists
    obtain ⟨s, hs, rfl⟩ := hexists
    -- the text is found at some position, and texts tell the slots of the definition apart
    obtain ⟨q', hq'⟩ := Builder.exists_get?_index (List.mem_of_getElem? hs.getElem?)
    obtain ⟨s', hs', hdisplay⟩ := Builder.exists_of_get?_index hq'
    have hplaced := getElem?_layout_iff.mp hs'
    have hpath := hplaced.path_eq_of_display hd hs hdisplay
    have heq : q' = q := hplaced.position_unique hd hs hpath
    rw [← heq]
    exact hq'

theorem mem_pending_laidOut_iff {p : Pending} :
    p ∈ d.laidOut.pending ↔
      ∃ s, d.Placed p.node s ∧ s.node.on.get? p.event = some p.target := by
  rw [laidOut, Builder.mem_pending_placeAll_empty]
  simp only [getElem?_layout_iff]

end Definition

end Statechart
