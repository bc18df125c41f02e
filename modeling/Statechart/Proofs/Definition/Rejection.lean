import Statechart.Proofs.Definition.WellFormed
import Statechart.Proofs.Machine.Preorder
import Statechart.Proofs.Text.ByteOrder
/-!
What the error of a rejected definition tells. Every structural error names a defect that is in the
tree, at the node that it names. A target that denotes no state is reported only if the tree has no
structural defect at all, and only if every transition before it leads to a state; transitions come
in the order of their nodes in the document, those of one node in the byte order of their events.
Main statement: one of the two holds of every definition that is rejected.
-/

namespace Statechart

/-! ## Defects -/

namespace IdFault

/-- The fault is there. -/
def Applies (id : String) : IdFault → Prop
  | .empty => id = ""
  | .containsDot => '.' ∈ id.toList
  | .startsWithHash => id.toList.head? = some '#'

instance (id : String) : DecidablePred (Applies id)
  | .empty => inferInstanceAs (Decidable (id = ""))
  | .containsDot => inferInstanceAs (Decidable ('.' ∈ id.toList))
  | .startsWithHash => inferInstanceAs (Decidable (id.toList.head? = some '#'))

/-- The first fault of an id, in the order in which they are listed here. -/
def first? (id : String) : Option IdFault :=
  [empty, containsDot, startsWithHash].find? fun fault => fault.Applies id

end IdFault

theorem idFault?_eq_first? (id : String) : idFault? id = IdFault.first? id := by
  unfold idFault? IdFault.first?
  by_cases hempty : id = ""
  · simp [hempty, IdFault.Applies]
  · by_cases hdot : '.' ∈ id.toList
    · simp [hempty, hdot, IdFault.Applies]
    · by_cases hhash : id.toList.head? = some '#' <;>
        simp [hempty, hdot, hhash, IdFault.Applies]

theorem exists_fault_of_checkId {id : String} {e : DefinitionError} (h : checkId id = .error e) :
    ∃ fault, e = .invalidStateId id fault ∧ IdFault.first? id = some fault := by
  rw [checkId, idFault?_eq_first?] at h
  cases hfirst : IdFault.first? id with
  | none =>
    rw [hfirst] at h
    cases h
  | some fault =>
    rw [hfirst] at h
    cases h
    exact ⟨fault, rfl, rfl⟩

namespace Definition

/-- The structural defects of a definition, each with the error that tells of it. A node is named by
the ids that lead to it, with a dot between them. -/
inductive Defect (d : Definition) : DefinitionError → Prop
  /-- A node has children and no initial one. -/
  | missingInitial {chain : List String} {n : Node} : d.Reaches chain n → n.states ≠ [] →
    n.initial = none → Defect d (.missingInitial (".".intercalate chain))
  /-- The initial child of a node with children is none of them. -/
  | unknownInitial {chain : List String} {n : Node} {initial : String} : d.Reaches chain n →
    n.states ≠ [] → n.initial = some initial → initial ∉ n.states.map Prod.fst →
    Defect d (.unknownInitial (".".intercalate chain) initial)
  /-- A node without children has an initial one. -/
  | initialWithoutChildren {chain : List String} {n : Node} {initial : String} :
    d.Reaches chain n → n.states = [] → n.initial = some initial →
    Defect d (.initialWithoutChildren (".".intercalate chain) initial)
  /-- A node has more than one child with the same id. -/
  | duplicateState {chain : List String} {n : Node} {id : String} : d.Reaches chain n →
    1 < (n.states.map Prod.fst).count id → Defect d (.duplicateState (".".intercalate chain) id)
  /-- The id of a node has a fault. -/
  | invalidStateId {front : List String} {id : String} {n : Node} {fault : IdFault} :
    d.Reaches (front ++ [id]) n → IdFault.first? id = some fault →
    Defect d (.invalidStateId id fault)

variable {d : Definition} {e : DefinitionError}

end Definition

/-! ## The first pass -/

namespace Node

variable {d : Definition} {e : DefinitionError}

mutual

/-- What the check of a node finds is a defect of the definition. -/
theorem defect_of_check : ∀ (n : Node) (chain : List String), d.Reaches chain n →
    n.check ⟨chain⟩ = .error e → d.Defect e
  | mk none [] on, chain, hn, h => by
    rw [check] at h
    cases h
  | mk (some initial) [] on, chain, hn, h => by
    rw [check] at h
    cases h
    exact .initialWithoutChildren hn rfl rfl
  | mk none (s :: rest) on, chain, hn, h => by
    rw [check] at h
    cases h
    exact .missingInitial hn (List.cons_ne_nil s rest) rfl
  | mk (some initial) (s :: rest) on, chain, hn, h => by
    rw [check] at h
    cases hstates : checkStates ⟨chain⟩ [] (s :: rest) with
    | error e' =>
      rw [hstates] at h
      cases h
      exact defect_of_checkStates (s :: rest) [] [] chain _ hn rfl (by simp) hstates
    | ok _ =>
      rw [hstates] at h
      by_cases hmem : initial ∈ (s :: rest).map Prod.fst
      · simp only [hmem, if_true] at h
        cases h
      · simp only [hmem, if_false] at h
        cases h
        exact .unknownInitial hn (List.cons_ne_nil s rest) rfl hmem

/-- What the check of the children behind some that have been seen finds is a defect. -/
theorem defect_of_checkStates : ∀ (states before : List (String × Node)) (seen chain : List String)
    (n : Node), d.Reaches chain n → n.states = before ++ states →
    (∀ id, id ∈ seen ↔ id ∈ before.map Prod.fst) → checkStates ⟨chain⟩ seen states = .error e →
    d.Defect e
  | [], before, seen, chain, n, hn, hsplit, hseen, h => by
    rw [checkStates] at h
    cases h
  | (id, c) :: rest, before, seen, chain, n, hn, hsplit, hseen, h => by
    rw [checkStates] at h
    have hmem : (id, c) ∈ n.states := by
      rw [hsplit]
      exact List.mem_append_right _ List.mem_cons_self
    have hc : d.Reaches (chain ++ [id]) c := hn.snoc hmem
    by_cases hid : id ∈ seen
    · -- once among the children before, and once here
      rw [if_pos hid] at h
      cases h
      refine .duplicateState hn ?_
      have hbefore := List.count_pos_iff.mpr ((hseen id).mp hid)
      rw [hsplit, List.map_append, List.count_append, List.map_cons, List.count_cons_self]
      omega
    · rw [if_neg hid] at h
      cases hcheck : checkId id with
      | error e' =>
        rw [hcheck] at h
        cases h
        obtain ⟨fault, rfl, hfault⟩ := exists_fault_of_checkId hcheck
        exact .invalidStateId hc hfault
      | ok _ =>
        rw [hcheck] at h
        cases hnode : c.check ((⟨chain⟩ : StatePath).child id) with
        | error e' =>
          simp only [hnode] at h
          cases h
          exact defect_of_check c (chain ++ [id]) hc hnode
        | ok _ =>
          simp only [hnode] at h
          have hsplit' : n.states = (before ++ [(id, c)]) ++ rest := by
            rw [hsplit, List.append_assoc]
            rfl
          have hseen' : ∀ id', id' ∈ id :: seen ↔ id' ∈ (before ++ [(id, c)]).map Prod.fst := by
            intro id'
            rw [List.mem_cons, hseen, List.map_append, List.mem_append, or_comm]
            simp
          exact defect_of_checkStates rest _ (id :: seen) chain n hn hsplit' hseen' h

end

end Node

namespace Definition

variable {d : Definition} {e : DefinitionError} {chain ids : List String} {n : Node}
  {event target : String} {p p' : Pending}

theorem defect_of_check (h : d.check = .error e) : d.Defect e := by
  rw [check] at h
  cases hid : checkId d.id with
  | error e' =>
    rw [hid] at h
    cases h
    obtain ⟨fault, rfl, hfault⟩ := exists_fault_of_checkId hid
    have hroot : d.Reaches ([] ++ [d.id]) d.root := d.reaches_root
    exact .invalidStateId hroot hfault
  | ok _ =>
    rw [hid] at h
    exact d.root.defect_of_check [d.id] d.reaches_root h

/-- A definition that follows the structural rules has no structural defect. -/
theorem Shaped.not_defect (hd : d.Shaped) (e : DefinitionError) : ¬ d.Defect e := by
  intro h
  cases h with
  | missingInitial hn hstates hnone =>
    have hsome := (hd.sound hn).initial_iff.mpr hstates
    rw [hnone] at hsome
    cases hsome
  | unknownInitial hn _ hinitial hmem => exact hmem ((hd.sound hn).initial_mem _ hinitial)
  | initialWithoutChildren hn hstates hinitial =>
    exact (hd.sound hn).initial_iff.mp (by rw [hinitial]; rfl) hstates
  | @duplicateState _ _ id hn hcount =>
    exact absurd hcount (Nat.not_lt.mpr (List.nodup_iff_count.mp (hd.sound hn).distinct id))
  | @invalidStateId front id _ fault hn hfault =>
    have hvalid := hd.validId hn id (List.mem_append_right _ (List.mem_singleton_self id))
    rw [← checkId_eq_ok_iff, checkId, idFault?_eq_first?, hfault] at hvalid
    cases hvalid

/-! ## The second pass -/

/-- The ids that a bare target of a node may be: those of its siblings and its own. The root, which
has no siblings, has its own id and those of its children. -/
def scope (d : Definition) (chain : List String) : List String :=
  if chain = [d.id] then d.id :: d.root.states.map Prod.fst
  else ((d.node? ⟨chain.dropLast⟩).map fun parent => parent.states.map Prod.fst).getD []

/-- A target denotes a state if and only if it names a node. -/
theorem denotes_scope_iff (hd : d.Shaped) (hn : d.Reaches chain n) :
    d.Denotes (d.scope chain) target ↔ ∃ n', d.Reaches (d.targetOf chain target) n' := by
  induction chain using List.reverseRecOn with
  | nil => exact absurd rfl hn.ne_nil
  | append_singleton front id _ =>
    by_cases hfront : front = []
    · subst hfront
      obtain ⟨rfl, rfl⟩ := hn.eq_root
      rw [scope, List.nil_append, if_pos rfl]
      exact denotes_root_iff hd
    · obtain ⟨parent, hparent, hmem⟩ := hn.of_snoc hfront
      have hne : front ++ [id] ≠ [d.id] := by
        intro heq
        have hlength := congrArg List.length heq
        rw [List.length_append, List.length_singleton, List.length_singleton] at hlength
        exact hfront (List.eq_nil_of_length_eq_zero (by omega))
      rw [scope, if_neg hne, List.dropLast_concat, (node?_eq_some_iff hd).mpr hparent]
      exact denotes_child_iff hd hparent

end Definition

/-- A transition that waits comes before another one: its node stands before the other in the
document, or it is the same node and the event has the smaller bytes. -/
def Pending.Earlier (p p' : Pending) : Prop :=
  p.node < p'.node ∨ p.node = p'.node ∧ Text.bytes p.event < Text.bytes p'.event

theorem Pending.Earlier.asymm {p p' : Pending} (h : p.Earlier p') : ¬ p'.Earlier p := by
  intro h'
  rcases h with hlt | ⟨heq, hlt⟩ <;> rcases h' with hlt' | ⟨heq', hlt'⟩
  · omega
  · omega
  · omega
  · exact List.lt_asymm hlt hlt'

namespace Definition

variable {d : Definition} {e : DefinitionError} {p p' : Pending}

/-- The transitions that wait are in order. -/
theorem pairwise_earlier_pending (d : Definition) :
    d.laidOut.pending.Pairwise Pending.Earlier := by
  rw [laidOut, Builder.pending_placeAll]
  show ([] ++ (d.layout.zipIdx 0).flatMap fun s : Slot × Nat => s.1.node.pending s.2).Pairwise _
  rw [List.nil_append, List.pairwise_flatMap]
  constructor
  · -- the events of one node increase
    intro s _
    refine List.pairwise_map.mpr ((List.pairwise_map.mp s.1.node.on.sorted).imp ?_)
    intro a b hlt
    exact .inr ⟨rfl, Text.lt_iff_bytes_lt.mp hlt⟩
  · -- the nodes come by their positions
    have hpositions : (d.layout.zipIdx 0).Pairwise fun s s' => s.2 < s'.2 := by
      rw [← List.pairwise_map, List.zipIdx_map_snd]
      exact List.pairwise_lt_range' 1
    refine hpositions.imp ?_
    intro s s' hlt a ha b hb
    obtain ⟨x, -, rfl⟩ := List.mem_map.mp ha
    obtain ⟨y, -, rfl⟩ := List.mem_map.mp hb
    exact .inl hlt

/-- What comes before a transition that waits stands in front of it. -/
theorem mem_front_of_earlier {front back : List Pending}
    (hsplit : d.laidOut.pending = front ++ p :: back) (hp' : p' ∈ d.laidOut.pending)
    (hearlier : p'.Earlier p) : p' ∈ front := by
  have hsorted := d.pairwise_earlier_pending
  rw [hsplit, List.pairwise_append] at hsorted
  rw [hsplit, List.mem_append] at hp'
  rcases hp' with hfront | hrest
  · exact hfront
  · rcases List.mem_cons.mp hrest with rfl | hback
    · exact absurd hearlier hearlier.asymm
    · exact absurd hearlier ((List.pairwise_cons.mp hsorted.2.1).1 p' hback).asymm

/-- A target that leads to no state, though the structure of the definition is right and every
transition before it leads to one. -/
structure FirstUnresolved (d : Definition) (state event target : String) : Prop where
  structural : ∀ e, ¬ d.Defect e
  unresolved : ∃ (q : Nat) (chain : List String) (n : Node),
    d.preorder[q]? = some (⟨chain⟩, n) ∧ ".".intercalate chain = state ∧
    n.on.get? event = some target ∧ ¬ d.Denotes (d.scope chain) target ∧
    ∀ (q' : Nat) (chain' : List String) (n' : Node) (event' target' : String),
      d.preorder[q']? = some (⟨chain'⟩, n') → n'.on.get? event' = some target' →
      q' < q ∨ q' = q ∧ Text.bytes event' < Text.bytes event → d.Denotes (d.scope chain') target'

/-- What the second pass reports is the first target that denotes no state. -/
theorem firstUnresolved_of_resolveAll (hd : d.Shaped)
    (h : d.laidOut.resolveAll d.laidOut.pending = .error e) :
    ∃ state event target, e = .unresolvedTarget state event target ∧
      d.FirstUnresolved state event target := by
  have hstates : ∀ p ∈ d.laidOut.pending, (d.laidOut.states[p.node]?).isSome :=
    fun p hp => isSome_states_of_mem_pending hp
  -- the pass stopped at `p`; all that it had settled stands in front of it
  obtain ⟨front, p, back, t, hsplit, hfront, hunsettled, ht, rfl⟩ :=
    Builder.exists_of_resolveAll_eq_error hstates h
  have hp : p ∈ d.laidOut.pending := by
    rw [hsplit]
    exact List.mem_append_right _ List.mem_cons_self
  obtain ⟨s, hs, htarget⟩ := mem_pending_laidOut_iff.mp hp
  have hpath : t.path = s.path := by
    rw [getElem?_states_laidOut, hs.getElem?, Option.map_some, Option.some.injEq] at ht
    rw [← ht]
    rfl
  -- a transition is settled if and only if its target denotes a state
  have hdenotes : ∀ {q s} event target, d.Placed q s → ((d.laidOut.settled?
      ⟨q, event, target⟩).isSome ↔ d.Denotes (d.scope s.path.segments) target) := by
    intro q s event target hs
    rw [isSome_settled?_laidOut_iff hd hs, denotes_scope_iff hd hs.reaches.1]
  refine ⟨_, _, _, rfl, hd.not_defect, p.node, s.path.segments, s.node,
    getElem?_preorder_iff.mpr ⟨s, hs, rfl, rfl⟩, ?_, htarget, ?_, ?_⟩
  · rw [hpath]
    rfl
  · rw [← hdenotes p.event p.target hs, Bool.not_eq_true, Option.isSome_eq_false_iff,
      Option.isNone_iff_eq_none]
    exact hunsettled
  · intro q' chain' n' event' target' hlisted htarget' hearlier
    obtain ⟨s', hs', hpath', rfl⟩ := getElem?_preorder_iff.mp hlisted
    have hp' : (⟨q', event', target'⟩ : Pending) ∈ d.laidOut.pending :=
      mem_pending_laidOut_iff.mpr ⟨s', hs', htarget'⟩
    have hsettled := hfront _ (mem_front_of_earlier hsplit hp' hearlier)
    rw [hdenotes event' target' hs', hpath'] at hsettled
    exact hsettled

/-- The error of a rejected definition tells of a structural defect that is there, or of the first
target that denotes no state in a definition without structural defects. -/
theorem defect_or_firstUnresolved (h : Machine.ofDefinition d = .error e) :
    d.Defect e ∨ ∃ state event target, e = .unresolvedTarget state event target ∧
      d.FirstUnresolved state event target := by
  rw [Machine.ofDefinition_eq] at h
  cases hcheck : d.check with
  | error e' =>
    rw [hcheck] at h
    cases h
    exact .inl (defect_of_check hcheck)
  | ok _ =>
    simp only [hcheck] at h
    cases hpass : d.laidOut.resolveAll d.laidOut.pending with
    | error e' =>
      simp only [hpass] at h
      cases h
      exact .inr (firstUnresolved_of_resolveAll (check_eq_ok_iff.mp hcheck) hpass)
    | ok b =>
      simp only [hpass] at h
      cases h

/-- An order with two targets that denote nothing, and a state of the id given besides its draft. -/
def astray (id : String) : Definition where
  id := "order"
  context := none
  root := .mk (some "draft") [
    ("draft", .mk none [] (.ofList [("PAY", "#order.due"), ("CANCEL", "closed")])),
    (id, .atomic)]
    .empty

/-- The target on `CANCEL` comes first, though `PAY` is listed before it. If the ids repeat as well,
then only that is reported. -/
theorem defect_or_firstUnresolved_astray :
    Machine.ofDefinition (astray "paid") =
        .error (.unresolvedTarget "order.draft" "CANCEL" "closed") ∧
      (astray "paid").FirstUnresolved "order.draft" "CANCEL" "closed" ∧
      Machine.ofDefinition (astray "draft") = .error (.duplicateState "order" "draft") ∧
      (astray "draft").Defect (.duplicateState "order" "draft") := by
  have hpaid : Machine.ofDefinition (astray "paid") =
      .error (.unresolvedTarget "order.draft" "CANCEL" "closed") := by rfl
  have hdraft : Machine.ofDefinition (astray "draft") =
      .error (.duplicateState "order" "draft") := by rfl
  refine ⟨hpaid, ?_, hdraft, ?_⟩
  · rcases defect_or_firstUnresolved hpaid with hdefect | ⟨_, _, _, heq, hfirst⟩
    · cases hdefect
    · cases heq
      exact hfirst
  · rcases defect_or_firstUnresolved hdraft with hdefect | ⟨_, _, _, heq, -⟩
    · exact hdefect
    · cases heq

end Definition

end Statechart
