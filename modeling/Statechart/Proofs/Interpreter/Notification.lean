import Statechart.Proofs.Interpreter.Registration
import Statechart.Proofs.Interpreter.Atomicity
/-!
Who is told what. Every observer call of a run stands in its trace. Since ids are never given out
twice, what a registered observer has been told is what the trace holds under its id, and an observer
answers in the light of just that. Main statement: over all runs, who is registered, what a removal
does, and which observer calls the next call makes.
-/

namespace Statechart

variable {C : Type}

/-- The notices for one id among some observer calls, in order. -/
def heard (id : Nat) (calls : List (Nat × Notice C)) : List (Notice C) :=
  calls.filterMap fun c => if c.1 = id then some c.2 else none

theorem heard_append (id : Nat) (calls later : List (Nat × Notice C)) :
    heard id (calls ++ later) = heard id calls ++ heard id later := List.filterMap_append

theorem heard_of_forall_ne {id : Nat} {calls : List (Nat × Notice C)}
    (h : ∀ c ∈ calls, c.1 ≠ id) : heard id calls = [] :=
  List.filterMap_eq_nil_iff.mpr fun c hc => if_neg (h c hc)

/-! ## Rounds -/

theorem Told.mem {n : Notice C} {rs told : List (Registration C)} {failure : Option String}
    (h : Told n rs told failure) : ∀ r ∈ told, r ∈ rs := by
  intro r hr
  cases h with
  | everyone _ => exact hr
  | upTo _ _ =>
    rcases List.mem_append.mp hr with hfront | hlast
    · exact List.mem_append_left _ hfront
    · rw [List.mem_singleton.mp hlast]
      exact List.mem_append_right _ List.mem_cons_self

theorem mem_ids_of_mem_called {n : Notice C} {rs : List (Registration C)} {id : Nat}
    (h : id ∈ (tell n rs).called) : id ∈ rs.map Registration.id := by
  obtain ⟨told, htold, hcalled⟩ := exists_told_tell n rs
  rw [hcalled] at h
  obtain ⟨r, hr, rfl⟩ := List.mem_map.mp h
  exact List.mem_map_of_mem (htold.mem r hr)

theorem heard_cons_self (id : Nat) (n : Notice C) (calls : List (Nat × Notice C)) :
    heard id ((id, n) :: calls) = n :: heard id calls :=
  List.filterMap_cons_some (if_pos rfl)

theorem heard_cons_of_ne {id id' : Nat} (h : id' ≠ id) (n : Notice C)
    (calls : List (Nat × Notice C)) : heard id ((id', n) :: calls) = heard id calls :=
  List.filterMap_cons_none (if_neg h)

/-- With different ids, a round adds to what an observer has been told what it calls under its id. -/
theorem exists_of_mem_tell {n : Notice C} {rs : List (Registration C)}
    (hnodup : (rs.map Registration.id).Nodup) {r' : Registration C}
    (h : r' ∈ (tell n rs).observers) :
    ∃ r ∈ rs, r'.id = r.id ∧
      r'.seen = (heard r.id ((tell n rs).called.map fun id => (id, n))).reverse ++ r.seen := by
  induction rs with
  | nil => cases h
  | cons r rest ih =>
    obtain ⟨hnotMem, hrest⟩ := List.nodup_cons.mp hnodup
    have hne : ∀ r' ∈ rest, r.id ≠ r'.id := fun r' hr' heq =>
      hnotMem (heq ▸ List.mem_map_of_mem hr')
    cases hanswer : r.observer r.seen n with
    | some text =>
      rw [tell_of_failing hanswer] at h ⊢
      rcases List.mem_cons.mp h with rfl | hmem
      · refine ⟨r, List.mem_cons_self, rfl, ?_⟩
        rw [List.map_singleton, heard_cons_self]
        rfl
      · refine ⟨r', List.mem_cons_of_mem _ hmem, rfl, ?_⟩
        rw [List.map_singleton, heard_cons_of_ne (hne r' hmem)]
        rfl
    | none =>
      rw [tell_of_content hanswer] at h ⊢
      rcases List.mem_cons.mp h with rfl | hmem
      · -- the rest of the round calls others
        have hothers : ∀ c ∈ (tell n rest).called.map (fun id => (id, n)), c.1 ≠ r.id := by
          intro c hc
          obtain ⟨id, hid, rfl⟩ := List.mem_map.mp hc
          exact fun heq => hnotMem (heq ▸ mem_ids_of_mem_called hid)
        refine ⟨r, List.mem_cons_self, rfl, ?_⟩
        rw [List.map_cons, heard_cons_self, heard_of_forall_ne hothers]
        rfl
      · obtain ⟨r₀, hr₀, hid, hseen⟩ := ih hrest hmem
        refine ⟨r₀, List.mem_cons_of_mem _ hr₀, hid, ?_⟩
        rw [hseen, List.map_cons, heard_cons_of_ne (hne r₀ hr₀)]

namespace Interpreter

variable {i j : Interpreter C} {op : Operation C}

/-- The observer calls of a run, in order. -/
def trace (i : Interpreter C) (ops : List (Operation C)) : List (Nat × Notice C) :=
  (i.history ops).flatMap fun s => s.1.calls s.2

/-- Observers have different ids, all given out before, and each has been told what the observer
calls of the past hold under its id. -/
structure Accounts (i : Interpreter C) (past : List (Nat × Notice C)) : Prop where
  nodup : (i.observers.map Registration.id).Nodup
  lt_nextId : ∀ r ∈ i.observers, r.id < i.nextId
  past_lt : ∀ c ∈ past, c.1 < i.nextId
  seen : ∀ r ∈ i.observers, r.seen = (heard r.id past).reverse

/-! ## One call -/

variable {past : List (Nat × Notice C)}

theorem accounts_new (m : Machine) (context : C) : (new m context).Accounts [] where
  nodup := .nil
  lt_nextId := nofun
  past_lt := nofun
  seen := nofun

/-- What a round calls is added to what the observers have been told before. -/
theorem Accounts.round (h : i.Accounts past) (n : Notice C) :
    { i with observers := (tell n i.observers).observers }.Accounts
      (past ++ (tell n i.observers).called.map fun id => (id, n)) := by
  have hids : (tell n i.observers).observers.map Registration.id =
      i.observers.map Registration.id := by
    have hentries := congrArg (List.map Prod.fst) (entry_tell n i.observers)
    rwa [List.map_map, List.map_map] at hentries
  refine ⟨?_, ?_, ?_, ?_⟩
  · rw [hids]
    exact h.nodup
  · intro r' hr'
    obtain ⟨r, hr, hid, -⟩ := exists_of_mem_tell h.nodup hr'
    rw [hid]
    exact h.lt_nextId r hr
  · intro c hc
    rcases List.mem_append.mp hc with hold | hnew
    · exact h.past_lt c hold
    · obtain ⟨id, hid, rfl⟩ := List.mem_map.mp hnew
      obtain ⟨r, hr, rfl⟩ := List.mem_map.mp (mem_ids_of_mem_called hid)
      exact h.lt_nextId r hr
  · intro r' hr'
    obtain ⟨r, hr, hid, hseen⟩ := exists_of_mem_tell h.nodup hr'
    rw [hseen, hid, heard_append, List.reverse_append, h.seen r hr]

/-- A new observer has been told nothing, and its id does not occur in the past. -/
theorem Accounts.register (h : i.Accounts past) (observer : Observer C) :
    (i.register observer).1.Accounts past := by
  have hfresh : heard i.nextId past = [] :=
    heard_of_forall_ne fun c hc => Nat.ne_of_lt (h.past_lt c hc)
  refine ⟨?_, ?_, ?_, ?_⟩
  · have hids : (i.register observer).1.observers.map Registration.id =
        i.observers.map Registration.id ++ [i.nextId] := List.map_append
    rw [hids, List.nodup_append]
    refine ⟨h.nodup, List.pairwise_singleton _ _, ?_⟩
    intro id hid id' hid'
    obtain ⟨r, hr, rfl⟩ := List.mem_map.mp hid
    rw [List.mem_singleton.mp hid']
    exact Nat.ne_of_lt (h.lt_nextId r hr)
  · intro r hr
    rcases List.mem_append.mp hr with hold | hnew
    · exact Nat.lt_succ_of_lt (h.lt_nextId r hold)
    · rw [List.mem_singleton.mp hnew]
      exact Nat.lt_succ_self i.nextId
  · exact fun c hc => Nat.lt_succ_of_lt (h.past_lt c hc)
  · intro r hr
    rcases List.mem_append.mp hr with hold | hnew
    · exact h.seen r hold
    · rw [List.mem_singleton.mp hnew, hfresh]
      rfl

/-- Whoever is left has the id that it had and has been told what it had been told. -/
theorem Accounts.of_sublist (h : i.Accounts past)
    (hobservers : j.observers.Sublist i.observers) (hnext : j.nextId = i.nextId) :
    j.Accounts past where
  nodup := h.nodup.sublist (hobservers.map Registration.id)
  lt_nextId r hr := hnext ▸ h.lt_nextId r (hobservers.subset hr)
  past_lt c hc := hnext ▸ h.past_lt c hc
  seen r hr := h.seen r (hobservers.subset hr)

theorem Accounts.perform (h : i.Accounts past) (op : Operation C) :
    (i.perform op).Accounts (past ++ i.calls op) := by
  by_cases hadmits : i.admits op = true
  · obtain ⟨hperform, hcalls, -⟩ := perform_of_admits hadmits
    have hround := h.round (i.notice op)
    rw [hperform, hcalls]
    exact ⟨hround.nodup, nextId_committed i op ▸ hround.lt_nextId,
      nextId_committed i op ▸ hround.past_lt, hround.seen⟩
  · rw [calls_of_not_admits hadmits, List.append_nil]
    have heffect := i.effect_perform op
    generalize i.perform op = j at heffect ⊢
    cases heffect with
    | refused _ => exact h
    | admitted h => exact absurd h hadmits
    | withDefaultContext context => exact h.of_sublist (List.Sublist.refl _) rfl
    | register observer => exact h.register observer
    | unregister id => exact h.of_sublist List.filter_sublist rfl
    | stop _ => exact h.of_sublist (List.nil_sublist _) rfl

/-! ## Runs -/

theorem Accounts.performAll (h : i.Accounts past) (ops : List (Operation C)) :
    (i.performAll ops).Accounts (past ++ i.trace ops) := by
  induction ops generalizing i past with
  | nil =>
    rw [show i.trace [] = [] from rfl, List.append_nil]
    exact h
  | cons op rest ih =>
    have hrest := ih (h.perform op)
    rw [List.append_assoc] at hrest
    exact hrest

theorem accounts_performAll_new (m : Machine) (context : C) (ops : List (Operation C)) :
    ((new m context).performAll ops).Accounts ((new m context).trace ops) :=
  (accounts_new m context).performAll ops

/-! ## What the next call does -/

/-- A removal succeeds if and only if the id is registered, and it takes off just that observer. -/
structure RemovesOnly (i : Interpreter C) (id : Nat) : Prop where
  iff : (i.unregister id).2 = true ↔ id ∈ i.roster.map Prod.fst
  taken : ∀ observer, (id, observer) ∈ i.roster → ∃ front back,
    i.roster = front ++ (id, observer) :: back ∧ (i.unregister id).1.roster = front ++ back
  absent : id ∉ i.roster.map Prod.fst → (i.unregister id).1 = i

/-- A call that gets past its checks tells the registered observers in order, up to and including
the first one that fails, all of them the state after the call and its event, and it fails with what
that observer says. Any other call tells nobody and does not fail for an observer. -/
structure NotifiesExactly (i : Interpreter C) (op : Operation C) : Prop where
  admitted : i.admits op = true → ∃ told failure,
    Told ⟨(i.perform op).snapshot, op.event?⟩ i.observers told failure ∧
      i.calls op = told.map (fun r => (r.id, ⟨(i.perform op).snapshot, op.event?⟩)) ∧
      i.error? op = failure.map .observer
  silent : ¬ i.admits op = true →
    i.calls op = [] ∧ ∀ text, i.error? op ≠ some (.observer text)

theorem fst_roster (i : Interpreter C) :
    i.roster.map Prod.fst = i.observers.map Registration.id := by
  rw [roster, List.map_map]
  rfl

theorem removesOnly_of_nodup (h : (i.observers.map Registration.id).Nodup) (id : Nat) :
    i.RemovesOnly id := by
  refine ⟨?_, ?_, ?_⟩
  · rw [fst_roster]
    simp [unregister]
  · intro observer hmem
    obtain ⟨front, back, hroster⟩ := List.append_of_mem hmem
    -- the id stands neither in front nor behind
    rw [← fst_roster, hroster, List.map_append, List.nodup_append] at h
    obtain ⟨-, hback, hfront⟩ := h
    have hnotBack : ∀ r ∈ back, (!id == r.1) = true := by
      intro r hr
      have hmem' : r.1 ∈ back.map Prod.fst := List.mem_map_of_mem hr
      have hne : id ≠ r.1 := fun heq => (List.nodup_cons.mp hback).1 (heq ▸ hmem')
      rw [beq_eq_false_iff_ne.mpr hne, Bool.not_false]
    have hnotFront : ∀ r ∈ front, (!id == r.1) = true := by
      intro r hr
      have hne : r.1 ≠ id := hfront r.1 (List.mem_map_of_mem hr) id List.mem_cons_self
      rw [beq_eq_false_iff_ne.mpr hne.symm, Bool.not_false]
    have hself : ¬ (!id == (id, observer).1) = true := by
      rw [beq_self_eq_true, Bool.not_true]
      exact nofun
    have hcons : ((id, observer) :: back).filter (fun r => !id == r.1) =
        back.filter (fun r => !id == r.1) := List.filter_cons_of_neg hself
    have hremoved : (i.unregister id).1.roster = i.roster.filter (fun r => !id == r.1) ++ [] :=
      (i.effect_perform (.unregister id)).roster
    refine ⟨front, back, hroster, ?_⟩
    rw [hremoved, hroster, List.append_nil, List.filter_append, hcons,
      List.filter_eq_self.mpr hnotFront, List.filter_eq_self.mpr hnotBack]
  · intro hnot
    rw [fst_roster] at hnot
    have hall : ∀ r ∈ i.observers, (r.id != id) = true := by
      intro r hr
      exact bne_iff_ne.mpr fun heq => hnot (heq ▸ List.mem_map_of_mem hr)
    rw [unregister, List.filter_eq_self.mpr hall]

theorem notifiesExactly (i : Interpreter C) (op : Operation C) : i.NotifiesExactly op := by
  refine ⟨?_, ?_⟩
  · intro hadmits
    obtain ⟨hperform, hcalls, herror⟩ := perform_of_admits hadmits
    obtain ⟨told, htold, hcalled⟩ := exists_told_tell (i.notice op) i.observers
    have hnotice : (⟨(i.perform op).snapshot, op.event?⟩ : Notice C) = i.notice op := by
      rw [hperform]
      rfl
    refine ⟨told, (i.round op).failure, ?_, ?_, herror⟩
    · rw [hnotice]
      exact htold
    · rw [hcalls, round, hcalled, List.map_map, hnotice]
      rfl
  · intro hadmits
    refine ⟨calls_of_not_admits hadmits, ?_⟩
    intro text htext
    cases hfault : i.fault? op with
    | none =>
      rw [(silent_of_not_admits hfault hadmits).2] at htext
      cases htext
    | some e =>
      rw [(refused_of_fault? hfault).2.2] at htext
      cases htext
      exact isRefusal_of_fault? hfault

/-- After any calls on a new interpreter, those are registered whose registration has been kept,
under the ids that were returned, and no id is returned twice. Each of them has been told what the
observer calls of the run hold under its id. A removal takes off the observer with its id and no
other, and the next call tells the registered observers what has happened, in order, up to the first
that fails. -/
theorem notices_exact (m : Machine) (context : C) (ops : List (Operation C)) :
    let i := (new m context).performAll ops
    i.roster = (new m context).surviving ops ∧
      ((new m context).surviving ops).Sublist ((new m context).issued ops) ∧
      (((new m context).issued ops).map Prod.fst).Pairwise (· < ·) ∧
      (∀ r ∈ i.observers, r.seen.reverse = heard r.id ((new m context).trace ops)) ∧
      (∀ id, i.RemovesOnly id) ∧
      ∀ op, i.NotifiesExactly op := by
  intro i
  have haccounts : i.Accounts ((new m context).trace ops) := accounts_performAll_new m context ops
  refine ⟨roster_performAll_new m context ops, surviving_sublist_issued _ ops, ?_, ?_, ?_, ?_⟩
  · rw [fst_issued]
    exact List.pairwise_lt_range'
  · intro r hr
    rw [haccounts.seen r hr, List.reverse_reverse]
  · exact removesOnly_of_nodup haccounts.nodup
  · exact notifiesExactly i

/-- The first observer fails on an event, so the second one does not hear of it; it is registered
all the same and can be removed. -/
theorem notices_exact_order :
    let ops : List (Operation Unit) :=
      [.register fun _ n => n.event.map fun _ => "down", .register .silent, .start none]
    let i := (new Machine.order ()).performAll ops
    let pay : Operation Unit := .send { type := "PAY" }
    (i.calls pay).map Prod.fst = [0] ∧
      (∃ told failure, Told ⟨(i.perform pay).snapshot, pay.event?⟩ i.observers told failure ∧
        i.error? pay = failure.map .observer) ∧
      (i.unregister 1).2 = true := by
  intro ops i pay
  have hadmits : i.admits pay = true := rfl
  have hregistered : 1 ∈ i.roster.map Prod.fst := .tail _ (.head _)
  obtain ⟨-, -, -, -, hremoves, hnotifies⟩ := notices_exact Machine.order () ops
  obtain ⟨told, failure, htold, -, herror⟩ := (hnotifies pay).admitted hadmits
  exact ⟨rfl, ⟨told, failure, htold, herror⟩, (hremoves 1).iff.mpr hregistered⟩

end Interpreter

end Statechart
