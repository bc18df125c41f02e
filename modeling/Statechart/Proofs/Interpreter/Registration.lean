import Statechart.Proofs.Interpreter.Call
/-!
Who is registered. Ids are given out in increasing order and never twice, and an observer stays
registered from its registration on until a call of the run releases its id: a removal of that id, or
a stop that succeeds. Main statements: the ids of a run, and the observers at its end.
-/

namespace Statechart

namespace Interpreter

variable {C : Type} {i j : Interpreter C} {op : Operation C}

/-- The observer that a call registers, with the id that the call returns. -/
def granted (i : Interpreter C) : Operation C → List (Nat × Observer C)
  | .register observer => [((i.register observer).2, observer)]
  | _ => []

/-- A call ends the registration of an id: it removes the id, or it stops the interpreter. -/
def releases (i : Interpreter C) (op : Operation C) (id : Nat) : Bool :=
  match op with
  | .unregister removed => removed == id
  | .stop => (i.error? .stop).isNone
  | _ => false

/-- No call of a run releases an id. -/
def keeps (i : Interpreter C) (ops : List (Operation C)) (id : Nat) : Bool :=
  (i.history ops).all fun s => !s.1.releases s.2 id

/-- All registrations of a run, with the ids that were returned. -/
def issued (i : Interpreter C) (ops : List (Operation C)) : List (Nat × Observer C) :=
  (i.history ops).flatMap fun s => s.1.granted s.2

/-- The registrations of a run that no later call of the run releases. -/
def surviving (i : Interpreter C) : List (Operation C) → List (Nat × Observer C)
  | [] => []
  | op :: rest =>
    (i.granted op).filter (fun r => (i.perform op).keeps rest r.1) ++ (i.perform op).surviving rest

/-! ## One call -/

theorem releases_stop (h : i.isRunning = true) (id : Nat) : i.releases .stop id = true := by
  rw [releases, error?, stop, if_pos h]
  rfl

/-- A call at fault registers and releases nobody. -/
theorem idle_of_fault? {e : InterpreterError} (h : i.fault? op = some e) :
    i.granted op = [] ∧ ∀ id, i.releases op id = false := by
  cases op with
  | register observer => cases h
  | unregister removed => cases h
  | stop =>
    refine ⟨rfl, fun id => ?_⟩
    rw [releases, (refused_of_fault? h).2.2]
    rfl
  | _ => exact ⟨rfl, fun _ => rfl⟩

theorem idle_of_admits (h : i.admits op = true) :
    i.granted op = [] ∧ ∀ id, i.releases op id = false := by
  cases op with
  | start _ | startAt _ _ | send _ => exact ⟨rfl, fun _ => rfl⟩
  | _ => cases h

/-- A call that registers and releases nobody leaves everyone registered. -/
theorem roster_eq_of_idle (h : i.granted op = [] ∧ ∀ id, i.releases op id = false) :
    i.roster = i.roster.filter (fun r => !i.releases op r.1) ++ i.granted op := by
  obtain ⟨hgranted, hreleases⟩ := h
  have hall : ∀ r ∈ i.roster, (!i.releases op r.1) = true := fun r _ => by rw [hreleases]; rfl
  rw [hgranted, List.append_nil, List.filter_eq_self.mpr hall]

/-- After a call those are registered that it has not released, and behind them the one that it has
registered. -/
theorem Effect.roster (h : i.Effect op j) :
    j.roster = i.roster.filter (fun r => !i.releases op r.1) ++ i.granted op := by
  cases h with
  | refused h => exact roster_eq_of_idle (idle_of_fault? h)
  | admitted h =>
    have hsame : (i.round op).observers.map Registration.entry = i.roster := entry_tell _ _
    exact hsame.trans (roster_eq_of_idle (idle_of_admits h))
  | withDefaultContext context =>
    have hidle : i.granted (.withDefaultContext context) = [] ∧
        ∀ id, i.releases (.withDefaultContext context) id = false := ⟨rfl, fun _ => rfl⟩
    exact roster_eq_of_idle hidle
  | register observer =>
    have hall : ∀ r ∈ i.roster, (!i.releases (.register observer) r.1) = true := fun _ _ => rfl
    rw [List.filter_eq_self.mpr hall]
    exact List.map_append
  | unregister id =>
    have hgranted : i.granted (.unregister id) = [] := rfl
    rw [hgranted, List.append_nil, Interpreter.roster, Interpreter.roster, List.filter_map]
    refine congrArg (List.map Registration.entry) (List.filter_congr fun r _ => ?_)
    show (r.id != id) = !(id == r.id)
    rw [bne, Bool.beq_comm]
  | stop h =>
    have hnone : ∀ r ∈ i.roster, ¬ (!i.releases .stop r.1) = true := fun r _ => by
      rw [releases_stop h]
      exact nofun
    rw [List.filter_eq_nil_iff.mpr hnone]
    rfl

/-- A call that registers an observer uses up the next id. -/
theorem Effect.nextId (h : i.Effect op j) : j.nextId = i.nextId + (i.granted op).length := by
  cases h with
  | refused h => rw [(idle_of_fault? h).1]; rfl
  | admitted h =>
    rw [(idle_of_admits h).1]
    show (i.committed op).nextId = i.nextId
    exact nextId_committed i op
  | register observer => rfl
  | _ => rfl

theorem fst_granted (i : Interpreter C) (op : Operation C) :
    (i.granted op).map Prod.fst = List.range' i.nextId (i.granted op).length := by
  cases op <;> rfl

/-! ## Runs -/

theorem issued_cons (i : Interpreter C) (op : Operation C) (rest : List (Operation C)) :
    i.issued (op :: rest) = i.granted op ++ (i.perform op).issued rest := rfl

/-- The ids of a run are numbered through. -/
theorem fst_issued (i : Interpreter C) (ops : List (Operation C)) :
    (i.issued ops).map Prod.fst = List.range' i.nextId (i.issued ops).length := by
  induction ops generalizing i with
  | nil => rfl
  | cons op rest ih =>
    rw [issued_cons, List.map_append, List.length_append, ih, (i.effect_perform op).nextId,
      fst_granted, List.range'_append_1]

/-- At the end of a run those are registered that were registered before and have been kept, and
behind them those that have been registered in the run and kept since. -/
theorem roster_performAll (i : Interpreter C) (ops : List (Operation C)) :
    (i.performAll ops).roster =
      i.roster.filter (fun r => i.keeps ops r.1) ++ i.surviving ops := by
  induction ops generalizing i with
  | nil =>
    have hall : ∀ r ∈ i.roster, i.keeps [] r.1 = true := fun _ _ => rfl
    rw [List.filter_eq_self.mpr hall]
    exact (List.append_nil _).symm
  | cons op rest ih =>
    have hkeeps : ∀ id, i.keeps (op :: rest) id = (!i.releases op id && (i.perform op).keeps rest id) :=
      fun _ => rfl
    show ((i.perform op).performAll rest).roster = _
    rw [ih, (i.effect_perform op).roster, List.filter_append, List.filter_filter, surviving,
      List.append_assoc]
    simp only [hkeeps, Bool.and_comm]

/-- A new interpreter has no observers but those that survive the run. -/
theorem roster_performAll_new (m : Machine) (context : C) (ops : List (Operation C)) :
    ((new m context).performAll ops).roster = (new m context).surviving ops :=
  roster_performAll (new m context) ops

theorem surviving_sublist_issued (i : Interpreter C) (ops : List (Operation C)) :
    (i.surviving ops).Sublist (i.issued ops) := by
  induction ops generalizing i with
  | nil => exact .slnil
  | cons op rest ih => exact List.Sublist.append List.filter_sublist (ih (i.perform op))

end Interpreter

end Statechart
