import Statechart.Proofs.Interpreter.ActivePath
import Statechart.Proofs.Interpreter.Independence
/-!
Going on from a path. The text of the path that an interpreter shows is looked up as the state in
which it rests, and what an interpreter does with events depends on nothing but its status and that
state. Main statement: a new interpreter, started at the path that another one shows, goes on as that
one does, and so do any two runs that have come to the same path.
-/

namespace Statechart

/-! ## The state at a path -/

namespace Machine

variable {m : Machine} {d : Definition} {a a' : ActivePath} {ids : List String}

/-- At rest the ids say what the active path is. -/
theorem Realizes.eq_of_restsAt (h : m.Realizes d) (ha : m.RestsAt d a ids)
    (ha' : m.RestsAt d a' ids) : a = a' := by
  obtain ⟨l, u, hu, -, rfl, rfl⟩ := ha
  obtain ⟨l', u', hu', -, hsegments, rfl⟩ := ha'
  rw [hu.position_unique h.shaped hu' (StatePath.ext hsegments.symm)]

/-- At rest the text of the path names a state that enters the active path again. -/
theorem Realizes.exists_lookup_of_restsAt (h : m.Realizes d) (ha : m.RestsAt d a ids) :
    ∃ q, m.lookup (m.pathOf a).display = some q ∧
      m.lookup ("#" ++ (m.pathOf a).display) = some q ∧ m.enter q = a := by
  rw [h.pathOf_of_restsAt ha]
  obtain ⟨l, u, hu, hstates, rfl, rfl⟩ := ha
  obtain ⟨hplain, hmarked⟩ := h.lookup_display hu
  exact ⟨l, hplain, hmarked, h.enter_of_states_nil hu hstates⟩

end Machine

namespace Interpreter

variable {C C' : Type}

/-! ## What comes after -/

/-- The events that are offered after each of some events, sent one after the other. -/
def offers (i : Interpreter C) : List Event → List (List String)
  | [] => []
  | event :: rest =>
    (i.send event).interpreter.availableEvents :: offers (i.send event).interpreter rest

/-- None of some events, sent one after the other, meets with a failing observer. -/
def Quiet (i : Interpreter C) (events : List Event) : Prop :=
  ∀ r ∈ i.replies events, ∀ text, r ≠ .error (.observer text)

/-- The observers never fail, whatever they are told. -/
def Content (i : Interpreter C) : Prop := ∀ e ∈ i.roster, ∀ seen n, e.2 seen n = none

variable {i : Interpreter C} {j : Interpreter C'}

theorem machine_send (i : Interpreter C) (event : Event) :
    (i.send event).interpreter.machine = i.machine :=
  i.machine_perform (.send event)

theorem standing_send (i : Interpreter C) (event : Event) :
    (i.send event).interpreter.standing = i.standing.after i.machine (.handle event.type) :=
  (i.effect_perform (.send event)).standing

/-- Two interpreters that stand at the same place offer the same after any events, whatever their
observers do. -/
theorem offers_congr (hmachine : i.machine = j.machine) (hstanding : i.standing = j.standing)
    (events : List Event) : i.offers events = j.offers events := by
  induction events generalizing i j with
  | nil => rfl
  | cons event rest ih =>
    have hmachine' : (i.send event).interpreter.machine = (j.send event).interpreter.machine := by
      rw [machine_send, machine_send, hmachine]
    have hstanding' :
        (i.send event).interpreter.standing = (j.send event).interpreter.standing := by
      rw [standing_send, standing_send, hmachine, hstanding]
    have hactive : (i.send event).interpreter.active = (j.send event).interpreter.active :=
      congrArg Standing.active hstanding'
    rw [offers, offers, availableEvents, availableEvents, hmachine', hactive,
      ih hmachine' hstanding']

/-- An event that meets with no failing observer has the record of the machine on a running
interpreter, and is refused on any other. -/
theorem result_send_of_quiet {event : Event}
    (h : ∀ text, (i.send event).result ≠ .error (.observer text)) :
    (i.send event).result =
      if i.status = .running then .ok (i.machine.step i.active event)
      else .error (.notRunning i.status) := by
  by_cases hrunning : i.isRunning = true
  · rw [if_pos (isRunning_iff.mp hrunning)]
    rw [send_of_isRunning hrunning, announce] at h ⊢
    dsimp only at h ⊢
    split at h
    · next text hfailure => exact absurd rfl (h text)
    · next hfailure => rfl
  · rw [if_neg (mt isRunning_iff.mpr hrunning), send, if_neg hrunning]
    rfl

/-- Two interpreters that stand at the same place answer any events alike, as long as no observer
fails. -/
theorem replies_congr (hmachine : i.machine = j.machine) (hstanding : i.standing = j.standing)
    {events : List Event} (hi : i.Quiet events) (hj : j.Quiet events) :
    i.replies events = j.replies events := by
  induction events generalizing i j with
  | nil => rfl
  | cons event rest ih =>
    obtain ⟨hi, hirest⟩ := List.forall_mem_cons.mp hi
    obtain ⟨hj, hjrest⟩ := List.forall_mem_cons.mp hj
    have hmachine' : (i.send event).interpreter.machine = (j.send event).interpreter.machine := by
      rw [machine_send, machine_send, hmachine]
    have hstanding' :
        (i.send event).interpreter.standing = (j.send event).interpreter.standing := by
      rw [standing_send, standing_send, hmachine, hstanding]
    have hstatus : i.status = j.status := congrArg Standing.status hstanding
    have hactive : i.active = j.active := congrArg Standing.active hstanding
    have hresult : (i.send event).result = (j.send event).result := by
      rw [result_send_of_quiet hi, result_send_of_quiet hj, hmachine, hstatus, hactive]
    rw [replies, replies, hresult, ih hmachine' hstanding' hirest hjrest]

/-- A running interpreter has a record for each of some events, as long as no observer fails. -/
theorem exists_records_of_quiet (hrunning : i.status = .running) {events : List Event}
    (h : i.Quiet events) : ∃ records : List Step, i.replies events = records.map .ok := by
  induction events generalizing i with
  | nil => exact ⟨[], rfl⟩
  | cons event rest ih =>
    obtain ⟨hfirst, hrest⟩ := List.forall_mem_cons.mp h
    have hrunning' : (i.send event).interpreter.status = .running := by
      have hstanding := i.standing_send event
      rw [Standing.after, if_pos (show i.standing.status = .running from hrunning)] at hstanding
      exact congrArg Standing.status hstanding
    obtain ⟨records, hrecords⟩ := ih hrunning' hrest
    refine ⟨i.machine.step i.active event :: records, ?_⟩
    rw [replies, hrecords, result_send_of_quiet hfirst, if_pos hrunning, List.map_cons]

/-! ## Observers that never fail -/

theorem content_send (h : i.Content) (event : Event) : (i.send event).interpreter.Content := by
  have hroster : (i.send event).interpreter.roster = i.roster := by
    by_cases hrunning : i.isRunning = true
    · have hadmits : i.admits (.send event) = true := hrunning
      exact roster_of_admits hadmits
    · rw [send, if_neg hrunning]
      rfl
  rw [Content, hroster]
  exact h

theorem quiet_of_content (h : i.Content) (events : List Event) : i.Quiet events := by
  induction events generalizing i with
  | nil => exact List.forall_mem_nil _
  | cons event rest ih =>
    refine List.forall_mem_cons.mpr ⟨?_, ih (content_send h event)⟩
    intro text htext
    by_cases hrunning : i.isRunning = true
    · have hcontent : ∀ r ∈ i.observers, ∀ n, r.observer r.seen n = none :=
        fun r hr n => h r.entry (List.mem_map_of_mem hr) r.seen n
      rw [send_of_isRunning hrunning, announce,
        failure_tell_of_content fun r hr => hcontent r hr _] at htext
      cases htext
    · rw [send, if_neg hrunning] at htext
      cases htext

/-! ## Going on -/

section GoingOn

variable {m : Machine} {d : Definition}

/-- A new interpreter that is started at the path of one at rest comes to rest there. -/
theorem startAt_path (hm : m.Realizes d) (hi : i.Rests m d) (fresh : C') (given : Option C')
    {text : String} (htext : text ∈ [i.snapshot.path.display, "#" ++ i.snapshot.path.display]) :
    ∃ q, (new m fresh).startAt text given = ⟨(new m fresh).entered q given, [], .ok ()⟩ ∧
      ((new m fresh).entered q given).active = i.active := by
  obtain ⟨hmachine, ids, ha⟩ := hi
  have hpath : i.snapshot.path = m.pathOf i.active := by
    rw [snapshot, hmachine]
  obtain ⟨q, hplain, hmarked, henter⟩ := hm.exists_lookup_of_restsAt ha
  have hlookup : m.lookup text = some q := by
    rw [hpath] at htext
    rcases List.mem_cons.mp htext with rfl | htext
    · exact hplain
    · rw [List.mem_singleton.mp htext]
      exact hmarked
  refine ⟨q, ?_, henter⟩
  have hnobody : ((new m fresh).entered q given).observers = [] := rfl
  rw [startAt_new_of_lookup hlookup, announce_of_observers_nil hnobody]

/-- Two interpreters at rest that show the same path have the same active path. -/
theorem active_eq_of_path_eq (hm : m.Realizes d) (hi : i.Rests m d) (hj : j.Rests m d)
    (hsame : j.snapshot.path = i.snapshot.path) : j.active = i.active := by
  obtain ⟨hmachine, ids, ha⟩ := hi
  obtain ⟨hmachine', ids', ha'⟩ := hj
  have hids : ids' = ids := by
    rw [snapshot, snapshot, hmachine, hmachine', hm.pathOf_of_restsAt ha,
      hm.pathOf_of_restsAt ha'] at hsame
    exact congrArg StatePath.segments hsame
  exact hm.eq_of_restsAt (hids ▸ ha') ha

end GoingOn

/-- A new interpreter takes the text of the path that another one shows, with or without a leading
mark, and comes to rest where that one does. From then on both offer the same and, as long as no
observer fails, answer alike. Two runs with the same status and the same path go on alike as well. -/
theorem resumes_at_path {m : Machine} {d : Definition} (h : Machine.ofDefinition d = .ok m)
    (context : C) (ops : List (Operation C)) :
    let i := (new m context).performAll ops
    (∀ (fresh : C') (given : Option C'),
      ∀ text ∈ [i.snapshot.path.display, "#" ++ i.snapshot.path.display],
        let r := (new m fresh).startAt text given
        r.result = .ok () ∧ r.interpreter.active = i.active ∧
          (i.isRunning = true → ∀ events,
            r.interpreter.offers events = i.offers events ∧
              (i.Quiet events → ∃ records : List Step,
                i.replies events = records.map .ok ∧
                  r.interpreter.replies events = records.map .ok))) ∧
      (∀ (context' : C') (ops' : List (Operation C')),
        let j := (new m context').performAll ops'
        j.snapshot.path = i.snapshot.path →
          j.active = i.active ∧ j.availableEvents = i.availableEvents ∧
            (j.status = i.status → ∀ events,
              j.offers events = i.offers events ∧
                (i.Quiet events → j.Quiet events → j.replies events = i.replies events))) ∧
      (i.Content → ∀ events, i.Quiet events) := by
  have hm := Machine.realizes_of_ofDefinition h
  intro i
  have hi : i.Rests m d := rests_performAll hm context ops
  refine ⟨?_, ?_, quiet_of_content⟩
  · intro fresh given text htext r
    obtain ⟨q, hr, henter⟩ := startAt_path hm hi fresh given htext
    rw [show r = _ from hr]
    refine ⟨rfl, henter, ?_⟩
    intro hrunning events
    have hstanding : ((new m fresh).entered q given).standing = i.standing := by
      rw [standing, standing, isRunning_iff.mp hrunning, henter]
      rfl
    refine ⟨offers_congr hi.machine.symm hstanding events, fun hquiet => ?_⟩
    -- nobody observes the new interpreter, so that nobody fails there
    have hfresh : ((new m fresh).entered q given).Content := List.forall_mem_nil _
    obtain ⟨records, hrecords⟩ := exists_records_of_quiet (isRunning_iff.mp hrunning) hquiet
    refine ⟨records, hrecords, ?_⟩
    rw [← hrecords]
    exact replies_congr hi.machine.symm hstanding (quiet_of_content hfresh events) hquiet
  · intro context' ops' j hsame
    have hj : j.Rests m d := rests_performAll hm context' ops'
    have hactive : j.active = i.active := active_eq_of_path_eq hm hi hj hsame
    have hmachines : j.machine = i.machine := hj.machine.trans hi.machine.symm
    refine ⟨hactive, by rw [availableEvents, availableEvents, hmachines, hactive], ?_⟩
    intro hstatus events
    have hstanding : j.standing = i.standing := by
      rw [standing, standing, hstatus, hactive]
    exact ⟨offers_congr hmachines hstanding events,
      fun hi hj => replies_congr hmachines hstanding hj hi⟩

/-- A run with an observer that never fails, taken over by an interpreter with another context. -/
theorem resumes_at_path_order :
    let i := (new Machine.order ()).performAll
      [.register .silent, .start none, .send { type := "PAY" }]
    let r := (new Machine.order 0).startAt "#order.active.processing" none
    let events : List Event := [{ type := "SHIP" }, { type := "CANCEL" }]
    Machine.ofDefinition .order = .ok .order ∧ i.isRunning = true ∧ i.Quiet events ∧
      r.result = .ok () ∧ r.interpreter.active = i.active ∧
      r.interpreter.offers events = i.offers events ∧
      ∃ records : List Step, i.replies events = records.map .ok ∧
        r.interpreter.replies events = records.map .ok := by
  intro i r events
  obtain ⟨hresumes, -, hquiet⟩ :=
    @resumes_at_path Unit Nat _ _ Machine.ofDefinition_order ()
      [.register .silent, .start none, .send { type := "PAY" }]
  have hcontent : i.Content := by
    intro e he
    rw [List.mem_singleton.mp (show e ∈ [(0, Observer.silent)] from he)]
    exact fun _ _ => rfl
  have htext : "#order.active.processing" ∈
      [i.snapshot.path.display, "#" ++ i.snapshot.path.display] :=
    List.mem_cons_of_mem _ (List.mem_singleton.mpr rfl)
  obtain ⟨hresult, hactive, hgoes⟩ := hresumes 0 none _ htext
  obtain ⟨hoffers, hreplies⟩ := hgoes rfl events
  exact ⟨Machine.ofDefinition_order, rfl, hquiet hcontent events, hresult, hactive, hoffers,
    hreplies (hquiet hcontent events)⟩

end Interpreter

end Statechart
