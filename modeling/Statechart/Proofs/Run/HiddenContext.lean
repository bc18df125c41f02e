import Statechart.Proofs.Run.FailureMode
/-!
What a report gives away of the context of its script. The context has no part in what a run does, so
that two scripts which differ in it have reports that differ in it; taken out of its members, or not
written, it leaves nothing behind. Main statement: reports that hide their contexts are the same
text, and reports that show them are objects that differ in one member.
-/

namespace Statechart

namespace Json

/-! ## Members -/

/-- What is left when a member is taken out does not depend on its value. -/
theorem removeMember_append {α : Type} {name : String} {front : List (String × α)}
    (h : name ∉ front.map Prod.fst) (v : α) (back : List (String × α)) :
    removeMember name (front ++ (name, v) :: back) = front ++ lastFirst back := by
  induction front with
  | nil => simp [removeMember]
  | cons m rest ih =>
    simp only [List.map_cons, List.mem_cons, not_or] at h
    have hne : m.1 ≠ name := fun heq => h.1 heq.symm
    simp [removeMember, hne, ih h.2]

namespace Value

/-- Two values are objects with the same members in the same order, but for the value of the one
member of a given name. -/
def DifferAt (name : String) (v w : Value) : Prop :=
  ∃ front back x y, name ∉ (front ++ back).map Prod.fst ∧
    v = .object (front ++ (name, x) :: back) ∧ w = .object (front ++ (name, y) :: back)

/-- The text of some members is that of one of them between two texts that do not depend on its
value. -/
theorem exists_indentedMembers_append (level : Nat) (front back : List (String × Value))
    (name : String) :
    ∃ before after : List Char, ∀ v, indentedMembers level (front ++ (name, v) :: back) =
      before ++ v.indented level ++ after := by
  induction front with
  | nil =>
    cases back with
    | nil =>
      refine ⟨newLine level ++ printString name ++ [':', ' '], [], fun v => ?_⟩
      simp [indentedMembers]
    | cons m back =>
      refine ⟨newLine level ++ printString name ++ [':', ' '],
        ',' :: indentedMembers level (m :: back), fun v => ?_⟩
      simp [indentedMembers]
  | cons m rest ih =>
    obtain ⟨before, after, hrest⟩ := ih
    obtain ⟨n, w⟩ := m
    refine ⟨newLine level ++ printString n ++ ':' :: ' ' :: (w.indented level ++ ',' :: before),
      after, fun v => ?_⟩
    -- there is a member behind the first one, whether or not there is one in front
    have hcons : ∀ ms : List (String × Value), ms ≠ [] →
        indentedMembers level ((n, w) :: ms) = newLine level ++ printString n ++ ':' :: ' ' ::
          (w.indented level ++ ',' :: indentedMembers level ms) := by
      intro ms hne
      obtain ⟨m', ms', rfl⟩ := List.exists_cons_of_ne_nil hne
      rw [indentedMembers]
      exact nofun
    have hne : rest ++ (name, v) :: back ≠ [] := by simp
    rw [List.cons_append, hcons _ hne, hrest v]
    simp

/-- The texts of two objects that differ in one member differ in the text of that member's value. -/
theorem exists_pretty_object (front back : List (String × Value)) (name : String) :
    ∃ before after : List Char, ∀ v,
      (pretty (.object (front ++ (name, v) :: back))).toList =
        before ++ v.indented 1 ++ after := by
  obtain ⟨before, after, h⟩ := exists_indentedMembers_append 1 front back name
  refine ⟨'{' :: before, after ++ newLine 0 ++ ['}'], fun v => ?_⟩
  have hobject : ∀ ms : List (String × Value), ms ≠ [] →
      indented 0 (.object ms) = '{' :: indentedMembers 1 ms ++ newLine 0 ++ ['}'] := by
    intro ms hne
    obtain ⟨m, ms, rfl⟩ := List.exists_cons_of_ne_nil hne
    rw [indented]
    exact nofun
  have hne : front ++ (name, v) :: back ≠ [] := by simp
  rw [pretty, String.toList_ofList, hobject _ hne, h v]
  simp

end Value

end Json

namespace Report

open Json (Value)

/-! ## Reports that differ in their contexts -/

/-- The members of a report in front of its context. -/
def membersBefore (r : Report) : List (String × Value) :=
  [("machine", .string r.machine), ("checksum", .string r.checksum),
    ("initial", .string r.initial.display), ("initial_value", r.initialValue),
    ("steps", .array (r.steps.map stepJson))]

/-- The members of a report behind its context. -/
def membersAfter (r : Report) : List (String × Value) := [("status", .string r.status.name)]

theorem members_eq (r : Report) :
    r.members = r.membersBefore ++ ("context", r.context) :: r.membersAfter := rfl

theorem context_notMem_membersBefore (r : Report) : "context" ∉ r.membersBefore.map Prod.fst := by
  simp [membersBefore]

/-- A report that hides its context is the same text whatever the context is. -/
theorem render_hidden (r : Report) (context : Value) (format : Format) :
    { r with context }.render ⟨format, false⟩ = r.render ⟨format, false⟩ := by
  cases format with
  | text => rfl
  | json =>
    have hmembers : Json.removeMember "context" { r with context }.members =
        Json.removeMember "context" r.members := by
      rw [members_eq, members_eq, Json.removeMember_append (context_notMem_membersBefore _),
        Json.removeMember_append (context_notMem_membersBefore _)]
      rfl
    show (Value.object (Json.removeMember "context" { r with context }.members)).pretty = _
    rw [hmembers]
    rfl

/-- A report that shows its context is an object which differs in that member alone. -/
theorem differAt_toJson (r : Report) (context : Value) :
    Value.DifferAt "context" (r.toJson true) ({ r with context }.toJson true) := by
  refine ⟨r.membersBefore, r.membersAfter, r.context, context, ?_, rfl, rfl⟩
  simp [membersBefore, membersAfter]

end Report

namespace Machine

open Json (Value)

variable {m : Machine}

/-! ## Runs with different contexts -/

/-- Without an observer that fails, the steps of a run do not depend on the context. -/
theorem map_stepOf_passages_silent (m : Machine) (context context' : Value) (a : ActivePath)
    (seen seen' : List (Notice Value)) (events : List Event) :
    (m.passages .silent context a seen events).map m.stepOf =
      (m.passages .silent context' a seen' events).map m.stepOf := by
  induction events generalizing a seen seen' with
  | nil => rfl
  | cons event rest ih =>
    rw [passages, passages, List.map_cons, List.map_cons, ih]
    rfl

/-- A script with another context has the same report but for the context, or fails alike. -/
theorem result_of_context (m : Machine) (mode : OnFailure) (s : Script) (context : Option Value) :
    (m.run mode { s with context } .silent).result =
      (m.run mode s .silent).result.map fun r =>
        { r with context := m.runContext { s with context } } := by
  cases hnode : m.startNode? s with
  | none =>
    obtain ⟨path, hpath, hlookup⟩ := startNode?_eq_none_iff.mp hnode
    have hpath' : { s with context }.startAt = some path := hpath
    rw [run_of_lookup_eq_none hpath hlookup, run_of_lookup_eq_none hpath' hlookup]
    rfl
  | some node =>
    have hnode' : m.startNode? { s with context } = some node := hnode
    have hsteps : (m.course { s with context } .silent node).map m.stepOf =
        (m.course s .silent node).map m.stepOf := map_stepOf_passages_silent ..
    rw [run_silent hnode, run_silent hnode', hsteps]
    rfl

/-- Two scripts that differ at most in their contexts fail alike, or both have a report. Where the
reports hide their contexts they are the same text in either format. Where they show them, the two
objects differ at most in the member for the context, and the two texts in what stands for its
value. -/
theorem context_shown_alone (m : Machine) (mode : OnFailure) (startAt : Option String)
    (events : List Event) (context₁ context₂ : Option Value) :
    let r₁ := (m.run mode ⟨startAt, context₁, events⟩ .silent).result
    let r₂ := (m.run mode ⟨startAt, context₂, events⟩ .silent).result
    (∃ e, r₁ = .error e ∧ r₂ = .error e) ∨
      ∃ report₁ report₂, r₁ = .ok report₁ ∧ r₂ = .ok report₂ ∧
        (∀ format, report₁.render ⟨format, false⟩ = report₂.render ⟨format, false⟩) ∧
        Value.DifferAt "context" (report₁.toJson true) (report₂.toJson true) ∧
        ∃ before after : List Char,
          (report₁.render ⟨.json, true⟩).toList =
            before ++ report₁.context.indented 1 ++ after ∧
          (report₂.render ⟨.json, true⟩).toList =
            before ++ report₂.context.indented 1 ++ after := by
  intro r₁ r₂
  have hsame : r₂ = r₁.map _ := m.result_of_context mode ⟨startAt, context₁, events⟩ context₂
  cases hr₁ : r₁ with
  | error e =>
    rw [hr₁] at hsame
    exact .inl ⟨e, rfl, hsame⟩
  | ok report =>
    rw [hr₁] at hsame
    refine .inr ⟨report, _, rfl, hsame, ?_, report.differAt_toJson _, ?_⟩
    · intro format
      exact (report.render_hidden _ format).symm
    · obtain ⟨before, after, htext⟩ :=
        Value.exists_pretty_object report.membersBefore report.membersAfter "context"
      exact ⟨before, after, htext _, htext _⟩

end Machine

end Statechart
