import Statechart.Script
import Statechart.Proofs.Definition.Folding
/-!
Scripts and events as values. There is more than one way to write them: an event may be its bare type,
fields may be left out or null, unknown fields are passed over. Writing has one way, which leaves out
what is absent. Main statement: what is written is read back, but for explicit nulls, and what was read
once, however it was written, is read back as it is.
-/

namespace Statechart

open Json (Document Key Value fields fields_cons)
open Json.Document (ofValue ofItems ofMembers ofItems_eq_map ofMembers_eq_fields)
open Definition (contextOf readContext?_of_isJson readContext?_ofValue)

/-! ## Optional values -/

/-- An optional value as it is read: it is not null, and no name is repeated in it. -/
structure Given (o : Option Value) : Prop where
  kept : o.bind contextOf = o
  distinct : ∀ v, o = some v → v.Distinct

theorem given_none : Given none := ⟨rfl, nofun⟩

theorem given_contextOf {v : Value} (h : v.Distinct) : Given (contextOf v) := by
  cases v with
  | null => exact given_none
  | _ => exact ⟨rfl, fun _ hv => Option.some.inj hv ▸ h⟩

/-- What is read where a value may be left out. -/
theorem given_of_readContext? {d : Document} (hd : d.IsJson) {o : Option Value}
    (h : Definition.readContext? d = some o) : Given o := by
  rw [readContext?_of_isJson hd, Option.some.injEq] at h
  exact h ▸ given_contextOf hd.distinct_value

namespace Event

/-! ## Events -/

/-- An event as it is read back: a null payload is none. -/
def withoutNull (e : Event) : Event := { e with payload := e.payload.bind contextOf }

/-- No name is repeated in the payload of an event. -/
def Distinct (e : Event) : Prop := ∀ p, e.payload = some p → p.Distinct

theorem withoutNull_of_given {e : Event} (h : Given e.payload) : e.withoutNull = e := by
  rw [withoutNull, h.kept]

theorem readFields?_type (d : Document) (entries : List (Key × Document)) :
    readFields? ((.text "type", d) :: entries) = do
      let f ← readFields? entries
      let type ← d.text?
      if f.type.isSome then none else return { f with type := some type } := rfl

theorem readFields?_payload (d : Document) (entries : List (Key × Document)) :
    readFields? ((.text "payload", d) :: entries) = do
      let f ← readFields? entries
      let payload ← Definition.readContext? d
      if f.payload.isSome then none else return { f with payload := some payload } := by
  cases d <;> rfl

/-- Unknown fields are passed over. -/
theorem readFields?_other {name : String} (h : name ∉ ["type", "payload"]) (d : Document)
    (entries : List (Key × Document)) :
    readFields? ((.text name, d) :: entries) = readFields? entries := by
  simp only [List.mem_cons, List.not_mem_nil, or_false, not_or] at h
  rw [readFields?]
  cases readFields? entries <;> simp [h]

/-- An event is read back from what it writes. -/
theorem ofJson?_toJson_of_distinct {e : Event} (h : e.Distinct) :
    ofJson? e.toJson = some e.withoutNull := by
  obtain ⟨type, payload⟩ := e
  cases payload with
  | none => rfl
  | some p =>
    have hread := readContext?_ofValue (h p rfl)
    have hentries : ofMembers [("type", .string type), ("payload", p)] =
        [(.text "type", .string type), (.text "payload", ofValue p)] := rfl
    rw [ofJson?, toJson, ofValue, hentries, read?, readFields?, readFields?_payload, hread]
    rfl

/-- The fields of an event hold no null, whichever of them are given and in which order. -/
theorem given_payload_of_readFields? {ms : List (String × Document)} (hms : ∀ m ∈ ms, m.2.IsJson)
    {f : Fields} (h : readFields? (fields ms) = some f) : Given (f.payload.getD none) := by
  induction ms generalizing f with
  | nil =>
    cases h
    exact given_none
  | cons m rest ih =>
    obtain ⟨name, d⟩ := m
    obtain ⟨hd, hrest⟩ := List.forall_mem_cons.mp hms
    rw [fields_cons] at h
    by_cases hname : name ∈ ["type", "payload"]
    · simp only [List.mem_cons, List.not_mem_nil, or_false] at hname
      rcases hname with rfl | rfl
      · rw [readFields?_type] at h
        obtain ⟨g, hg, h⟩ := Option.bind_eq_some_iff.mp h
        obtain ⟨type, -, h⟩ := Option.bind_eq_some_iff.mp h
        split at h
        · cases h
        · cases h
          exact ih (f := g) hrest hg
      · rw [readFields?_payload] at h
        obtain ⟨g, -, h⟩ := Option.bind_eq_some_iff.mp h
        obtain ⟨payload, hpayload, h⟩ := Option.bind_eq_some_iff.mp h
        split at h
        · cases h
        · cases h
          exact given_of_readContext? hd hpayload
    · rw [readFields?_other hname] at h
      exact ih hrest h

/-- What is read as an event, whichever way it is written, has no null for a payload. -/
theorem given_payload_of_read? {d : Document} (hd : d.IsJson) {e : Event} (h : read? d = some e) :
    Given e.payload := by
  cases hd with
  | string s =>
    cases h
    exact given_none
  | object hms =>
    rw [read?] at h
    obtain ⟨f, hf, h⟩ := Option.bind_eq_some_iff.mp h
    obtain ⟨type, -, h⟩ := Option.bind_eq_some_iff.mp h
    cases h
    exact given_payload_of_readFields? hms hf
  | _ => cases h

/-- What was read once is read back as it is. -/
theorem ofJson?_toJson_of_ofJson? {v : Value} {e : Event} (h : ofJson? v = some e) :
    ofJson? e.toJson = some e := by
  have he : Given e.payload := given_payload_of_read? (Document.isJson_ofValue v) h
  rw [ofJson?_toJson_of_distinct he.distinct, withoutNull_of_given he]

end Event

namespace Script

/-! ## Scripts -/

/-- A script as it is read back: a null context is none, and so is a null payload. -/
def withoutNulls (s : Script) : Script :=
  { s with
    context := s.context.bind contextOf
    events := s.events.map Event.withoutNull }

/-- No name is repeated in the values that a script carries. -/
structure Distinct (s : Script) : Prop where
  context : ∀ c, s.context = some c → c.Distinct
  events : ∀ e ∈ s.events, e.Distinct

/-- The values of a script as they are read. -/
structure IsRead (s : Script) : Prop where
  context : Given s.context
  events : ∀ e ∈ s.events, Given e.payload

theorem isRead_empty : IsRead {} := ⟨given_none, fun _ he => absurd he List.not_mem_nil⟩

theorem IsRead.distinct {s : Script} (h : s.IsRead) : s.Distinct where
  context := h.context.distinct
  events e he := (h.events e he).distinct

theorem IsRead.withoutNulls_eq {s : Script} (h : s.IsRead) : s.withoutNulls = s := by
  have hevents : s.events.map Event.withoutNull = s.events.map id :=
    List.map_congr_left fun e he => Event.withoutNull_of_given (h.events e he)
  rw [withoutNulls, h.context.kept, hevents, List.map_id]

/-! ### Fields -/

/-- Whatever stands in a field of a value is fit to be read. -/
def anyDocument : Document → Bool := fun _ => true

theorem readContext?_any (d : Document) :
    readContext? anyDocument d = Definition.readContext? d := by
  cases d <;> rfl

section Fields

variable (d : Document) (entries : List (Key × Document))

theorem readFields?_startAt :
    readFields? anyDocument ((.text "start_at", d) :: entries) = do
      let f ← readFields? anyDocument entries
      let startAt ← d.optionalText?
      if f.startAt.isSome then none else return { f with startAt := some startAt } := rfl

theorem readFields?_context :
    readFields? anyDocument ((.text "context", d) :: entries) = do
      let f ← readFields? anyDocument entries
      let context ← Definition.readContext? d
      if f.context.isSome then none else return { f with context := some context } := by
  rw [← readContext?_any]
  rfl

theorem readFields?_events :
    readFields? anyDocument ((.text "events", d) :: entries) = do
      let f ← readFields? anyDocument entries
      let events ← readEvents? anyDocument d
      if f.events.isSome then none else return { f with events := some events } := rfl

/-- Unknown fields are passed over. -/
theorem readFields?_other {name : String} (h : name ∉ ["start_at", "context", "events"]) :
    readFields? anyDocument ((.text name, d) :: entries) = readFields? anyDocument entries := by
  simp only [List.mem_cons, List.not_mem_nil, or_false, not_or] at h
  rw [readFields?]
  cases readFields? anyDocument entries <;> simp [h]

end Fields

/-! ### What is written is read back -/

/-- Events are read back in the order in which they were written. -/
theorem readEvents?_toJson {es : List Event} (h : ∀ e ∈ es, e.Distinct) :
    readEvents? anyDocument (ofValue (.array (es.map Event.toJson))) =
      some (es.map Event.withoutNull) := by
  show (ofItems (es.map Event.toJson)).mapM Event.read? = _
  induction es with
  | nil => rfl
  | cons e rest ih =>
    obtain ⟨he, hrest⟩ := List.forall_mem_cons.mp h
    have hread : Event.read? (ofValue e.toJson) = some e.withoutNull :=
      Event.ofJson?_toJson_of_distinct he
    rw [List.map_cons, ofItems, List.mapM_cons, hread, ih hrest]
    rfl

/-- A script is read back from what it writes. -/
theorem ofJson?_toJson_of_distinct {s : Script} (h : s.Distinct) :
    ofJson? s.toJson = some s.withoutNulls := by
  obtain ⟨startAt, context, events⟩ := s
  have hstart : ∀ p, (Document.string p).optionalText? = some (some p) := fun _ => rfl
  have hcontext : ∀ c, context = some c →
      readContext? anyDocument (ofValue c) = some (contextOf c) := fun c hc => by
    rw [readContext?_any]
    exact readContext?_ofValue (h.context c hc)
  have hevents : readEvents? anyDocument (.array (ofItems (events.map Event.toJson))) =
      some (events.map Event.withoutNull) := readEvents?_toJson h.events
  show read? anyDocument (ofValue (toJson ⟨startAt, context, events⟩)) = _
  cases startAt <;> cases context <;>
    simp [toJson, ofValue, ofMembers, read?, readFields?, hstart, hcontext, hevents, ofFields,
      withoutNulls]

/-! ### What was read is read back -/

/-- The events that are read have no null for a payload. -/
theorem given_payloads_of_readEvents? {d : Document} (hd : d.IsJson) {es : List Event}
    (h : readEvents? anyDocument d = some es) : ∀ e ∈ es, Given e.payload := by
  cases hd with
  | @array items hitems =>
    have hmap : items.mapM Event.read? = some es := h
    clear h
    induction items generalizing es with
    | nil =>
      cases hmap
      exact fun e he => absurd he List.not_mem_nil
    | cons d rest ih =>
      obtain ⟨hd, hrest⟩ := List.forall_mem_cons.mp hitems
      rw [List.mapM_cons] at hmap
      obtain ⟨e, he, hmap⟩ := Option.bind_eq_some_iff.mp hmap
      obtain ⟨es', hes', hmap⟩ := Option.bind_eq_some_iff.mp hmap
      cases hmap
      exact List.forall_mem_cons.mpr ⟨Event.given_payload_of_read? hd he, ih hrest hes'⟩
  | _ => cases h

/-- A script whose fields have been read. -/
theorem isRead_of_readFields? {ms : List (String × Document)} (hms : ∀ m ∈ ms, m.2.IsJson)
    {f : Fields} (h : readFields? anyDocument (fields ms) = some f) : (ofFields f).IsRead := by
  induction ms generalizing f with
  | nil =>
    cases h
    exact isRead_empty
  | cons m rest ih =>
    obtain ⟨name, d⟩ := m
    obtain ⟨hd, hrest⟩ := List.forall_mem_cons.mp hms
    rw [fields_cons] at h
    by_cases hname : name ∈ ["start_at", "context", "events"]
    · simp only [List.mem_cons, List.not_mem_nil, or_false] at hname
      rcases hname with rfl | rfl | rfl
      · rw [readFields?_startAt] at h
        obtain ⟨g, hg, h⟩ := Option.bind_eq_some_iff.mp h
        obtain ⟨startAt, -, h⟩ := Option.bind_eq_some_iff.mp h
        split at h
        · cases h
        · cases h
          exact ⟨(ih hrest hg).context, (ih hrest hg).events⟩
      · rw [readFields?_context] at h
        obtain ⟨g, hg, h⟩ := Option.bind_eq_some_iff.mp h
        obtain ⟨context, hcontext, h⟩ := Option.bind_eq_some_iff.mp h
        split at h
        · cases h
        · cases h
          exact ⟨given_of_readContext? hd hcontext, (ih hrest hg).events⟩
      · rw [readFields?_events] at h
        obtain ⟨g, hg, h⟩ := Option.bind_eq_some_iff.mp h
        obtain ⟨events, hevents, h⟩ := Option.bind_eq_some_iff.mp h
        split at h
        · cases h
        · cases h
          exact ⟨(ih hrest hg).context, given_payloads_of_readEvents? hd hevents⟩
    · rw [readFields?_other _ _ hname] at h
      exact ih hrest h

/-- What is read as a script, from an object or from an array of its fields, carries no nulls. -/
theorem isRead_of_ofJson? {v : Value} {s : Script} (h : ofJson? v = some s) : s.IsRead := by
  have hread : read? anyDocument (ofValue v) = some s := h
  have hjson := Document.isJson_ofValue v
  generalize ofValue v = d at hread hjson
  cases hjson with
  | object hms =>
    rw [read?] at hread
    obtain ⟨f, hf, rfl⟩ := Option.map_eq_some_iff.mp hread
    exact isRead_of_readFields? hms hf
  | @array items hitems =>
    rcases items with _ | ⟨s, _ | ⟨c, _ | ⟨e, _ | ⟨_, rest⟩⟩⟩⟩
    · cases hread
      exact isRead_empty
    · obtain ⟨startAt, -, h⟩ := Option.bind_eq_some_iff.mp hread
      cases h
      exact ⟨given_none, isRead_empty.events⟩
    · obtain ⟨startAt, -, h⟩ := Option.bind_eq_some_iff.mp hread
      obtain ⟨context, hcontext, h⟩ := Option.bind_eq_some_iff.mp h
      cases h
      rw [readContext?_any] at hcontext
      exact ⟨given_of_readContext? (hitems c (by simp)) hcontext, isRead_empty.events⟩
    · obtain ⟨startAt, -, h⟩ := Option.bind_eq_some_iff.mp hread
      obtain ⟨context, hcontext, h⟩ := Option.bind_eq_some_iff.mp h
      obtain ⟨events, hevents, h⟩ := Option.bind_eq_some_iff.mp h
      cases h
      rw [readContext?_any] at hcontext
      exact ⟨given_of_readContext? (hitems c (by simp)) hcontext,
        given_payloads_of_readEvents? (hitems e (by simp)) hevents⟩
    · -- an array has three fields at most
      cases hread
  | _ => cases hread

/-- What was read once is read back as it is. -/
theorem ofJson?_toJson_of_ofJson? {v : Value} {s : Script} (h : ofJson? v = some s) :
    ofJson? s.toJson = some s := by
  have hs := isRead_of_ofJson? h
  rw [ofJson?_toJson_of_distinct hs.distinct, hs.withoutNulls_eq]

/-! ### Round trips -/

/-- Scripts and events go through values and back. What is written is read again, but for explicit
nulls, which become absent. What was read from any value is read again as it is, so that writing it a
second time changes nothing. -/
theorem json_round_trip :
    (∀ s : Script, s.Distinct → ofJson? s.toJson = some s.withoutNulls) ∧
      (∀ v s, ofJson? v = some s → ofJson? s.toJson = some s) ∧
      (∀ v, ((ofJson? v).map toJson).bind (fun w => (ofJson? w).map toJson) =
        (ofJson? v).map toJson) ∧
      (∀ e : Event, e.Distinct → Event.ofJson? e.toJson = some e.withoutNull) ∧
      (∀ v e, Event.ofJson? v = some e → Event.ofJson? e.toJson = some e) ∧
      (∀ v, ((Event.ofJson? v).map Event.toJson).bind
          (fun w => (Event.ofJson? w).map Event.toJson) =
        (Event.ofJson? v).map Event.toJson) := by
  refine ⟨fun s => ofJson?_toJson_of_distinct, fun v s => ofJson?_toJson_of_ofJson?, fun v => ?_,
    fun e => Event.ofJson?_toJson_of_distinct, fun v e => Event.ofJson?_toJson_of_ofJson?,
    fun v => ?_⟩
  · cases h : ofJson? v with
    | none => rfl
    | some s => simp [ofJson?_toJson_of_ofJson? h]
  · cases h : Event.ofJson? v with
    | none => rfl
    | some e => simp [Event.ofJson?_toJson_of_ofJson? h]

/-- An order with a null context and a null payload; a script whose events are spelled in both ways,
with a field that scripts do not have. -/
theorem json_round_trip_order :
    let paid : Event := ⟨"PAY", some (.object [("total", .array [.null, .bool true])])⟩
    let shipped : Event := ⟨"SHIP", some .null⟩
    let written : Value := .object [
      ("note", .null), ("start_at", .null),
      ("events", .array [.string "SHIP",
        .object [("by", .string "post"), ("payload", .null), ("type", .string "PAY")]])]
    let read : Script := ⟨none, none, [⟨"SHIP", none⟩, ⟨"PAY", none⟩]⟩
    ofJson? (toJson ⟨some "active", some .null, [paid, shipped]⟩) =
        some ⟨some "active", none, [paid, ⟨"SHIP", none⟩]⟩ ∧
      ofJson? written = some read ∧ ofJson? read.toJson = some read ∧
      Event.ofJson? shipped.toJson = some ⟨"SHIP", none⟩ ∧
      Event.ofJson? (.string "PAY") = some ⟨"PAY", none⟩ ∧
      Event.ofJson? (Event.toJson ⟨"PAY", none⟩) = some ⟨"PAY", none⟩ := by
  intro paid shipped written read
  obtain ⟨hscript, hread, -, hevent, heventRead, -⟩ := json_round_trip
  have hpaid : paid.Distinct := fun p hp => by
    cases hp
    simp [Value.Distinct, Value.DistinctItems, Value.DistinctMembers]
  have hshipped : shipped.Distinct := fun p hp => by
    cases hp
    trivial
  have horder : Distinct ⟨some "active", some .null, [paid, shipped]⟩ := by
    refine ⟨fun c hc => ?_, ?_⟩
    · cases hc
      trivial
    · simp only [List.forall_mem_cons]
      exact ⟨hpaid, hshipped, fun e he => absurd he List.not_mem_nil⟩
  exact ⟨hscript _ horder, rfl, hread written read rfl, hevent shipped hshipped, rfl,
    heventRead (.string "PAY") ⟨"PAY", none⟩ rfl⟩

end Script

end Statechart
