import Mathlib.Data.List.Forall2
import Statechart.Definition.Format
import Statechart.Proofs.Json.Document
/-!
How the written form of a definition is read. The entries of an object are read name by name: a field
is what the entries under its name give, of which there is one at most. Main statements: the fields of
a node and the header of a definition in terms of the entries under their names.
-/

namespace Statechart

open Json (Document Key Value fields fields_cons)

/-- The members under some names. -/
def among {α : Type} (names : List String) (ms : List (String × α)) : List (String × α) :=
  ms.filter fun m => decide (m.1 ∈ names)

/-- The members under other names. -/
def beside {α : Type} (names : List String) (ms : List (String × α)) : List (String × α) :=
  ms.filter fun m => !decide (m.1 ∈ names)

theorem among_cons {α : Type} (names : List String) (name : String) (x : α)
    (ms : List (String × α)) : among names ((name, x) :: ms) =
      if name ∈ names then (name, x) :: among names ms else among names ms := by
  by_cases hname : name ∈ names <;> simp [among, hname]

theorem beside_cons {α : Type} (names : List String) (name : String) (x : α)
    (ms : List (String × α)) : beside names ((name, x) :: ms) =
      if name ∈ names then beside names ms else (name, x) :: beside names ms := by
  by_cases hname : name ∈ names <;> simp [beside, hname]

/-- What the entries of a field give: each of them is read, and there is one at most. -/
def once? {β : Type} (read : Document → Option β) : List (String × Document) → Option (Option β)
  | [] => some none
  | m :: rest => do
    let earlier ← once? read rest
    let y ← read m.2
    if earlier.isSome then none else return some y

section Once

variable {β : Type} {read : Document → Option β} {ms : List (String × Document)}

theorem once?_eq_some_none_iff : once? read ms = some none ↔ ms = [] := by
  cases ms with
  | nil => simp [once?]
  | cons m rest =>
    rw [once?]
    cases once? read rest with
    | none => simp
    | some x => cases read m.2 <;> cases x <;> simp

theorem once?_eq_some_some_iff {y : β} :
    once? read ms = some (some y) ↔ ∃ name d, ms = [(name, d)] ∧ read d = some y := by
  cases ms with
  | nil => simp [once?]
  | cons m rest =>
    obtain ⟨name, d⟩ := m
    constructor
    · intro h
      -- nothing was read from the entries behind the first one, so there are none
      have hrest : once? read rest = some none := by
        rw [once?] at h
        cases hx : once? read rest with
        | none => simp [hx] at h
        | some x => cases x with
          | none => rfl
          | some x => cases hy : read d <;> simp [hx, hy] at h
      have hnil := once?_eq_some_none_iff.mp hrest
      subst hnil
      refine ⟨name, d, rfl, ?_⟩
      cases hy : read d with
      | none => simp [once?, hy] at h
      | some z => simpa [once?, hy] using h
    · rintro ⟨name', d', heq, hread⟩
      cases heq
      simp [once?, hread]

/-- If there is an entry, the field is what it gives. -/
theorem exists_of_mem_once? {x : Option β} (h : once? read ms = some x) {m : String × Document}
    (hm : m ∈ ms) : ∃ y, x = some y ∧ read m.2 = some y := by
  cases x with
  | none =>
    rw [once?_eq_some_none_iff.mp h] at hm
    cases hm
  | some y =>
    obtain ⟨name, d, hms, hd⟩ := once?_eq_some_some_iff.mp h
    rw [hms, List.mem_singleton] at hm
    exact ⟨y, rfl, hm ▸ hd⟩

end Once

namespace Node

/-! ## Nodes -/

theorem field?_text (name : String) : field? (.text name) =
    some (if name = "initial" then .initial else if name = "states" then .states
      else if name = "on" then .on else .unknown) := by
  unfold field?
  split <;> simp_all

/-- The fields of a node are read from the entries under their names. -/
theorem readFields?_fields (ms : List (String × Document)) :
    readFields? (fields ms) = do
      let initial ← once? Document.optionalText? (among ["initial"] ms)
      let states ← once? readStates? (among ["states"] ms)
      let on ← once? readOn? (among ["on"] ms)
      return ⟨initial, states, on⟩ := by
  induction ms with
  | nil => rfl
  | cons m rest ih =>
    obtain ⟨name, d⟩ := m
    rw [fields_cons, readFields?, field?_text, ih, among_cons, among_cons, among_cons]
    -- the entry adds to its own field only, if it has one; the other two are read from the rest
    generalize among ["initial"] rest = initials
    generalize among ["states"] rest = states
    generalize among ["on"] rest = ons
    by_cases hinitial : name = "initial"
    · simp only [hinitial, List.mem_singleton, String.reduceEq, ↓reduceIte, once?]
      cases once? Document.optionalText? initials <;> cases once? readStates? states <;>
        cases once? readOn? ons <;> cases d.optionalText? <;> simp
      split <;> rfl
    by_cases hstates : name = "states"
    · simp only [hstates, List.mem_singleton, String.reduceEq, ↓reduceIte, once?]
      cases once? Document.optionalText? initials <;> cases once? readStates? states <;>
        cases once? readOn? ons <;> cases readStates? d <;> simp
      split <;> rfl
    by_cases hon : name = "on"
    · simp only [hon, List.mem_singleton, String.reduceEq, ↓reduceIte, once?]
      cases once? Document.optionalText? initials <;> cases once? readStates? states <;>
        cases once? readOn? ons <;> cases readOn? d <;> simp
      split <;> rfl
    · simp [hinitial, hstates, hon]

/-- Child states are read entry by entry, each under its own id. -/
theorem readEntries?_eq_some_iff {entries : List (Key × Document)} {ns : List (String × Node)} :
    readEntries? entries = some ns ↔
      List.Forall₂ (fun e n => e.1 = .text n.1 ∧ read? e.2 = some n.2) entries ns := by
  induction entries generalizing ns with
  | nil => simp [readEntries?, eq_comm]
  | cons e rest ih =>
    obtain ⟨key, d⟩ := e
    cases key with
    | text id =>
      rw [readEntries?, List.forall₂_cons_left_iff]
      simp only [← ih]
      cases read? d <;> cases readEntries? rest <;> simp [eq_comm]
    | position _ | other =>
      rw [readEntries?]
      · simp [List.forall₂_cons_left_iff]
      · simp

/-- The ids of child states are the keys that they are read under. -/
theorem nodup_keys_of_readEntries? {entries : List (Key × Document)} {ns : List (String × Node)}
    (h : readEntries? entries = some ns) :
    (entries.map Prod.fst).Nodup ↔ (ns.map Prod.fst).Nodup := by
  have hkeys : entries.map Prod.fst = (ns.map Prod.fst).map Key.text := by
    rw [readEntries?_eq_some_iff] at h
    induction h with
    | nil => rfl
    | cons hen _ ih => rw [List.map_cons, List.map_cons, List.map_cons, ih, hen.1]
  rw [hkeys, List.Nodup, List.pairwise_map]
  simp [List.Nodup]

/-- An event table gives every event a text. -/
theorem readTargets?_eq_some_iff {entries : List (Key × Document)} {ts : List (String × String)} :
    readTargets? entries = some ts ↔ entries = fields (ts.map fun t => (t.1, .string t.2)) := by
  fun_induction readTargets? entries generalizing ts with
  | case1 => cases ts <;> simp
  | case2 event target rest ih =>
    cases ts with
    | nil => cases readTargets? rest <;> simp
    | cons t ts =>
      simp only [List.map_cons, fields_cons, List.cons.injEq, ← ih]
      cases readTargets? rest <;> simp [Prod.ext_iff, and_assoc]
  | case3 e rest hother =>
    cases ts with
    | nil => simp
    | cons t ts =>
      simp only [reduceCtorEq, List.map_cons, fields_cons, List.cons.injEq, false_iff, not_and]
      intro heq
      exact (hother t.1 t.2 heq).elim

end Node

namespace Definition

/-! ## Definitions -/

/-- The names of the entries that belong to the definition itself. -/
def ownNames : List String := ["id", "key", "context"]

/-- The declared context; null stands for no context. -/
def readContext? : Document → Option (Option Value)
  | .null => some none
  | d => d.fold?.map some

/-- A declared context as it is read back: null stands for no context. -/
def contextOf : Value → Option Value
  | .null => none
  | c => some c

theorem readContext?_ofValue {c : Value} (h : c.Distinct) :
    readContext? (Document.ofValue c) = some (contextOf c) := by
  have hfold := Document.fold?_ofValue h
  cases c with
  | null => rfl
  | _ =>
    simp only [Document.ofValue] at hfold
    simp [Document.ofValue, readContext?, contextOf, hfold]

theorem readHeader?_id {name : String} (h : name = "id" ∨ name = "key") (d : Document)
    (entries : List (Key × Document)) : readHeader? ((.text name, d) :: entries) = do
      let header ← readHeader? entries
      let id ← d.text?
      if header.id.isSome then none else return { header with id := some id } := by
  rcases h with rfl | rfl <;> rfl

theorem readHeader?_context (d : Document) (entries : List (Key × Document)) :
    readHeader? ((.text "context", d) :: entries) = do
      let header ← readHeader? entries
      let context ← readContext? d
      if header.context.isSome then none else return { header with context := some context } := by
  cases d <;> rfl

theorem readHeader?_other {name : String} (h : name ∉ ownNames) (d : Document)
    (entries : List (Key × Document)) : readHeader? ((.text name, d) :: entries) = do
      let header ← readHeader? entries
      return { header with rest := (.text name, d) :: header.rest } := by
  simp only [ownNames, List.mem_cons, List.not_mem_nil, or_false, not_or] at h
  rw [readHeader?]
  simp [h]

/-- The header of a definition is read from the entries under the names of its own; the rest belongs
to the root node. -/
theorem readHeader?_fields (ms : List (String × Document)) :
    readHeader? (fields ms) = do
      let id ← once? Document.text? (among ["id", "key"] ms)
      let context ← once? readContext? (among ["context"] ms)
      return ⟨id, context, fields (beside ownNames ms)⟩ := by
  induction ms with
  | nil => rfl
  | cons m rest ih =>
    obtain ⟨name, d⟩ := m
    rw [fields_cons, among_cons, among_cons, beside_cons]
    by_cases hid : name = "id" ∨ name = "key"
    · have hown : name ∈ ownNames := by rcases hid with rfl | rfl <;> simp [ownNames]
      have hcontext : name ∉ ["context"] := by rcases hid with rfl | rfl <;> simp
      have hids : name ∈ ["id", "key"] := by simpa using hid
      rw [readHeader?_id hid, ih]
      simp only [hown, hcontext, hids, ↓reduceIte, once?]
      cases once? Document.text? (among ["id", "key"] rest) <;>
        cases once? readContext? (among ["context"] rest) <;> cases d.text? <;> simp
      split <;> rfl
    by_cases hcontext : name = "context"
    · subst hcontext
      rw [readHeader?_context, ih]
      simp only [ownNames, List.mem_cons, String.reduceEq, List.not_mem_nil, or_false, or_true,
        ↓reduceIte, once?]
      cases once? Document.text? (among ["id", "key"] rest) <;>
        cases once? readContext? (among ["context"] rest) <;> cases readContext? d <;> simp
      split <;> rfl
    · have hown : name ∉ ownNames := by
        rw [not_or] at hid
        simp [ownNames, hid, hcontext]
      have hids : name ∉ ["id", "key"] := by simpa using hid
      have hcontexts : name ∉ ["context"] := by simpa using hcontext
      rw [readHeader?_other hown, ih, if_neg hids, if_neg hcontexts, if_neg hown]
      cases once? Document.text? (among ["id", "key"] rest) <;>
        cases once? readContext? (among ["context"] rest) <;> rfl

end Definition

end Statechart
