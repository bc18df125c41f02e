import Statechart.Proofs.Definition.Reading
import Statechart.Proofs.Definition.Reach
/-!
Reading a definition before and after its repeated keys are folded. A field that is given once is
found again, what is given twice under other names is passed over, and of an event table folding keeps
the targets that count; only in an object of states does folding lose something. Main statement: what
is read from a document of JSON and is well-shaped is read from its folded form as well.
-/

namespace Statechart

open Json (Document foldMembers fields fields_inj)

/-- The members of an object after folding. -/
def foldedMembers (ms : List (String × Document)) : List (String × Document) :=
  foldMembers (ms.map fun m => (m.1, m.2.folded))

theorem among_foldedMembers (names : List String) (ms : List (String × Document)) :
    among names (foldedMembers ms) = foldedMembers (among names ms) := by
  rw [foldedMembers, among, Json.filter_foldMembers fun name => decide (name ∈ names),
    List.filter_map]
  rfl

theorem beside_foldedMembers (names : List String) (ms : List (String × Document)) :
    beside names (foldedMembers ms) = foldedMembers (beside names ms) := by
  rw [foldedMembers, beside, Json.filter_foldMembers fun name => !decide (name ∈ names),
    List.filter_map]
  rfl

/-- A field is found again after folding if what it gives is read from the folded entry. -/
theorem once?_foldedMembers {β : Type} {read : Document → Option β} {names : List String}
    {ms : List (String × Document)} {x : Option β} (h : once? read (among names ms) = some x)
    (hread : ∀ m ∈ ms, ∀ y, x = some y → read m.2 = some y → read m.2.folded = some y) :
    once? read (among names (foldedMembers ms)) = some x := by
  rw [among_foldedMembers]
  cases x with
  | none =>
    rw [once?_eq_some_none_iff.mp h]
    rfl
  | some y =>
    obtain ⟨name, d, hmembers, hd⟩ := once?_eq_some_some_iff.mp h
    have hmem : (name, d) ∈ among names ms := by simp [hmembers]
    have hfolded := hread _ (List.mem_filter.mp hmem).1 y rfl hd
    rw [hmembers]
    exact once?_eq_some_some_iff.mpr ⟨name, d.folded, rfl, hfolded⟩

variable {t : Document}

/-- A reader that takes nothing but leaves reads the same after folding. -/
theorem read_folded {β : Type} {read : Document → Option β}
    (harray : ∀ items, read (.array items) = none) (hobject : ∀ es, read (.object es) = none)
    (h : t.IsJson) : read t.folded = read t := by
  cases h with
  | null | bool _ | number _ | string _ => rfl
  | array h => rw [Document.IsJson.folded_array h, harray, harray]
  | object h => rw [Document.IsJson.folded_object h, hobject, hobject]

theorem optionalText?_folded (h : t.IsJson) : t.folded.optionalText? = t.optionalText? :=
  read_folded (fun _ => rfl) (fun _ => rfl) h

theorem text?_folded (h : t.IsJson) : t.folded.text? = t.text? :=
  read_folded (fun _ => rfl) (fun _ => rfl) h

namespace Node

/-- Of two targets for an event the last one counts, as in folding. -/
theorem readOn?_folded (h : t.IsJson) {on : Table String} (hon : readOn? t = some on) :
    readOn? t.folded = some on := by
  cases h with
  | null | bool _ | number _ | string _ | array _ => cases hon
  | @object ms hms =>
    obtain ⟨ts, hts, rfl⟩ := Option.map_eq_some_iff.mp hon
    rw [readTargets?_eq_some_iff, fields_inj] at hts
    subst hts
    have hfolded : foldedMembers (ts.map fun t => (t.1, .string t.2)) =
        (foldMembers ts).map fun t => (t.1, Document.string t.2) := by
      rw [foldedMembers, List.map_map, Json.map_foldMembers]
      rfl
    rw [Document.IsJson.folded_object hms]
    show (readTargets? (fields (foldedMembers _))).map Table.ofList = _
    rw [hfolded, readTargets?_eq_some_iff.mpr rfl, Option.map_some, Table.ofList_foldMembers]

/-- A node that is read from the document is read from its folded form, if it is well-shaped. -/
def KeepsNode (t : Document) : Prop :=
  ∀ n : Node, read? t = some n → n.Shaped → read? t.folded = some n

/-- So are child states, if they have different ids. -/
def KeepsStates (t : Document) : Prop :=
  ∀ ns : List (String × Node), readStates? t = some ns → (ns.map Prod.fst).Nodup →
    (∀ n ∈ ns, n.2.Shaped) → readStates? t.folded = some ns

theorem readFields?_foldedMembers {ms : List (String × Document)} {f : Fields}
    (hjson : ∀ m ∈ ms, m.2.IsJson) (hkeeps : ∀ m ∈ ms, KeepsStates m.2)
    (h : readFields? (fields ms) = some f) (hshaped : (ofFields f).Shaped) :
    readFields? (fields (foldedMembers ms)) = some f := by
  rw [readFields?_fields] at h
  obtain ⟨initial, hinitial, h⟩ := Option.bind_eq_some_iff.mp h
  obtain ⟨states, hstates, h⟩ := Option.bind_eq_some_iff.mp h
  obtain ⟨on, hon, h⟩ := Option.bind_eq_some_iff.mp h
  cases h
  obtain ⟨hsound, hchildren⟩ := shaped_iff.mp hshaped
  have hinitial' := once?_foldedMembers hinitial fun m hm y _ hy =>
    (optionalText?_folded (hjson m hm)).trans hy
  have hstates' := once?_foldedMembers hstates fun m hm y hy hread => by
    subst hy
    exact hkeeps m hm y hread hsound.distinct hchildren
  have hon' := once?_foldedMembers hon fun m hm y _ hy => readOn?_folded (hjson m hm) hy
  rw [readFields?_fields, hinitial', hstates', hon']
  rfl

theorem readEntries?_folded {ms : List (String × Document)} {ns : List (String × Node)}
    (hkeeps : ∀ m ∈ ms, KeepsNode m.2) (h : readEntries? (fields ms) = some ns)
    (hshaped : ∀ n ∈ ns, n.2.Shaped) :
    readEntries? (fields (ms.map fun m => (m.1, m.2.folded))) = some ns := by
  rw [readEntries?_eq_some_iff, fields, List.forall₂_map_left_iff] at h
  rw [readEntries?_eq_some_iff, fields, List.map_map, List.forall₂_map_left_iff]
  induction h with
  | nil => exact .nil
  | cons hmn _ ih =>
    obtain ⟨hm, hms⟩ := List.forall_mem_cons.mp hkeeps
    obtain ⟨hn, hns⟩ := List.forall_mem_cons.mp hshaped
    exact .cons ⟨hmn.1, hm _ hmn.2 hn⟩ (ih hms hns)

theorem KeepsStates.object {ms : List (String × Document)} (hjson : ∀ m ∈ ms, m.2.IsJson)
    (hkeeps : ∀ m ∈ ms, KeepsNode m.2) : KeepsStates (.object (fields ms)) := by
  intro ns hns hnodup hshaped
  have hentries := readEntries?_folded hkeeps hns hshaped
  -- no id is repeated, so that folding keeps every entry
  have hnames : ((ms.map fun m => (m.1, m.2.folded)).map Prod.fst).Nodup := by
    rw [List.map_map]
    exact Json.nodup_fields_iff.mp ((nodup_keys_of_readEntries? hns).mpr hnodup)
  rw [Document.IsJson.folded_object hjson, Json.foldMembers_of_nodup hnames]
  exact hentries

theorem KeepsNode.object {ms : List (String × Document)} (hjson : ∀ m ∈ ms, m.2.IsJson)
    (hkeeps : ∀ m ∈ ms, KeepsStates m.2) : KeepsNode (.object (fields ms)) := by
  intro n hn hshaped
  rw [read?] at hn
  obtain ⟨f, hf, rfl⟩ := Option.map_eq_some_iff.mp hn
  have hfields := readFields?_foldedMembers hjson hkeeps hf hshaped
  rw [Document.IsJson.folded_object hjson, read?]
  show (readFields? (fields (foldedMembers ms))).map ofFields = _
  rw [hfields, Option.map_some]

theorem KeepsNode.array {items : List Document} (hjson : ∀ d ∈ items, d.IsJson)
    (hkeeps : ∀ d ∈ items, KeepsStates d) : KeepsNode (.array items) := by
  intro n hn hshaped
  rw [Document.IsJson.folded_array hjson]
  match items with
  | [] => exact hn
  | [i] =>
    rw [List.map_singleton, read?, optionalText?_folded (hjson i (by simp))]
    exact hn
  | [i, s] =>
    rw [read?] at hn
    obtain ⟨initial, hinitial, hn⟩ := Option.bind_eq_some_iff.mp hn
    obtain ⟨states, hstates, hn⟩ := Option.bind_eq_some_iff.mp hn
    cases hn
    obtain ⟨hsound, hchildren⟩ := shaped_iff.mp hshaped
    have hfolded := hkeeps s (by simp) states hstates hsound.distinct hchildren
    rw [List.map_cons, List.map_singleton, read?, optionalText?_folded (hjson i (by simp)), hinitial,
      hfolded]
    rfl
  | [i, s, o] =>
    rw [read?] at hn
    obtain ⟨initial, hinitial, hn⟩ := Option.bind_eq_some_iff.mp hn
    obtain ⟨states, hstates, hn⟩ := Option.bind_eq_some_iff.mp hn
    obtain ⟨on, hon, hn⟩ := Option.bind_eq_some_iff.mp hn
    cases hn
    obtain ⟨hsound, hchildren⟩ := shaped_iff.mp hshaped
    have hfolded := hkeeps s (by simp) states hstates hsound.distinct hchildren
    rw [List.map_cons, List.map_cons, List.map_singleton, read?,
      optionalText?_folded (hjson i (by simp)), hinitial, hfolded,
      readOn?_folded (hjson o (by simp)) hon]
    rfl
  | _ :: _ :: _ :: _ :: _ => simp [read?] at hn

/-- Folding keeps the nodes and the child states that are read from a document of JSON. -/
theorem keeps_of_isJson (h : t.IsJson) : KeepsNode t ∧ KeepsStates t := by
  induction h with
  | null | bool _ | number _ | string _ =>
    exact ⟨fun n hn => by simp [read?] at hn, fun ns hns => by simp [readStates?] at hns⟩
  | array hjson ih =>
    exact ⟨.array hjson fun d hd => (ih d hd).2, fun ns hns => by simp [readStates?] at hns⟩
  | object hjson ih =>
    exact ⟨.object hjson fun m hm => (ih m hm).2, .object hjson fun m hm => (ih m hm).1⟩

end Node

namespace Definition

theorem readContext?_of_isJson (h : t.IsJson) : readContext? t = some (contextOf t.value) := by
  cases h with
  | null | bool _ | number _ | string _ => rfl
  | array h =>
    have hfold := (Document.IsJson.array h).fold?_eq
    rw [Document.IsJson.value_array h] at hfold ⊢
    simp [readContext?, contextOf, hfold]
  | object h =>
    have hfold := (Document.IsJson.object h).fold?_eq
    rw [Document.IsJson.value_object h] at hfold ⊢
    simp [readContext?, contextOf, hfold]

theorem readContext?_folded (h : t.IsJson) : readContext? t.folded = readContext? t := by
  rw [readContext?_of_isJson h]
  exact readContext?_ofValue h.distinct_value

/-- A well-shaped definition that is read from a document of JSON is read from its folded form. -/
theorem read?_folded (h : t.IsJson) {d : Definition} (hd : read? t = some d) (hshaped : d.Shaped) :
    read? t.folded = some d := by
  cases h with
  | null | bool _ | number _ | string _ | array _ => cases hd
  | @object ms hms =>
    rw [read?, readHeader?_fields] at hd
    obtain ⟨header, hheader, hd⟩ := Option.bind_eq_some_iff.mp hd
    obtain ⟨id, hid, hheader⟩ := Option.bind_eq_some_iff.mp hheader
    obtain ⟨context, hcontext, hheader⟩ := Option.bind_eq_some_iff.mp hheader
    cases hheader
    obtain ⟨name, rfl, hd⟩ := Option.bind_eq_some_iff.mp hd
    obtain ⟨f, hf, hd⟩ := Option.bind_eq_some_iff.mp hd
    cases hd
    -- the header is found again, and so is the rest, from which the root node is read
    have hid' := once?_foldedMembers hid fun m hm y _ hy => (text?_folded (hms m hm)).trans hy
    have hcontext' := once?_foldedMembers hcontext fun m hm y _ hy =>
      (readContext?_folded (hms m hm)).trans hy
    have hrest : ∀ m ∈ beside ownNames ms, m ∈ ms := fun m hm => (List.mem_filter.mp hm).1
    have hf' := Node.readFields?_foldedMembers (fun m hm => hms m (hrest m hm))
      (fun m hm => (Node.keeps_of_isJson (hms m (hrest m hm))).2) hf hshaped.root
    rw [Document.IsJson.folded_object hms, read?]
    show (readHeader? (fields (foldedMembers ms))).bind ofHeader? = _
    rw [readHeader?_fields, hid', hcontext', beside_foldedMembers]
    simp [ofHeader?, hf']

end Definition

end Statechart
