import Statechart.Proofs.Definition.Folding
import Statechart.Proofs.Json.Reader
import Statechart.Proofs.Machine.Built
/-!
The two ways to build a machine from JSON: from a text, in which a key may be repeated, and from the
value of the text, in which repeated keys are folded. Main statement: what the text gives the value
gives as well; where no key is repeated both give the same; and a text that repeats the id of a state
is refused, so that no state of an accepted text is lost.
-/

namespace Statechart

open Json (Document Key Value fields)

namespace Json.Document

/-! ## States of a document -/

/-- The entries of the states of a node, as the node is written: under a name, or in the second place
of an array. -/
inductive StatesOf : Document → List (Key × Document) → Prop
  | field {entries states : List (Key × Document)} (h : (.text "states", .object states) ∈ entries) :
    StatesOf (.object entries) states
  | place {items : List Document} {states : List (Key × Document)}
    (h : items[1]? = some (.object states)) : StatesOf (.array items) states

/-- A chain of state ids leads from a node, as it is written, down to another one. -/
inductive Reaches : Document → List String → Document → Prop
  | refl (t : Document) : Reaches t [] t
  | step {t c node : Document} {states : List (Key × Document)} {id : String} {ids : List String}
    (hstates : t.StatesOf states) (hc : (.text id, c) ∈ states) (h : Reaches c ids node) :
    Reaches t (id :: ids) node

/-- Some node repeats the id of a state. -/
def RepeatsState (t : Document) : Prop :=
  ∃ ids node states, t.Reaches ids node ∧ node.StatesOf states ∧ ¬ (states.map Prod.fst).Nodup

variable {t c : Document} {states : List (Key × Document)} {key : Key}

theorem IsJson.of_mem (h : (Document.object states).IsJson) (hc : (key, c) ∈ states) : c.IsJson := by
  cases h with
  | @object ms hms =>
    obtain ⟨m, hm, heq⟩ := List.mem_map.mp hc
    cases heq
    exact hms m hm

theorem IsJson.statesOf (h : t.IsJson) (hstates : t.StatesOf states) :
    (Document.object states).IsJson := by
  cases hstates with
  | field hmem => exact h.of_mem hmem
  | place hitem =>
    cases h with
    | array hitems => exact hitems _ (List.mem_of_getElem? hitem)

end Json.Document

namespace Node

/-- The child states of a node are read from the states of a document. -/
def HasStatesOf (n : Node) (t : Document) : Prop :=
  ∀ states, t.StatesOf states → readEntries? states = some n.states

theorem states_of_readFields? {ms : List (String × Document)} {f : Fields} {d : Document}
    (h : readFields? (fields ms) = some f) (hd : ("states", d) ∈ ms) :
    readStates? d = some (ofFields f).states := by
  rw [readFields?_fields] at h
  obtain ⟨initial, -, h⟩ := Option.bind_eq_some_iff.mp h
  obtain ⟨states, hstates, h⟩ := Option.bind_eq_some_iff.mp h
  obtain ⟨on, -, h⟩ := Option.bind_eq_some_iff.mp h
  cases h
  have hmem : ("states", d) ∈ among ["states"] ms := List.mem_filter.mpr ⟨hd, by simp⟩
  obtain ⟨ns, rfl, hread⟩ := exists_of_mem_once? hstates hmem
  exact hread

/-- The child states of a node are those of the document that it is read from. -/
theorem hasStatesOf_of_read? {t : Document} {n : Node} (hjson : t.IsJson) (h : read? t = some n) :
    n.HasStatesOf t := by
  intro states hstates
  cases hstates with
  | @field entries states hmem =>
    cases hjson with
    | @object ms hms =>
      rw [read?] at h
      obtain ⟨f, hf, rfl⟩ := Option.map_eq_some_iff.mp h
      exact states_of_readFields? hf (Json.mem_fields_iff.mp hmem)
  | @place items states hitem =>
    rcases items with _ | ⟨i, _ | ⟨s, _ | ⟨o, _ | ⟨_, _⟩⟩⟩⟩
    · simp at hitem
    · simp at hitem
    · cases hitem
      rw [read?] at h
      obtain ⟨initial, -, h⟩ := Option.bind_eq_some_iff.mp h
      obtain ⟨ns, hns, h⟩ := Option.bind_eq_some_iff.mp h
      cases h
      exact hns
    · cases hitem
      rw [read?] at h
      obtain ⟨initial, -, h⟩ := Option.bind_eq_some_iff.mp h
      obtain ⟨ns, hns, h⟩ := Option.bind_eq_some_iff.mp h
      obtain ⟨on, -, h⟩ := Option.bind_eq_some_iff.mp h
      cases h
      exact hns
    · simp [read?] at h

/-- Every entry of child states is read as a child. -/
theorem exists_of_mem_entries {states : List (Key × Document)} {ns : List (String × Node)}
    (h : readEntries? states = some ns) {id : String} {c : Document}
    (hc : (.text id, c) ∈ states) : ∃ n, (id, n) ∈ ns ∧ read? c = some n := by
  rw [readEntries?_eq_some_iff] at h
  induction h with
  | nil => cases hc
  | @cons e n entries ns hen _ ih =>
    rcases List.mem_cons.mp hc with rfl | hc
    · obtain ⟨id', n⟩ := n
      obtain ⟨hid, hn⟩ := hen
      cases hid
      exact ⟨n, List.mem_cons_self, hn⟩
    · obtain ⟨n, hmem, hn⟩ := ih hc
      exact ⟨n, List.mem_cons_of_mem _ hmem, hn⟩

/-- A chain of state ids in the document is a chain of ids in the node, and the nodes at its end
correspond. -/
theorem exists_reaches_of_reaches {t node : Document} {ids : List String} {n : Node}
    (hjson : t.IsJson) (hn : n.HasStatesOf t) (h : t.Reaches ids node) :
    ∃ n', n.Reaches ids n' ∧ n'.HasStatesOf node := by
  induction h generalizing n with
  | refl t => exact ⟨n, .refl n, hn⟩
  | step hstates hc _ ih =>
    have hchild := (hjson.statesOf hstates).of_mem hc
    obtain ⟨m, hm, hread⟩ := exists_of_mem_entries (hn _ hstates) hc
    obtain ⟨n', hreaches, hn'⟩ := ih hchild (hasStatesOf_of_read? hchild hread)
    exact ⟨n', .step hm hreaches, hn'⟩

end Node

namespace Definition

/-- The states below the root of a definition are those of the document that it is read from. -/
theorem root_hasStatesOf_of_read? {t : Document} {d : Definition} (hjson : t.IsJson)
    (h : read? t = some d) : d.root.HasStatesOf t := by
  intro states hstates
  cases hjson with
  | null | bool _ | number _ | string _ | array _ => cases h
  | @object ms hms =>
    rw [read?, readHeader?_fields] at h
    obtain ⟨header, hheader, h⟩ := Option.bind_eq_some_iff.mp h
    obtain ⟨id, -, hheader⟩ := Option.bind_eq_some_iff.mp hheader
    obtain ⟨context, -, hheader⟩ := Option.bind_eq_some_iff.mp hheader
    cases hheader
    obtain ⟨name, rfl, h⟩ := Option.bind_eq_some_iff.mp h
    obtain ⟨f, hf, h⟩ := Option.bind_eq_some_iff.mp h
    cases h
    cases hstates with
    | field hmem =>
      refine Node.states_of_readFields? hf (List.mem_filter.mpr ⟨Json.mem_fields_iff.mp hmem, ?_⟩)
      simp [ownNames]

end Definition

namespace Machine

/-- The machine of a document, in which a key may be repeated. -/
def ofDocument (words : String) (t : Document) : Except DefinitionError Machine :=
  ofRead words (Definition.read? t)

/-- Two results are the same, but for the words of the parser. -/
inductive Alike : Except DefinitionError Machine → Except DefinitionError Machine → Prop
  | same (result : Except DefinitionError Machine) : Alike result result
  | malformed (words words' : String) :
    Alike (.error (.malformed words)) (.error (.malformed words'))

theorem alike_ofRead (words words' : String) (d? : Option Definition) :
    Alike (ofRead words d?) (ofRead words' d?) := by
  cases d? with
  | none => exact .malformed words words'
  | some d => exact .same (ofDefinition d)

section Document

variable {diag : Diagnostics} {words : String} {t : Document} {m : Machine}

theorem exists_of_ofDocument (h : ofDocument words t = .ok m) :
    ∃ d, Definition.read? t = some d ∧ ofDefinition d = .ok m := by
  rw [ofDocument] at h
  cases hd : Definition.read? t with
  | none =>
    rw [hd] at h
    cases h
  | some d =>
    rw [hd] at h
    exact ⟨d, rfl, h⟩

/-- What a document gives, its value gives as well. -/
theorem ofJson_value_of_ofDocument (hjson : t.IsJson) (h : ofDocument words t = .ok m) :
    ofJson diag t.value = .ok m := by
  obtain ⟨d, hd, hm⟩ := exists_of_ofDocument h
  have hread := Definition.read?_folded hjson hd (realizes_of_ofDefinition hm).shaped
  show ofRead _ (Definition.read? t.folded) = _
  rw [hread]
  exact hm

/-- Where no key is repeated the document and its value give the same machine or the same error, but
for the words of the parser. -/
theorem alike_ofJson_value (hjson : t.IsJson) (hdistinct : t.Distinct) :
    Alike (ofDocument words t) (ofJson diag t.value) := by
  show Alike _ (ofRead _ (Definition.read? t.folded))
  rw [hjson.folded_of_distinct hdistinct]
  exact alike_ofRead words _ _

/-- The nodes of an accepted document are nodes of the definition. -/
theorem exists_node_of_reaches (hjson : t.IsJson) (h : ofDocument words t = .ok m) {ids : List String}
    {node : Document} (hnode : t.Reaches ids node) :
    ∃ d n, m.Realizes d ∧ d.root.Reaches ids n ∧ n.HasStatesOf node := by
  obtain ⟨d, hd, hm⟩ := exists_of_ofDocument h
  obtain ⟨n, hn, hstates⟩ := Node.exists_reaches_of_reaches hjson
    (Definition.root_hasStatesOf_of_read? hjson hd) hnode
  exact ⟨d, n, realizes_of_ofDefinition hm, hn, hstates⟩

/-- A document that repeats the id of a state is refused. -/
theorem ofDocument_of_repeatsState (hjson : t.IsJson) (h : t.RepeatsState) :
    ∃ e, ofDocument words t = .error e := by
  obtain ⟨ids, node, states, hnode, hstates, hrepeats⟩ := h
  cases hread : ofDocument words t with
  | error e => exact ⟨e, rfl⟩
  | ok m =>
    -- the children of an accepted node have different ids, and these are the keys of the states
    obtain ⟨d, n, hm, hn, hentries⟩ := exists_node_of_reaches hjson hread hnode
    have hdistinct := (hm.shaped.root ids n hn).distinct
    exact absurd ((Node.nodup_keys_of_readEntries? (hentries states hstates)).mpr hdistinct) hrepeats

/-- Every state of an accepted document is a state of the machine. -/
theorem exists_state_of_reaches (hjson : t.IsJson) (h : ofDocument words t = .ok m)
    {ids : List String} {node : Document} (hnode : t.Reaches ids node) :
    ∃ q s, m.state? q = some s ∧ s.path = ⟨m.id :: ids⟩ := by
  obtain ⟨d, n, hm, hn, -⟩ := exists_node_of_reaches hjson h hnode
  obtain ⟨q, slot, hslot, hpath, -⟩ := Definition.Reaches.placed ⟨ids, rfl, hn⟩
  obtain ⟨s, hs, hfills⟩ := hm.state_of_placed hslot
  refine ⟨q, s, hs, ?_⟩
  rw [hfills.path, hpath, Machine.id, hm.definition]

/-- How the machine of a document compares with the machine of its value: what the document gives the
value gives as well; where no key is repeated both give the same machine or the same error, but for the
words of the parser; and what repeats the id of a state is refused, so that every state of an accepted
document is a state of the machine. -/
structure StricterThan (diag : Diagnostics) (words : String) (t : Document) (v : Value) :
    Prop where
  accepted : ∀ m, ofDocument words t = .ok m → ofJson diag v = .ok m
  same : t.Distinct → Alike (ofDocument words t) (ofJson diag v)
  refused : t.RepeatsState → ∃ e, ofDocument words t = .error e
  complete : ∀ m, ofDocument words t = .ok m → ∀ ids node, t.Reaches ids node →
    ∃ q s, m.state? q = some s ∧ s.path = ⟨m.id :: ids⟩

theorem stricterThan_of_fold? {v : Value} (hjson : t.IsJson) (hv : t.fold? = some v) :
    StricterThan diag words t v := by
  obtain rfl := Document.value_of_fold? hv
  exact {
    accepted := fun _ h => ofJson_value_of_ofDocument hjson h
    same := alike_ofJson_value hjson
    refused := ofDocument_of_repeatsState hjson
    complete := fun _ h _ _ hnode => exists_state_of_reaches hjson h hnode }

end Document

/-- A text has a value if it is the text of a document of JSON that does not nest too deep. Then it
gives what the document gives; else it is refused. -/
theorem parse_cases (diag : Diagnostics) (text : String) :
    (Value.parse? text = none ∧ parse diag text = .error (.malformed (diag.definition text))) ∨
      ∃ t v, Document.parse? text = some t ∧ t.IsJson ∧ t.fold? = some v ∧
        Value.parse? text = some v ∧ parse diag text = ofDocument (diag.definition text) t := by
  cases ht : Document.parse? text with
  | none =>
    left
    rw [Value.parse?, parse, Definition.parse?, ht]
    exact ⟨rfl, rfl⟩
  | some t =>
    rw [Value.parse?, parse, Definition.parse?, ht, Option.bind_eq_bind, Option.bind_some,
      Option.bind_eq_bind, Option.bind_some]
    by_cases hreadable : t.readable Json.maxLevels = true
    · have hjson := Document.isJson_of_parse? ht hreadable
      rw [if_pos hreadable, if_pos hreadable]
      exact .inr ⟨t, t.value, rfl, hjson, hjson.fold?_eq, hjson.fold?_eq, rfl⟩
    · rw [if_neg hreadable, if_neg hreadable]
      exact .inl ⟨rfl, rfl⟩

/-- A document of JSON is read more strictly than its value, in which the last of several members
under one name counts. A text with a value gives what its document gives; one without is refused. -/
theorem document_stricter_than_value (diag : Diagnostics) :
    (∀ words t v, t.IsJson → t.fold? = some v → StricterThan diag words t v) ∧
      ∀ text,
        (Value.parse? text = none ∧ parse diag text = .error (.malformed (diag.definition text))) ∨
        ∃ t v, Document.parse? text = some t ∧ t.IsJson ∧ t.fold? = some v ∧
          Value.parse? text = some v ∧ parse diag text = ofDocument (diag.definition text) t :=
  ⟨fun _ _ _ hjson hv => stricterThan_of_fold? hjson hv, parse_cases diag⟩

/-- A text that declares one state twice is refused, although its value is accepted; one that gives two
targets to one event is accepted, and so is its value. -/
theorem document_stricter_than_value_order :
    let states :=
      "\x7b\"id\":\"order\",\"initial\":\"open\",\"states\":\x7b\"open\":[],\"open\":[]\x7d\x7d"
    let targets := "\x7b\"id\":\"order\",\"on\":\x7b\"PAY\":\"paid\",\"PAY\":\"order\"\x7d\x7d"
    (∃ e, parse default states = .error e) ∧
      (∃ v m, Value.parse? states = some v ∧ ofJson default v = .ok m) ∧
      ∃ m v, parse default targets = .ok m ∧ Value.parse? targets = some v ∧
        ofJson default v = .ok m := by
  intro states targets
  have hstates : Document.parse? states = some (.object [(.text "id", .string "order"),
      (.text "initial", .string "open"),
      (.text "states", .object [(.text "open", .array []), (.text "open", .array [])])]) := by
    unfold Document.parse?
    simp only [states, String.reduceToList]
    rfl
  have htargets : Document.parse? targets = some (.object [(.text "id", .string "order"),
      (.text "on", .object [(.text "PAY", .string "paid"), (.text "PAY", .string "order")])]) := by
    unfold Document.parse?
    simp only [targets, String.reduceToList]
    rfl
  have hvalue : ∃ v m, Value.parse? states = some v ∧ ofJson default v = .ok m := by
    rw [Value.parse?, hstates]
    exact ⟨_, _, rfl, rfl⟩
  have haccepted : ∃ m, parse default targets = .ok m := by
    rw [parse, Definition.parse?, htargets]
    exact ⟨_, rfl⟩
  obtain ⟨hstricter, hcases⟩ := document_stricter_than_value default
  refine ⟨?_, hvalue, ?_⟩
  · rcases hcases states with ⟨-, hrefused⟩ | ⟨t, v, ht, hjson, hv, -, hparse⟩
    · exact ⟨_, hrefused⟩
    · rw [hstates] at ht
      cases ht
      rw [hparse]
      exact (hstricter _ _ v hjson hv).refused
        ⟨[], _, [(.text "open", .array []), (.text "open", .array [])], .refl _, .field (by simp),
          by simp⟩
  · obtain ⟨m, hm⟩ := haccepted
    rcases hcases targets with ⟨-, hrefused⟩ | ⟨t, v, -, hjson, hv, hvalue, hparse⟩
    · rw [hm] at hrefused
      cases hrefused
    · exact ⟨m, v, hm, hvalue, (hstricter _ t v hjson hv).accepted m (hparse ▸ hm)⟩

end Machine

end Statechart
