import Statechart.Json.Document
import Statechart.Proofs.Json.Folding
/-!
Documents of JSON and their values. Main statements: a document of JSON has a value, in which no name
is repeated, and a document in which no object repeats a key is the one that spells out its value.
-/

namespace Statechart.Json

/-- The entries of an object whose keys are texts. -/
def fields (ms : List (String × Document)) : List (Key × Document) :=
  ms.map fun m => (.text m.1, m.2)

@[simp]
theorem fields_nil : fields [] = [] := rfl

@[simp]
theorem fields_cons (m : String × Document) (ms : List (String × Document)) :
    fields (m :: ms) = (.text m.1, m.2) :: fields ms := rfl

theorem mem_fields_iff {name : String} {d : Document} {ms : List (String × Document)} :
    (.text name, d) ∈ fields ms ↔ (name, d) ∈ ms := by
  simp [fields]

theorem fields_inj {ms ms' : List (String × Document)} : fields ms = fields ms' ↔ ms = ms' := by
  refine ⟨fun h => List.map_inj_right ?_ |>.mp h, congrArg fields⟩
  rintro ⟨name, d⟩ ⟨name', d'⟩ heq
  cases heq
  rfl

theorem nodup_fields_iff {ms : List (String × Document)} :
    ((fields ms).map Prod.fst).Nodup ↔ (ms.map Prod.fst).Nodup := by
  have hkeys : (fields ms).map Prod.fst = (ms.map Prod.fst).map Key.text := by simp [fields]
  rw [hkeys, List.Nodup, List.pairwise_map]
  simp [List.Nodup]

theorem Value.distinctItems_iff {items : List Value} :
    DistinctItems items ↔ ∀ v ∈ items, v.Distinct := by
  induction items with
  | nil => simp [DistinctItems]
  | cons v rest ih => simp [DistinctItems, ih]

theorem Value.distinctMembers_iff {members : List (String × Value)} :
    DistinctMembers members ↔ ∀ m ∈ members, m.2.Distinct := by
  induction members with
  | nil => simp [DistinctMembers]
  | cons m rest ih => simp [DistinctMembers, ih]

namespace Document

theorem ofItems_eq_map (items : List Value) : ofItems items = items.map ofValue := by
  induction items with
  | nil => rfl
  | cons v rest ih => rw [ofItems, ih, List.map_cons]

theorem ofMembers_eq_fields (members : List (String × Value)) :
    ofMembers members = fields (members.map fun m => (m.1, ofValue m.2)) := by
  induction members with
  | nil => rfl
  | cons m rest ih => rw [ofMembers, ih, List.map_cons, fields_cons]

/-! ## Documents of JSON -/

/-- A document of JSON: every leaf has a value and every key is a text. -/
inductive IsJson : Document → Prop
  | null : IsJson .null
  | bool (b : Bool) : IsJson (.bool b)
  | number (n : Number) : IsJson (.number n)
  | string (s : String) : IsJson (.string s)
  | array {items : List Document} (h : ∀ d ∈ items, IsJson d) : IsJson (.array items)
  | object {ms : List (String × Document)} (h : ∀ m ∈ ms, IsJson m.2) :
    IsJson (.object (fields ms))

mutual

/-- The document that spells out a value is one of JSON. -/
theorem isJson_ofValue : ∀ v : Value, (ofValue v).IsJson
  | .null => .null
  | .bool b => .bool b
  | .number n => .number n
  | .string s => .string s
  | .array items => by
    rw [ofValue, ofItems_eq_map]
    exact .array (isJson_ofItems items)
  | .object members => by
    rw [ofValue, ofMembers_eq_fields]
    exact .object (isJson_ofMembers members)

theorem isJson_ofItems : ∀ items : List Value, ∀ d ∈ items.map ofValue, d.IsJson
  | [], _, hd => absurd hd List.not_mem_nil
  | v :: rest, d, hd => by
    rcases List.mem_cons.mp hd with rfl | hd
    · exact isJson_ofValue v
    · exact isJson_ofItems rest d hd

theorem isJson_ofMembers : ∀ members : List (String × Value),
    ∀ m ∈ members.map (fun m => (m.1, ofValue m.2)), m.2.IsJson
  | [], _, hm => absurd hm List.not_mem_nil
  | (name, v) :: rest, m, hm => by
    rcases List.mem_cons.mp hm with rfl | hm
    · exact isJson_ofValue v
    · exact isJson_ofMembers rest m hm

end

/-- A document is another one or stands inside it. -/
inductive Within : Document → Document → Prop
  | refl (t : Document) : Within t t
  | item {t d : Document} {items : List Document} (hd : d ∈ items) (h : Within t d) :
    Within t (.array items)
  | entry {t d : Document} {key : Key} {entries : List (Key × Document)}
    (hd : (key, d) ∈ entries) (h : Within t d) : Within t (.object entries)

/-- No object of the document repeats a key. -/
def Distinct (t : Document) : Prop :=
  ∀ entries, Within (.object entries) t → (entries.map Prod.fst).Nodup

/-! ## Values -/

/-- The value of a document, null where there is none. -/
def value (t : Document) : Value := t.fold?.getD .null

/-- The document that spells out the value of a document: repeated keys are folded. -/
def folded (t : Document) : Document := ofValue t.value

theorem value_of_fold? {t : Document} {v : Value} (h : t.fold? = some v) : t.value = v := by
  rw [value, h, Option.getD_some]

theorem foldItems?_of_forall {items : List Document}
    (h : ∀ d ∈ items, d.fold? = some d.value) : foldItems? items = some (items.map value) := by
  induction items with
  | nil => rfl
  | cons d rest ih =>
    rw [foldItems?, h d List.mem_cons_self, ih fun d hd => h d (List.mem_cons_of_mem _ hd)]
    rfl

theorem foldEntries?_of_forall {ms : List (String × Document)}
    (h : ∀ m ∈ ms, m.2.fold? = some m.2.value) :
    foldEntries? (fields ms) = some (ms.map fun m => (m.1, m.2.value)) := by
  induction ms with
  | nil => rfl
  | cons m rest ih =>
    rw [fields_cons, foldEntries?, h m List.mem_cons_self,
      ih fun m hm => h m (List.mem_cons_of_mem _ hm)]
    rfl

namespace IsJson

/-- A document of JSON has a value. -/
theorem fold?_eq {t : Document} (h : t.IsJson) : t.fold? = some t.value := by
  induction h with
  | null | bool _ | number _ | string _ => rfl
  | @array items _ ih =>
    have hfold : (Document.array items).fold? = some (.array (items.map Document.value)) := by
      rw [fold?, foldItems?_of_forall ih]
      rfl
    rw [value_of_fold? hfold, hfold]
  | @object ms _ ih =>
    have hfold : (Document.object (fields ms)).fold? =
        some (.object (foldMembers (ms.map fun m => (m.1, m.2.value)))) := by
      rw [fold?, foldEntries?_of_forall ih]
      rfl
    rw [value_of_fold? hfold, hfold]

theorem value_array {items : List Document} (h : ∀ d ∈ items, d.IsJson) :
    (Document.array items).value = .array (items.map Document.value) := by
  refine value_of_fold? ?_
  rw [fold?, foldItems?_of_forall fun d hd => (h d hd).fold?_eq]
  rfl

theorem value_object {ms : List (String × Document)} (h : ∀ m ∈ ms, m.2.IsJson) :
    (Document.object (fields ms)).value =
      .object (foldMembers (ms.map fun m => (m.1, m.2.value))) := by
  refine value_of_fold? ?_
  rw [fold?, foldEntries?_of_forall fun m hm => (h m hm).fold?_eq]
  rfl

/-- No name is repeated in the value of a document. -/
theorem distinct_value {t : Document} (h : t.IsJson) : t.value.Distinct := by
  induction h with
  | null | bool _ | number _ | string _ => exact trivial
  | array h ih =>
    rw [value_array h, Value.Distinct, Value.distinctItems_iff]
    intro v hv
    obtain ⟨d, hd, rfl⟩ := List.mem_map.mp hv
    exact ih d hd
  | object h ih =>
    rw [value_object h, Value.Distinct, Value.distinctMembers_iff]
    refine ⟨nodup_foldMembers _, ?_⟩
    intro w hw
    obtain ⟨m, hm, rfl⟩ := List.mem_map.mp (mem_of_mem_foldMembers hw)
    exact ih m hm

/-! ## Folding -/

theorem folded_array {items : List Document} (h : ∀ d ∈ items, d.IsJson) :
    (Document.array items).folded = .array (items.map Document.folded) := by
  rw [Document.folded, value_array h, ofValue, ofItems_eq_map, List.map_map]
  rfl

theorem folded_object {ms : List (String × Document)} (h : ∀ m ∈ ms, m.2.IsJson) :
    (Document.object (fields ms)).folded =
      .object (fields (foldMembers (ms.map fun m => (m.1, m.2.folded)))) := by
  rw [Document.folded, value_object h, ofValue, ofMembers_eq_fields, map_foldMembers, List.map_map]
  rfl

/-- A document in which no object repeats a key is the one that spells out its value. -/
theorem folded_of_distinct {t : Document} (h : t.IsJson) (hdistinct : t.Distinct) :
    t.folded = t := by
  induction h with
  | null | bool _ | number _ | string _ => rfl
  | @array items h ih =>
    have hitems : items.map Document.folded = items.map id :=
      List.map_congr_left fun d hd => ih d hd fun es hes => hdistinct es (.item hd hes)
    rw [folded_array h, hitems, List.map_id]
  | @object ms h ih =>
    have hms : ms.map (fun m => (m.1, m.2.folded)) = ms.map id :=
      List.map_congr_left fun m hm => Prod.ext rfl
        (ih m hm fun es hes => hdistinct es (.entry (mem_fields_iff.mpr hm) hes))
    have hnodup : (ms.map Prod.fst).Nodup := nodup_fields_iff.mp (hdistinct _ (.refl _))
    rw [folded_object h, hms, List.map_id, foldMembers_of_nodup hnodup]

end IsJson

end Document

end Statechart.Json
