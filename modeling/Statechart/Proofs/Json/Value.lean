import Statechart.Proofs.Json.Document
/-!
The parts of a value: its numbers, its texts, which are its strings and the names of its members, and
how deep it is. Main statements: changing the texts changes neither the numbers nor the depth, a value
whose texts stay the same stays the same, folding makes no new texts, and a value is readable if as
many levels are allowed as it has.
-/

namespace Statechart.Json

namespace Value

theorem sizeOf_lt_of_member {members : List (String × Value)} {m : String × Value}
    (h : m ∈ members) : sizeOf m.2 < 1 + sizeOf members := by
  obtain ⟨name, v⟩ := m
  have hmember : sizeOf (name, v) < sizeOf members := List.sizeOf_lt_of_mem h
  rw [Prod.mk.sizeOf_spec] at hmember
  show sizeOf v < 1 + sizeOf members
  omega

/-- Induction on a value: what holds of the items holds of an array, what holds of the values of the
members holds of an object. -/
@[elab_as_elim]
theorem inductionOnParts {motive : Value → Prop} (v : Value) (null : motive .null)
    (bool : ∀ b, motive (.bool b)) (number : ∀ n, motive (.number n))
    (string : ∀ s, motive (.string s))
    (array : ∀ items, (∀ v ∈ items, motive v) → motive (.array items))
    (object : ∀ members, (∀ m ∈ members, motive m.2) → motive (.object members)) : motive v := by
  cases v with
  | null => exact null
  | bool b => exact bool b
  | number n => exact number n
  | string s => exact string s
  | array items =>
    exact array items fun v hv => inductionOnParts v null bool number string array object
  | object members =>
    exact object members fun m hm =>
      have := sizeOf_lt_of_member hm
      inductionOnParts m.2 null bool number string array object

/-! ## Numbers -/

mutual

/-- Every number of the value is an integer. -/
def Integral : Value → Prop
  | .number (.integer _ _) => True
  | .number (.double _) => False
  | .array items => IntegralItems items
  | .object members => IntegralMembers members
  | _ => True

def IntegralItems : List Value → Prop
  | [] => True
  | v :: rest => v.Integral ∧ IntegralItems rest

def IntegralMembers : List (String × Value) → Prop
  | [] => True
  | (_, v) :: rest => v.Integral ∧ IntegralMembers rest

end

theorem integral_array {items : List Value} :
    (array items).Integral ↔ ∀ v ∈ items, v.Integral := by
  rw [Integral]
  induction items with
  | nil => simp [IntegralItems]
  | cons v rest ih => simp [IntegralItems, ih]

theorem integral_object {members : List (String × Value)} :
    (object members).Integral ↔ ∀ m ∈ members, m.2.Integral := by
  rw [Integral]
  induction members with
  | nil => simp [IntegralMembers]
  | cons m rest ih => simp [IntegralMembers, ih]

/-! ## Depth -/

mutual

/-- How many arrays and objects of a value stand inside each other. -/
def depth : Value → Nat
  | .array items => depthOfItems items + 1
  | .object members => depthOfMembers members + 1
  | _ => 0

def depthOfItems : List Value → Nat
  | [] => 0
  | v :: rest => max v.depth (depthOfItems rest)

def depthOfMembers : List (String × Value) → Nat
  | [] => 0
  | (_, v) :: rest => max v.depth (depthOfMembers rest)

end

/-! ## Texts -/

mutual

/-- The texts of a value: its strings, and the names of its members. -/
def texts : Value → List String
  | .string s => [s]
  | .array items => textsOfItems items
  | .object members => textsOfMembers members
  | _ => []

def textsOfItems : List Value → List String
  | [] => []
  | v :: rest => v.texts ++ textsOfItems rest

def textsOfMembers : List (String × Value) → List String
  | [] => []
  | (name, v) :: rest => name :: (v.texts ++ textsOfMembers rest)

end

mutual

/-- A value with every text changed. -/
def mapTexts (f : String → String) : Value → Value
  | .string s => .string (f s)
  | .array items => .array (mapTextsOfItems f items)
  | .object members => .object (mapTextsOfMembers f members)
  | v => v

def mapTextsOfItems (f : String → String) : List Value → List Value
  | [] => []
  | v :: rest => v.mapTexts f :: mapTextsOfItems f rest

def mapTextsOfMembers (f : String → String) : List (String × Value) → List (String × Value)
  | [] => []
  | (name, v) :: rest => (f name, v.mapTexts f) :: mapTextsOfMembers f rest

end

theorem mem_texts_array {t : String} {items : List Value} :
    t ∈ (array items).texts ↔ ∃ v ∈ items, t ∈ v.texts := by
  rw [texts]
  induction items with
  | nil => simp [textsOfItems]
  | cons v rest ih => simp [textsOfItems, ih]

theorem mem_texts_object {t : String} {members : List (String × Value)} :
    t ∈ (object members).texts ↔ ∃ m ∈ members, t = m.1 ∨ t ∈ m.2.texts := by
  rw [texts]
  induction members with
  | nil => simp [textsOfMembers]
  | cons m rest ih => simp [textsOfMembers, ih, or_assoc]

section MapTexts

variable (f : String → String)

theorem mapTexts_array (items : List Value) :
    (array items).mapTexts f = .array (items.map (mapTexts f)) := by
  rw [mapTexts]
  congr 1
  induction items with
  | nil => rfl
  | cons v rest ih => rw [mapTextsOfItems, ih, List.map_cons]

theorem mapTexts_object (members : List (String × Value)) :
    (object members).mapTexts f = .object (members.map fun m => (f m.1, m.2.mapTexts f)) := by
  rw [mapTexts]
  congr 1
  induction members with
  | nil => rfl
  | cons m rest ih => rw [mapTextsOfMembers, ih, List.map_cons]

/-- Changing the texts leaves the numbers as they are. -/
theorem Integral.mapTexts {v : Value} (h : v.Integral) : (v.mapTexts f).Integral := by
  induction v using inductionOnParts with
  | array items ih =>
    rw [integral_array] at h
    rw [mapTexts_array, integral_array]
    exact List.forall_mem_map.mpr fun v hv => ih v hv (h v hv)
  | object members ih =>
    rw [integral_object] at h
    rw [mapTexts_object, integral_object]
    exact List.forall_mem_map.mpr fun m hm => ih m hm (h m hm)
  | _ => exact h

/-- Changing the texts leaves a value as deep as it was. -/
theorem depth_mapTexts (v : Value) : (v.mapTexts f).depth = v.depth := by
  induction v using inductionOnParts with
  | array items ih =>
    rw [mapTexts_array, depth, depth]
    congr 1
    induction items with
    | nil => rfl
    | cons v rest ihrest =>
      obtain ⟨hv, hrest⟩ := List.forall_mem_cons.mp ih
      rw [List.map_cons, depthOfItems, depthOfItems, hv, ihrest hrest]
  | object members ih =>
    rw [mapTexts_object, depth, depth]
    congr 1
    induction members with
    | nil => rfl
    | cons m rest ihrest =>
      obtain ⟨hm, hrest⟩ := List.forall_mem_cons.mp ih
      rw [List.map_cons, depthOfMembers, depthOfMembers, hm, ihrest hrest]
  | _ => rfl

/-- The texts of a value whose texts have been changed. -/
theorem exists_of_mem_texts_mapTexts {v : Value} {t : String} (h : t ∈ (v.mapTexts f).texts) :
    ∃ s ∈ v.texts, f s = t := by
  induction v using inductionOnParts with
  | string s => exact ⟨s, List.mem_singleton_self s, (List.mem_singleton.mp h).symm⟩
  | array items ih =>
    rw [mapTexts_array, mem_texts_array] at h
    obtain ⟨w, hw, ht⟩ := h
    obtain ⟨v, hv, rfl⟩ := List.mem_map.mp hw
    obtain ⟨s, hs, rfl⟩ := ih v hv ht
    exact ⟨s, mem_texts_array.mpr ⟨v, hv, hs⟩, rfl⟩
  | object members ih =>
    rw [mapTexts_object, mem_texts_object] at h
    obtain ⟨w, hw, ht⟩ := h
    obtain ⟨m, hm, rfl⟩ := List.mem_map.mp hw
    rcases ht with rfl | ht
    · exact ⟨m.1, mem_texts_object.mpr ⟨m, hm, .inl rfl⟩, rfl⟩
    · obtain ⟨s, hs, rfl⟩ := ih m hm ht
      exact ⟨s, mem_texts_object.mpr ⟨m, hm, .inr hs⟩, rfl⟩
  | _ => cases h

/-- A value whose texts stay the same stays the same. -/
theorem mapTexts_eq_self {v : Value} (h : ∀ t ∈ v.texts, f t = t) : v.mapTexts f = v := by
  induction v using inductionOnParts with
  | string s => rw [Value.mapTexts, h s (List.mem_singleton_self s)]
  | array items ih =>
    have hitems : items.map (Value.mapTexts f) = items.map id :=
      List.map_congr_left fun v hv => ih v hv fun t ht => h t (mem_texts_array.mpr ⟨v, hv, ht⟩)
    rw [mapTexts_array, hitems, List.map_id]
  | object members ih =>
    have hmembers : members.map (fun m => (f m.1, m.2.mapTexts f)) = members.map id :=
      List.map_congr_left fun m hm => Prod.ext
        (h m.1 (mem_texts_object.mpr ⟨m, hm, .inl rfl⟩))
        (ih m hm fun t ht => h t (mem_texts_object.mpr ⟨m, hm, .inr ht⟩))
    rw [mapTexts_object, hmembers, List.map_id]
  | _ => rfl

end MapTexts

end Value

namespace Document

/-! ## Documents of values -/

theorem ofValue_array (items : List Value) :
    ofValue (.array items) = .array (items.map ofValue) := by
  rw [ofValue, ofItems_eq_map]

theorem ofValue_object (members : List (String × Value)) :
    ofValue (.object members) = .object (fields (members.map fun m => (m.1, ofValue m.2))) := by
  rw [ofValue, ofMembers_eq_fields]

/-- A value is readable if as many levels are allowed as it has. -/
theorem readable_ofValue_iff {v : Value} {levels : Nat} :
    (ofValue v).readable levels = true ↔ v.depth ≤ levels := by
  induction v using Value.inductionOnParts generalizing levels with
  | array items ih =>
    rw [ofValue_array, Value.depth]
    cases levels with
    | zero => simp [readable]
    | succ levels =>
      rw [readable, Nat.add_le_add_iff_right]
      induction items with
      | nil => simp [readableItems, Value.depthOfItems]
      | cons v rest ihrest =>
        obtain ⟨hv, hrest⟩ := List.forall_mem_cons.mp ih
        rw [List.map_cons, readableItems, Value.depthOfItems, Bool.and_eq_true, hv, ihrest hrest,
          Nat.max_le]
  | object members ih =>
    rw [ofValue_object, Value.depth]
    cases levels with
    | zero => simp [readable]
    | succ levels =>
      rw [readable, Nat.add_le_add_iff_right]
      induction members with
      | nil => simp [readableEntries, Value.depthOfMembers]
      | cons m rest ihrest =>
        obtain ⟨hm, hrest⟩ := List.forall_mem_cons.mp ih
        rw [List.map_cons, fields_cons, readableEntries, Value.depthOfMembers, Bool.and_eq_true, hm,
          ihrest hrest, Nat.max_le]
  | _ => simp [ofValue, readable, Value.depth]

/-- The value of a document that spells out a value has no new texts. -/
theorem mem_texts_of_mem_texts_folded {v : Value} {t : String}
    (h : t ∈ (ofValue v).value.texts) : t ∈ v.texts := by
  induction v using Value.inductionOnParts with
  | array items ih =>
    rw [ofValue_array, IsJson.value_array (isJson_ofItems items), Value.mem_texts_array] at h
    obtain ⟨w, hw, ht⟩ := h
    rw [List.map_map] at hw
    obtain ⟨v, hv, rfl⟩ := List.mem_map.mp hw
    exact Value.mem_texts_array.mpr ⟨v, hv, ih v hv ht⟩
  | object members ih =>
    rw [ofValue_object, IsJson.value_object (isJson_ofMembers members), Value.mem_texts_object] at h
    obtain ⟨w, hw, ht⟩ := h
    have hw := mem_of_mem_foldMembers hw
    rw [List.map_map] at hw
    obtain ⟨m, hm, rfl⟩ := List.mem_map.mp hw
    exact Value.mem_texts_object.mpr ⟨m, hm, ht.imp_right (ih m hm)⟩
  | _ => exact h

end Document

end Statechart.Json
