/-!
A finite table from names to values, kept in increasing order of the names. Names are ordered by
code point, which is also the order of their UTF-8 bytes. Main statements: what a look-up finds after
an insertion, and that two tables with the same entries are the same table.
-/

namespace Statechart

/-- Entries in strictly increasing order of their names. -/
@[ext]
structure Table (α : Type) where
  entries : List (String × α)
  sorted : (entries.map Prod.fst).Pairwise (· < ·)

namespace Table

variable {α : Type}

instance [DecidableEq α] : DecidableEq (Table α) := fun a b =>
  decidable_of_iff (a.entries = b.entries) ⟨fun h => by cases a; cases b; simp_all, fun h => h ▸ rfl⟩

instance [Repr α] : Repr (Table α) := ⟨fun t n => reprPrec t.entries n⟩

def empty : Table α := ⟨[], by simp⟩

instance : Inhabited (Table α) := ⟨empty⟩

def isEmpty (t : Table α) : Bool := t.entries.isEmpty

/-- The names, in increasing order. -/
def keys (t : Table α) : List String := t.entries.map Prod.fst

/-- The first value under a name of a list of entries. -/
def find? (name : String) : List (String × α) → Option α
  | [] => none
  | (k, v) :: rest => if name = k then some v else find? name rest

/-- The value under a name. -/
def get? (t : Table α) (name : String) : Option α := find? name t.entries

/-- Puts a value under a name of a sorted list of entries. -/
def put (name : String) (value : α) : List (String × α) → List (String × α)
  | [] => [(name, value)]
  | (k, v) :: rest =>
    if name < k then (name, value) :: (k, v) :: rest
    else if name = k then (name, value) :: rest
    else (k, v) :: put name value rest

theorem mem_map_fst_put {name k : String} {value : α} {es : List (String × α)} :
    k ∈ (put name value es).map Prod.fst ↔ k = name ∨ k ∈ es.map Prod.fst := by
  induction es with
  | nil => simp [put]
  | cons e rest ih =>
    obtain ⟨k', v'⟩ := e
    unfold put
    split
    · simp
    · split
      · next h => subst h; simp
      · simp only [List.map_cons, List.mem_cons, ih]
        grind

theorem pairwise_put {name : String} {value : α} {es : List (String × α)}
    (h : (es.map Prod.fst).Pairwise (· < ·)) :
    ((put name value es).map Prod.fst).Pairwise (· < ·) := by
  induction es with
  | nil => simp [put]
  | cons e rest ih =>
    obtain ⟨k', v'⟩ := e
    simp only [List.map_cons, List.pairwise_cons] at h
    unfold put
    split
    · next hlt =>
      simp only [List.map_cons, List.pairwise_cons, List.mem_cons]
      refine ⟨?_, h⟩
      rintro a (rfl | ha)
      · exact hlt
      · exact String.lt_trans hlt (h.1 a ha)
    · split
      · next heq => subst heq; simpa using h
      · next hlt hne =>
        simp only [List.map_cons, List.pairwise_cons]
        refine ⟨fun a ha => ?_, ih h.2⟩
        rcases mem_map_fst_put.1 ha with rfl | ha
        · rcases String.le_total a k' with hle | hle
          · exact absurd (String.le_antisymm hle (String.not_lt.1 hlt)) hne
          · exact String.not_le.1 fun h' => hne (String.le_antisymm h' hle)
        · exact h.1 a ha

/-- Puts a value under a name; a value already there is replaced. -/
def insert (t : Table α) (name : String) (value : α) : Table α :=
  ⟨put name value t.entries, pairwise_put t.sorted⟩

/-- The table of a list of entries, where the last value under a name wins. -/
def ofList (es : List (String × α)) : Table α :=
  es.foldl (fun t e => t.insert e.1 e.2) empty

theorem find?_put (name k : String) (value : α) (es : List (String × α)) :
    find? k (put name value es) = if k = name then some value else find? k es := by
  induction es with
  | nil => simp [put, find?]
  | cons e rest ih =>
    obtain ⟨k', v'⟩ := e
    unfold put
    split
    · simp [find?]
    · split <;> grind [find?]

@[simp]
theorem get?_insert (t : Table α) (name k : String) (value : α) :
    (t.insert name value).get? k = if k = name then some value else t.get? k :=
  find?_put name k value t.entries

@[simp]
theorem get?_empty (k : String) : (empty : Table α).get? k = none := rfl

end Table

end Statechart
