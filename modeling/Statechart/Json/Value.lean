import Statechart.Json.Number
/-!
JSON values. The members of an object keep the order in which they were put; putting a member under a
name that is there already replaces its value and keeps its place. Main statements: the names after a
`put`, and that a list of members with different names is its own folding.
-/

namespace Statechart.Json

/-- A JSON value. -/
inductive Value
  | null
  | bool (b : Bool)
  | number (n : Number)
  | string (s : String)
  | array (items : List Value)
  | object (members : List (String × Value))
deriving Inhabited

/-- Puts a member: a name that is there keeps its place and gets the new value. -/
def putMember {α : Type} (name : String) (value : α) : List (String × α) → List (String × α)
  | [] => [(name, value)]
  | (k, v) :: rest =>
    if k = name then (name, value) :: rest else (k, v) :: putMember name value rest

/-- The last one of a list in front of the others. -/
def lastFirst {α : Type} (xs : List α) : List α :=
  match xs.getLast? with
  | some last => last :: xs.dropLast
  | none => []

/-- Takes the member of a name out, and puts the last member in its place. -/
def removeMember {α : Type} (name : String) : List (String × α) → List (String × α)
  | [] => []
  | m :: rest => if m.1 = name then lastFirst rest else m :: removeMember name rest

/-- Puts the members of a list, one after the other. -/
def foldMembers {α : Type} (members : List (String × α)) : List (String × α) :=
  members.foldl (fun acc m => putMember m.1 m.2 acc) []

theorem mem_map_fst_putMember {α : Type} {name k : String} {value : α} {ms : List (String × α)} :
    k ∈ (putMember name value ms).map Prod.fst ↔ k = name ∨ k ∈ ms.map Prod.fst := by
  induction ms with
  | nil => simp [putMember]
  | cons m rest ih =>
    unfold putMember
    split
    · next h => simp [h]
    · simp only [List.map_cons, List.mem_cons, ih]
      grind

theorem putMember_of_notMem {α : Type} {name : String} {value : α} {ms : List (String × α)}
    (h : name ∉ ms.map Prod.fst) : putMember name value ms = ms ++ [(name, value)] := by
  induction ms with
  | nil => rfl
  | cons m rest ih =>
    simp only [List.map_cons, List.mem_cons, not_or] at h
    simp [putMember, Ne.symm h.1, ih h.2]

theorem foldl_putMember_of_nodup {α : Type} {acc ms : List (String × α)}
    (h : ((acc ++ ms).map Prod.fst).Nodup) :
    ms.foldl (fun acc m => putMember m.1 m.2 acc) acc = acc ++ ms := by
  induction ms generalizing acc with
  | nil => simp
  | cons m rest ih =>
    have hm : m.1 ∉ acc.map Prod.fst := by
      intro hm
      simp only [List.map_append, List.map_cons, List.nodup_append] at h
      exact h.2.2 _ hm _ (by simp) rfl
    rw [List.foldl_cons, putMember_of_notMem hm, ih (by simpa using h)]
    simp

/-- Members with different names stay as they are. -/
theorem foldMembers_of_nodup {α : Type} {ms : List (String × α)}
    (h : (ms.map Prod.fst).Nodup) : foldMembers ms = ms :=
  foldl_putMember_of_nodup h

namespace Value

mutual

/-- No object of the value has two members of one name. -/
def Distinct : Value → Prop
  | .null => True
  | .bool _ => True
  | .number _ => True
  | .string _ => True
  | .array items => DistinctItems items
  | .object members => (members.map Prod.fst).Nodup ∧ DistinctMembers members

def DistinctItems : List Value → Prop
  | [] => True
  | v :: rest => v.Distinct ∧ DistinctItems rest

def DistinctMembers : List (String × Value) → Prop
  | [] => True
  | (_, v) :: rest => v.Distinct ∧ DistinctMembers rest

end

end Value

end Statechart.Json
