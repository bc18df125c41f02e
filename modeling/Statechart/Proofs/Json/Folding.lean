import Mathlib.Data.List.Induction
import Statechart.Json.Value
import Statechart.Proofs.Table
/-!
Folding repeated names. Of several members under one name, folding keeps the place of the first and
the value of the last. Main statements: what folding keeps under some of the names does not depend on
the members under the others, and a table of a list of entries has the values that folding keeps.
-/

namespace Statechart.Json

/-! ## Members -/

section Members

variable {α β : Type}

theorem foldMembers_concat (ms : List (String × α)) (m : String × α) :
    foldMembers (ms ++ [m]) = putMember m.1 m.2 (foldMembers ms) := by
  rw [foldMembers, List.foldl_append]
  rfl

theorem nodup_putMember {name : String} {value : α} {ms : List (String × α)}
    (h : (ms.map Prod.fst).Nodup) : ((putMember name value ms).map Prod.fst).Nodup := by
  induction ms with
  | nil => simp [putMember]
  | cons m rest ih =>
    rw [List.map_cons, List.nodup_cons] at h
    rw [putMember]
    split
    · next hname =>
      rw [List.map_cons, List.nodup_cons]
      exact ⟨hname ▸ h.1, h.2⟩
    · next hname =>
      rw [List.map_cons, List.nodup_cons]
      refine ⟨?_, ih h.2⟩
      intro hmem
      rcases mem_map_fst_putMember.mp hmem with heq | hmem
      · exact hname heq
      · exact h.1 hmem

/-- The names of a folded list are different. -/
theorem nodup_foldMembers (ms : List (String × α)) : ((foldMembers ms).map Prod.fst).Nodup := by
  induction ms using List.reverseRecOn with
  | nil => exact List.nodup_nil
  | append_singleton ms m ih =>
    rw [foldMembers_concat]
    exact nodup_putMember ih

theorem foldMembers_foldMembers (ms : List (String × α)) :
    foldMembers (foldMembers ms) = foldMembers ms :=
  foldMembers_of_nodup (nodup_foldMembers ms)

theorem mem_putMember {name : String} {value : α} {ms : List (String × α)} {m : String × α}
    (h : m ∈ putMember name value ms) : m = (name, value) ∨ m ∈ ms := by
  induction ms with
  | nil => exact .inl (List.mem_singleton.mp h)
  | cons m' rest ih =>
    rw [putMember] at h
    split at h
    · rcases List.mem_cons.mp h with rfl | h
      · exact .inl rfl
      · exact .inr (List.mem_cons_of_mem _ h)
    · rcases List.mem_cons.mp h with rfl | h
      · exact .inr List.mem_cons_self
      · exact (ih h).imp_right (List.mem_cons_of_mem _)

/-- Folding makes no new members. -/
theorem mem_of_mem_foldMembers {ms : List (String × α)} {m : String × α}
    (h : m ∈ foldMembers ms) : m ∈ ms := by
  induction ms using List.reverseRecOn with
  | nil => exact absurd h List.not_mem_nil
  | append_singleton ms m' ih =>
    rw [foldMembers_concat] at h
    rw [List.mem_append, List.mem_singleton]
    exact (mem_putMember h).symm.imp_left ih

theorem filter_putMember (p : String → Bool) (name : String) (value : α)
    (ms : List (String × α)) :
    (putMember name value ms).filter (fun m => p m.1) =
      if p name then putMember name value (ms.filter fun m => p m.1)
      else ms.filter fun m => p m.1 := by
  induction ms with
  | nil => by_cases hp : p name <;> simp [putMember, hp]
  | cons m rest ih =>
    obtain ⟨k, v⟩ := m
    by_cases hk : k = name
    · subst hk
      by_cases hp : p k <;> simp [putMember, hp]
    · by_cases hp : p k <;> by_cases hp' : p name <;> simp [putMember, hk, hp, hp', ih]

/-- Folding keeps the members under some of the names apart from the others. -/
theorem filter_foldMembers (p : String → Bool) (ms : List (String × α)) :
    (foldMembers ms).filter (fun m => p m.1) = foldMembers (ms.filter fun m => p m.1) := by
  induction ms using List.reverseRecOn with
  | nil => rfl
  | append_singleton ms m ih =>
    rw [foldMembers_concat, filter_putMember, ih, List.filter_append]
    by_cases hp : p m.1
    · have hm : [m].filter (fun m => p m.1) = [m] := List.filter_cons_of_pos hp
      rw [if_pos hp, hm, foldMembers_concat]
    · have hm : [m].filter (fun m => p m.1) = [] := List.filter_cons_of_neg hp
      rw [if_neg hp, hm, List.append_nil]

theorem map_putMember (f : α → β) (name : String) (value : α) (ms : List (String × α)) :
    (putMember name value ms).map (fun m => (m.1, f m.2)) =
      putMember name (f value) (ms.map fun m => (m.1, f m.2)) := by
  induction ms with
  | nil => rfl
  | cons m rest ih =>
    rw [putMember, List.map_cons, putMember]
    split
    · rfl
    · rw [List.map_cons, ih]

/-- Folding does not look at the values. -/
theorem map_foldMembers (f : α → β) (ms : List (String × α)) :
    (foldMembers ms).map (fun m => (m.1, f m.2)) =
      foldMembers (ms.map fun m => (m.1, f m.2)) := by
  induction ms using List.reverseRecOn with
  | nil => rfl
  | append_singleton ms m ih =>
    rw [foldMembers_concat, map_putMember, ih, List.map_append, List.map_singleton,
      foldMembers_concat]

theorem find?_putMember (name k : String) (value : α) (ms : List (String × α)) :
    Table.find? k (putMember name value ms) =
      if k = name then some value else Table.find? k ms := by
  induction ms with
  | nil => rfl
  | cons m rest ih =>
    rw [putMember]
    split
    · next hname => by_cases hk : k = name <;> simp [Table.find?, hname, hk]
    · next hname =>
      rw [Table.find?, ih, Table.find?]
      by_cases hk : k = m.1
      · rw [if_pos hk, if_neg fun heq => hname (hk.symm.trans heq), if_pos hk]
      · rw [if_neg hk, if_neg hk]

end Members

end Statechart.Json

namespace Statechart.Table

open Json (foldMembers)

variable {α : Type}

/-- A table has the values that folding keeps: the last one under each name. -/
theorem get?_ofList (es : List (String × α)) (k : String) :
    (ofList es).get? k = find? k (foldMembers es) := by
  induction es using List.reverseRecOn with
  | nil => rfl
  | append_singleton es e ih =>
    rw [ofList, List.foldl_append, List.foldl_cons, List.foldl_nil, get?_insert,
      Json.foldMembers_concat, Json.find?_putMember, ← ih]
    rfl

theorem ofList_foldMembers (es : List (String × α)) : ofList (foldMembers es) = ofList es := by
  refine ext_get? fun k => ?_
  rw [get?_ofList, get?_ofList, Json.foldMembers_foldMembers]

/-- A table is the table of its entries. -/
theorem ofList_entries (t : Table α) : ofList t.entries = t := by
  refine ext_get? fun k => ?_
  rw [get?_ofList, Json.foldMembers_of_nodup t.nodup_keys]
  rfl

end Statechart.Table
