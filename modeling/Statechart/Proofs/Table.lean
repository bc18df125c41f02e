import Statechart.Table
/-!
Looking up names in lists of entries and in tables. Where no name occurs twice, what a look-up finds
under a name is exactly what is entered under it.
-/

namespace Statechart.Table

variable {α : Type}

theorem mem_of_find? {es : List (String × α)} {k : String} {v : α} (h : find? k es = some v) :
    (k, v) ∈ es := by
  induction es with
  | nil => cases h
  | cons e rest ih =>
    obtain ⟨k', v'⟩ := e
    rw [find?] at h
    by_cases hk : k = k'
    · rw [if_pos hk] at h
      cases h
      rw [hk]
      exact List.mem_cons_self
    · rw [if_neg hk] at h
      exact List.mem_cons_of_mem _ (ih h)

theorem find?_of_mem {es : List (String × α)} (hnd : (es.map Prod.fst).Nodup) {k : String} {v : α}
    (h : (k, v) ∈ es) : find? k es = some v := by
  induction es with
  | nil => cases h
  | cons e rest ih =>
    obtain ⟨k', v'⟩ := e
    rw [List.map_cons, List.nodup_cons] at hnd
    rw [find?]
    rcases List.mem_cons.mp h with heq | hrest
    · cases heq
      rw [if_pos rfl]
    · -- the first entry has another name, or the name would occur twice
      have hne : k ≠ k' := by
        intro heq
        have hk : k ∈ rest.map Prod.fst := List.mem_map.mpr ⟨(k, v), hrest, rfl⟩
        exact hnd.1 (heq ▸ hk)
      rw [if_neg hne]
      exact ih hnd.2 hrest

theorem find?_eq_some_iff {es : List (String × α)} (hnd : (es.map Prod.fst).Nodup) {k : String}
    {v : α} : find? k es = some v ↔ (k, v) ∈ es :=
  ⟨mem_of_find?, find?_of_mem hnd⟩

theorem find?_eq_none_iff {es : List (String × α)} {k : String} :
    find? k es = none ↔ k ∉ es.map Prod.fst := by
  induction es with
  | nil => simp [find?]
  | cons e rest ih =>
    obtain ⟨k', v'⟩ := e
    rw [find?, List.map_cons, List.mem_cons]
    by_cases hk : k = k'
    · simp [hk]
    · rw [if_neg hk, ih]
      simp [hk]

/-- The names of a table are different, since they increase. -/
theorem nodup_keys (t : Table α) : (t.entries.map Prod.fst).Nodup := by
  refine t.sorted.imp ?_
  intro a b hlt heq
  rw [heq] at hlt
  exact String.lt_irrefl b hlt

theorem get?_eq_some_iff {t : Table α} {k : String} {v : α} :
    t.get? k = some v ↔ (k, v) ∈ t.entries :=
  find?_eq_some_iff t.nodup_keys

theorem mem_keys_iff {t : Table α} {k : String} : k ∈ t.keys ↔ (t.get? k).isSome = true := by
  rw [← Option.ne_none_iff_isSome, get?, ne_eq, find?_eq_none_iff, Classical.not_not]
  rfl

/-- Tables with the same values under all names are the same. -/
theorem ext_get? {t u : Table α} (h : ∀ k, t.get? k = u.get? k) : t = u := by
  have hmem : ∀ e, e ∈ t.entries ↔ e ∈ u.entries := by
    intro e
    rw [← get?_eq_some_iff, ← get?_eq_some_iff, h]
  have hnodup : ∀ t : Table α, t.entries.Nodup := fun t =>
    (List.pairwise_map.mp t.nodup_keys).imp fun hne heq => hne (congrArg Prod.fst heq)
  have hperm := (List.perm_ext_iff_of_nodup (hnodup t) (hnodup u)).mpr hmem
  -- the names increase on both sides, which leaves one order for the entries
  refine Table.ext (List.Perm.eq_of_pairwise ?_ (List.pairwise_map.mp t.sorted)
    (List.pairwise_map.mp u.sorted) hperm)
  intro a b _ _ hab hba
  exact absurd (String.lt_trans hab hba) (String.lt_irrefl _)

/-- The table with every value replaced. -/
def map {β : Type} (f : α → β) (t : Table α) : Table β :=
  ⟨t.entries.map fun e => (e.1, f e.2), by simpa [Function.comp_def] using t.sorted⟩

@[simp]
theorem keys_map {β : Type} (f : α → β) (t : Table α) : (t.map f).keys = t.keys := by
  simp [keys, map]

@[simp]
theorem get?_map {β : Type} (f : α → β) (t : Table α) (k : String) :
    (t.map f).get? k = (t.get? k).map f := by
  have hfind : ∀ es : List (String × α),
      find? k (es.map fun e => (e.1, f e.2)) = (find? k es).map f := by
    intro es
    induction es with
    | nil => rfl
    | cons e rest ih =>
      rw [List.map_cons, find?, find?, ih]
      split <;> rfl
  exact hfind t.entries

/-- Tables that have values under the same names have the same names. -/
theorem keys_congr {β : Type} {t : Table α} {u : Table β}
    (h : ∀ k, (t.get? k).isSome = (u.get? k).isSome) : t.keys = u.keys := by
  have hunits : t.map (fun _ => ()) = u.map fun _ => () := by
    refine ext_get? fun k => ?_
    have hk := h k
    rw [get?_map, get?_map]
    cases ht : t.get? k <;> cases hu : u.get? k <;> simp [ht, hu] at hk ⊢
  rw [← keys_map (fun _ => ()) t, hunits, keys_map]

end Statechart.Table
