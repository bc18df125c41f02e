import Statechart.StatePath
import Statechart.Definition.Check
/-!
Paths and their texts. Ids that are fit for a state contain no dot, so the text of a path says what
its segments are: two paths of such ids are shown alike only if they are the same path, and cutting
the text at its dots gives the segments back.
-/

namespace Statechart

/-! ## Ids -/

/-- An id that a state may have. -/
def ValidId (id : String) : Prop := id ≠ "" ∧ '.' ∉ id.toList ∧ id.toList.head? ≠ some '#'

instance (id : String) : Decidable (ValidId id) := inferInstanceAs (Decidable (_ ∧ _ ∧ _))

theorem checkId_eq_ok_iff {id : String} : checkId id = .ok () ↔ ValidId id := by
  unfold checkId idFault? ValidId
  by_cases hempty : id = ""
  · simp [hempty]
  · by_cases hdot : '.' ∈ id.toList
    · simp [hempty, hdot]
    · by_cases hhash : id.toList.head? = some '#' <;> simp [hempty, hdot, hhash]

/-! ## A leading mark -/

theorem stripHash_of_head?_ne {s : String} (h : s.toList.head? ≠ some '#') : stripHash s = s := by
  unfold stripHash
  split
  · next rest heq =>
    rw [heq] at h
    exact absurd rfl h
  · rfl

theorem stripHash_hash (s : String) : stripHash ("#" ++ s) = s := by
  have hchars : ("#" ++ s).toList = '#' :: s.toList := by simp
  simp only [stripHash, hchars, String.ofList_toList]

/-! ## Cutting and joining -/

theorem intercalate_splitDots (s : String) : ".".intercalate (splitDots s) = s := by
  apply String.toList_inj.mp
  rw [String.toList_intercalate, splitDots, List.map_map]
  have hid : String.toList ∘ String.ofList = id := by
    funext cs
    simp
  rw [hid, List.map_id]
  exact List.intercalate_splitOn '.'

/-- Ids without dots are the pieces of their joined text. -/
theorem splitDots_intercalate {ids : List String} (hdots : ∀ id ∈ ids, '.' ∉ id.toList)
    (hne : ids ≠ []) : splitDots (".".intercalate ids) = ids := by
  have hpieces : ∀ cs ∈ ids.map String.toList, '.' ∉ cs := by
    intro cs hcs
    obtain ⟨id, hid, rfl⟩ := List.mem_map.mp hcs
    exact hdots id hid
  -- on characters, where cutting undoes joining as long as no piece contains the separator
  have hsplit : ((".".intercalate ids).toList).splitOn '.' = ids.map String.toList := by
    rw [String.toList_intercalate]
    exact List.splitOn_intercalate '.' hpieces (by simpa using hne)
  rw [splitDots, hsplit, List.map_map]
  have hid : String.ofList ∘ String.toList = id := by
    funext s
    simp
  rw [hid, List.map_id]

/-- The first piece of a text ends at its first dot. -/
theorem splitDots_append_dot {id : String} (hdot : '.' ∉ id.toList) (s : String) :
    splitDots (id ++ "." ++ s) = id :: splitDots s := by
  -- the dot that was put in is the first one
  have hchars : (id ++ "." ++ s).toList = id.toList ++ '.' :: s.toList := by simp
  rw [splitDots, hchars, List.splitOn_append_cons_self, List.splitOn_eq_singleton hdot,
    List.singleton_append, List.map_cons, String.ofList_toList]
  rfl

namespace StatePath

/-- The text of a path starts like its first id. -/
theorem head?_display {id : String} (hid : id ≠ "") (rest : List String) :
    (display ⟨id :: rest⟩).toList.head? = id.toList.head? := by
  have hne : id.toList ≠ [] := by
    intro hnil
    exact hid (String.toList_eq_nil_iff.mp hnil)
  obtain ⟨c, cs, hcs⟩ := List.exists_cons_of_ne_nil hne
  rw [display, String.toList_intercalate, List.map_cons, hcs]
  cases rest <;> rfl

/-- The text of a path whose first id may be the id of a state has no mark in front. -/
theorem stripHash_display {id : String} (hid : ValidId id) (rest : List String) :
    stripHash (display ⟨id :: rest⟩) = display ⟨id :: rest⟩ := by
  apply stripHash_of_head?_ne
  rw [head?_display hid.1]
  exact hid.2.2

/-- Paths of ids without dots are told apart by their texts. -/
theorem display_inj {p q : StatePath} (hp : ∀ id ∈ p.segments, '.' ∉ id.toList)
    (hq : ∀ id ∈ q.segments, '.' ∉ id.toList) (hp₀ : p.segments ≠ []) (hq₀ : q.segments ≠ []) :
    p.display = q.display ↔ p = q := by
  constructor
  · intro h
    have hs : splitDots p.display = splitDots q.display := by rw [h]
    rw [display, display, splitDots_intercalate hp hp₀, splitDots_intercalate hq hq₀] at hs
    exact StatePath.ext hs
  · intro h
    rw [h]

/-- A text is read as the path of its pieces unless one of them is empty. -/
theorem parse?_eq_some_iff {s : String} {p : StatePath} :
    parse? s = some p ↔ "" ∉ splitDots (stripHash s) ∧ p = ⟨splitDots (stripHash s)⟩ := by
  show (if "" ∈ splitDots (stripHash s) then none else some ⟨splitDots (stripHash s)⟩) = some p ↔ _
  by_cases h : "" ∈ splitDots (stripHash s)
  · simp [h]
  · simp [h, eq_comm]

/-- A text that is read as a path is the text of that path, up to a leading `#`. -/
theorem display_of_parse? {s : String} {p : StatePath} (h : parse? s = some p) :
    p.display = stripHash s := by
  rw [(parse?_eq_some_iff.mp h).2]
  exact intercalate_splitDots _

end StatePath

end Statechart
