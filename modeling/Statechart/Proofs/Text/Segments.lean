import Statechart.Proofs.StatePath
/-!
The segments of a text are what stands between its dots. Main statements: no segment contains a dot,
and a segment is empty exactly where a dot, or an end of the text, stands on either side of one place.
-/

namespace Statechart

/-! ## On characters -/

/-- A place next to which the characters before it end a segment. -/
def EndsSegment (left : List Char) : Prop := left = [] ∨ left.getLast? = some '.'

/-- A place next to which the characters behind it begin a segment. -/
def StartsSegment (right : List Char) : Prop := right = [] ∨ right.head? = some '.'

/-- What is cut at the dots has no dot left in it. -/
theorem dot_notMem_of_mem_splitOn {cs piece : List Char} (h : piece ∈ cs.splitOn '.') :
    '.' ∉ piece := by
  induction cs generalizing piece with
  | nil =>
    have hpiece : piece = [] := by simpa using h
    simp [hpiece]
  | cons c rest ih =>
    rw [List.splitOn_cons_eq_if_modifyHead] at h
    by_cases hc : c = '.'
    · -- a dot closes an empty piece in front of the others
      have hcases : piece = [] ∨ piece ∈ rest.splitOn '.' := by simpa [hc] using h
      rcases hcases with rfl | hrest
      · simp
      · exact ih hrest
    · -- any other character is put in front of the first piece
      obtain ⟨first, others, hsplit⟩ := List.exists_cons_of_ne_nil (List.splitOn_ne_nil '.' rest)
      have hcases : piece = c :: first ∨ piece ∈ others := by simpa [hc, hsplit] using h
      rw [hsplit] at ih
      rcases hcases with rfl | hothers
      · have hfirst : '.' ∉ first := ih List.mem_cons_self
        simpa [Ne.symm hc] using hfirst
      · exact ih (List.mem_cons_of_mem _ hothers)

theorem nil_mem_splitOn_of_startsSegment {right : List Char} (h : StartsSegment right) :
    [] ∈ right.splitOn '.' := by
  rcases h with rfl | hdot
  · simp
  · obtain ⟨rest, rfl⟩ := List.head?_eq_some_iff.mp hdot
    simp [List.splitOn_cons_eq_if_modifyHead]

/-- Cutting at the dots leaves an empty piece if and only if two cuts, or a cut and an end, meet. -/
theorem nil_mem_splitOn_iff {cs : List Char} :
    [] ∈ cs.splitOn '.' ↔
      ∃ left right, cs = left ++ right ∧ EndsSegment left ∧ StartsSegment right := by
  constructor
  · intro h
    -- by the length of the text: what is before a dot and what is behind it are cut apart
    induction hlength : cs.length using Nat.strongRecOn generalizing cs with
    | _ n ih =>
      by_cases hdot : '.' ∈ cs
      · obtain ⟨before, behind, rfl⟩ := List.append_of_mem hdot
        have hn : before.length + (behind.length + 1) = n := by simpa using hlength
        rw [List.splitOn_append_cons_self, List.mem_append] at h
        rcases h with hbefore | hbehind
        · obtain ⟨left, right, rfl, hleft, hright⟩ := ih before.length (by omega) hbefore rfl
          refine ⟨left, right ++ '.' :: behind, by simp, hleft, .inr ?_⟩
          rcases hright with rfl | hright
          · rfl
          · simp [List.head?_append, hright]
        · obtain ⟨left, right, rfl, hleft, hright⟩ := ih behind.length (by omega) hbehind rfl
          refine ⟨before ++ '.' :: left, right, by simp, .inr ?_, hright⟩
          rcases hleft with rfl | hleft
          · simp
          · simp [List.getLast?_append, List.getLast?_cons, hleft]
      · have hnil : cs = [] := by simpa [List.splitOn_eq_singleton hdot] using h
        exact ⟨[], [], hnil, .inl rfl, .inl rfl⟩
  · intro hexists
    obtain ⟨left, right, rfl, hleft, hright⟩ := hexists
    have hright := nil_mem_splitOn_of_startsSegment hright
    rcases hleft with rfl | hdot
    · exact hright
    · obtain ⟨before, rfl⟩ := List.getLast?_eq_some_iff.mp hdot
      rw [List.append_assoc, List.singleton_append, List.splitOn_append_cons_self]
      exact List.mem_append_right _ hright

/-! ## On texts -/

/-- The empty text has one segment, and a dot makes one more. -/
theorem splitDots_ne_nil (s : String) : splitDots s ≠ [] := by
  simp [splitDots]

/-- Somewhere in a text a segment has no characters. -/
def HasEmptySegment (s : String) : Prop :=
  ∃ left right, s.toList = left ++ right ∧ EndsSegment left ∧ StartsSegment right

theorem dot_notMem_of_mem_splitDots {id s : String} (h : id ∈ splitDots s) : '.' ∉ id.toList := by
  obtain ⟨piece, hpiece, rfl⟩ := List.mem_map.mp h
  rw [String.toList_ofList]
  exact dot_notMem_of_mem_splitOn hpiece

theorem empty_mem_splitDots_iff {s : String} : "" ∈ splitDots s ↔ HasEmptySegment s := by
  have hempty : ∀ cs : List Char, String.ofList cs = "" ↔ cs = [] := by
    intro cs
    simp [← String.toList_inj]
  simp only [splitDots, List.mem_map, hempty, exists_eq_right]
  exact nil_mem_splitOn_iff

theorem hasEmptySegment_empty : HasEmptySegment "" := ⟨[], [], rfl, .inl rfl, .inl rfl⟩

end Statechart
