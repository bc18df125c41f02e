import Statechart.Proofs.Definition.WellFormed
import Statechart.Proofs.Snapshot.PathText
/-!
Targets written as texts and read back. Whether a text is a full path is seen from the text as it
stands, its segments are cut from what is behind one leading mark, and a full path is shown with a
mark of its own. Main statement: the three agree, so that a target is read back from its text, and two
texts have the same target exactly if they differ in no more than the leading mark of a full path.
-/

namespace Statechart

namespace StatePath

variable {s s' : String} {p p' : StatePath}

/-- What a text is read as does not depend on a leading mark. -/
theorem parse?_congr (h : stripHash s = stripHash s') : parse? s = parse? s' := by
  unfold parse?
  rw [h]

/-- Texts that are read as paths have the same path exactly if they differ in a leading mark only. -/
theorem eq_iff_of_parse? (h : parse? s = some p) (h' : parse? s' = some p') :
    p = p' ↔ stripHash s = stripHash s' := by
  constructor
  · intro heq
    rw [← display_of_parse? h, ← display_of_parse? h', heq]
  · intro hstrip
    rw [parse?_congr hstrip, h'] at h
    exact (Option.some.inj h).symm

end StatePath

namespace Target

variable {s s' : String} {t t' : Target}

/-! ## Reading -/

theorem absoluteText_iff : AbsoluteText s ↔ isAbsolute s = true := isAbsolute_iff.symm

/-- A text has no target if it has no characters, or if it is a full path with an empty segment. -/
theorem parse?_eq_none_iff :
    parse? s = none ↔ s = "" ∨ isAbsolute s = true ∧ HasEmptySegment (stripHash s) := by
  cases habs : isAbsolute s with
  | true =>
    have hne : s ≠ "" := by
      rintro rfl
      cases habs
    rw [parse?_of_absolute habs, Option.map_eq_none_iff, StatePath.parse?_eq_none_iff]
    simp [hne]
  | false =>
    by_cases hempty : s = ""
    · simp [hempty, parse?_empty]
    · simp [parse?_of_bare habs hempty, hempty]

/-- A target is a full path exactly if its text is one. -/
theorem exists_absolute_iff (h : parse? s = some t) :
    (∃ p, t = absolute p) ↔ isAbsolute s = true := by
  cases t with
  | absolute p => exact ⟨fun _ => (parse?_eq_absolute_iff.mp h).1, fun _ => ⟨p, rfl⟩⟩
  | relative id =>
    have hbare : isAbsolute s = false := (parse?_eq_relative_iff.mp h).1
    simp [hbare]

/-! ## Showing -/

/-- The text of a full path starts with a mark. -/
theorem isAbsolute_display (p : StatePath) : isAbsolute (absolute p).display = true := by
  apply isAbsolute_iff.mpr
  left
  simp [display]

/-- A target is read back from its text. -/
theorem parse?_display (h : parse? s = some t) : parse? t.display = some t := by
  cases t with
  | relative id =>
    -- a bare id is shown as it was written
    obtain ⟨-, -, rfl⟩ := parse?_eq_relative_iff.mp h
    exact h
  | absolute p =>
    obtain ⟨-, hp⟩ := parse?_eq_absolute_iff.mp h
    -- the mark that is shown is the one that is passed over, whether the text had one or not
    have hstrip : stripHash (absolute p).display = stripHash s := by
      rw [display, stripHash_hash]
      exact StatePath.display_of_parse? hp
    apply parse?_eq_absolute_iff.mpr
    exact ⟨isAbsolute_display p, (StatePath.parse?_congr hstrip).trans hp⟩

/-- Texts of one kind have the same target exactly if they are the same, but for the leading mark of
a full path; texts of different kinds never do. -/
theorem eq_iff_of_parse? (h : parse? s = some t) (h' : parse? s' = some t') :
    t = t' ↔
      s = s' ∨ isAbsolute s = true ∧ isAbsolute s' = true ∧ stripHash s = stripHash s' := by
  by_cases hkind : isAbsolute s = isAbsolute s'
  · cases t with
    | relative id =>
      obtain ⟨hbare, -, rfl⟩ := parse?_eq_relative_iff.mp h
      cases t' with
      | relative id' =>
        obtain ⟨-, -, rfl⟩ := parse?_eq_relative_iff.mp h'
        simp [hbare]
      | absolute p' => simp [(parse?_eq_absolute_iff.mp h').1, hbare] at hkind
    | absolute p =>
      obtain ⟨habs, hp⟩ := parse?_eq_absolute_iff.mp h
      cases t' with
      | relative id' => simp [(parse?_eq_relative_iff.mp h').1, habs] at hkind
      | absolute p' =>
        obtain ⟨habs', hp'⟩ := parse?_eq_absolute_iff.mp h'
        have hsame : s = s' → stripHash s = stripHash s' := congrArg stripHash
        rw [absolute.injEq, StatePath.eq_iff_of_parse? hp hp', habs, habs']
        simp only [true_and]
        exact (or_iff_right_of_imp hsame).symm
  · -- the same target, or the same text, would be of one kind
    have htarget : t ≠ t' := by
      rintro rfl
      have hiff := (exists_absolute_iff h).symm.trans (exists_absolute_iff h')
      exact hkind (Bool.eq_iff_iff.mpr hiff)
    have htext : s ≠ s' := by
      rintro rfl
      exact hkind rfl
    have hboth : ¬ (isAbsolute s = true ∧ isAbsolute s' = true) := by
      rintro ⟨habs, habs'⟩
      exact hkind (habs.trans habs'.symm)
    simp only [htarget, htext, false_or, false_iff]
    exact fun hparts => hboth ⟨hparts.1, hparts.2.1⟩

/-- A text has no target exactly if it is empty, or is a full path of which nothing is left behind one
leading mark, or in which a segment is empty there. A target is read back from the text that it is
shown as, and is a full path exactly if its text was one. Texts that have a target have the same one
exactly if they are the same, or are both full paths and the same but for one leading mark. -/
theorem text_round_trip :
    (∀ s, parse? s = none ↔
      s = "" ∨ AbsoluteText s ∧ (stripHash s = "" ∨ HasEmptySegment (stripHash s))) ∧
      ∀ s t, parse? s = some t →
        parse? t.display = some t ∧ ((∃ p, t = absolute p) ↔ AbsoluteText s) ∧
          ∀ s' t', parse? s' = some t' →
            (t = t' ↔ s = s' ∨ AbsoluteText s ∧ AbsoluteText s' ∧ stripHash s = stripHash s') := by
  simp only [absoluteText_iff]
  constructor
  · intro s
    have hempty : stripHash s = "" → HasEmptySegment (stripHash s) := by
      intro hs
      rw [hs]
      exact hasEmptySegment_empty
    rw [parse?_eq_none_iff, or_iff_right_of_imp hempty]
  · intro s t h
    refine ⟨parse?_display h, exists_absolute_iff h, ?_⟩
    intro s' t' h'
    exact eq_iff_of_parse? h h'

/-- A second mark belongs to the first segment, so that the target of a text with two is not that of
the text with one; the text without any mark has the same target as the one with a single mark, being
a full path by its dot. -/
theorem text_round_trip_order :
    let marked : Target := .absolute ⟨["#order", "closed"]⟩
    let plain : Target := .absolute ⟨["order", "closed"]⟩
    parse? "##order.closed" = some marked ∧ parse? marked.display = some marked ∧
      parse? "#order.closed" = some plain ∧ marked ≠ plain ∧
      (∃ t, parse? "order.closed" = some t ∧ plain = t) ∧ parse? "order." = none ∧
      parse? "#" = none := by
  intro marked plain
  obtain ⟨hnone, hsome⟩ := text_round_trip
  have hmarked : parse? "##order.closed" = some marked := by decide
  have hplain : parse? "#order.closed" = some plain := by decide
  obtain ⟨hback, -, hmarkedSame⟩ := hsome _ _ hmarked
  obtain ⟨-, -, hplainSame⟩ := hsome _ _ hplain
  have hbare : ∃ t, parse? "order.closed" = some t := ⟨plain, by decide⟩
  obtain ⟨t, ht⟩ := hbare
  refine ⟨hmarked, hback, hplain, ?_, ⟨t, ht, ?_⟩, ?_, ?_⟩
  · intro heq
    rcases (hmarkedSame _ _ hplain).mp heq with htext | ⟨-, -, hstrip⟩
    · exact absurd htext (by decide)
    · exact absurd hstrip (by decide)
  · exact (hplainSame _ _ ht).mpr (.inr ⟨.inl rfl, .inr (by decide), by decide⟩)
  · exact (hnone _).mpr (.inr ⟨.inr (by decide), .inr ⟨"order.".toList, [], rfl, .inr rfl, .inl rfl⟩⟩)
  · exact (hnone _).mpr (.inr ⟨.inl rfl, .inl (by decide)⟩)

end Target

end Statechart
