import Statechart.Text.Lowercase
/-!
Words in any case. Lower case is defined for all of Unicode; a word of the basic alphabet is reached by
it from no text but the word itself with some of its letters made capital. The one exception is the k,
which is also the small letter of the Kelvin sign. Main statement: for words without a k, to be the word
in lower case and to have its letters in any case are the same.
-/

namespace Statechart.Text

/-- A small letter of the basic alphabet that is the small letter of its own capital only. -/
def IsPlain (c : Char) : Prop := 97 ≤ c.toNat ∧ c.toNat ≤ 122 ∧ c ≠ 'k'

instance (c : Char) : Decidable (IsPlain c) := inferInstanceAs (Decidable (_ ∧ _ ∧ _))

/-- A word of such letters. -/
def IsPlainWord (word : String) : Prop := ∀ w ∈ word.toList, IsPlain w

instance (word : String) : Decidable (IsPlainWord word) := List.decidableBAll IsPlain word.toList

/-- A text has the letters of a word, each of them small or capital. -/
def AnyCase (word s : String) : Prop := s.toList.map Char.toLower = word.toList

instance (word s : String) : Decidable (AnyCase word s) := inferInstanceAs (Decidable (_ = _))

/-! ## Single characters -/

/-- Up to the end of ASCII both lower cases are one. -/
theorem lowerSimple_of_lt {c : Char} (h : c.toNat < 128) : lowerSimple c = c.toLower := by
  have hall : ∀ n < 128, lowerSimple (Char.ofNat n) = (Char.ofNat n).toLower := by decide +kernel
  have hc := hall c.toNat h
  rwa [Char.ofNat_toNat] at hc

theorem toLower_of_le {c : Char} (h : 128 ≤ c.toNat) : c.toLower = c := by
  unfold Char.toLower
  apply dif_neg
  intro hcapital
  have hhigh : c.toNat ≤ 90 := hcapital.2
  omega

/-- Of the capitals beyond ASCII only the Kelvin sign has a small letter of the basic alphabet. -/
theorem lowerRuns_beyond : ∀ run ∈ lowerRuns, 128 ≤ run.2.1 →
    run = (0x212A, 0x212A, 1, -8383) ∨ 122 < run.1 + run.2.2.2 := by
  decide +kernel

theorem toNat_ofNat_eq_or (n : Nat) : (Char.ofNat n).toNat = n ∨ (Char.ofNat n).toNat = 0 := by
  by_cases hvalid : n.isValidChar
  · left
    rw [Char.ofNat, dif_pos hvalid]
    rfl
  · right
    rw [Char.ofNat, dif_neg hvalid]
    rfl

theorem not_isPlain_lowerSimple {c : Char} (h : 128 ≤ c.toNat) : ¬ IsPlain (lowerSimple c) := by
  unfold lowerSimple
  split
  · next lo hi step delta hfind =>
    have hrange := List.find?_some hfind
    simp only [Bool.and_eq_true, decide_eq_true_eq] at hrange
    obtain ⟨⟨hlo, hhi⟩, -⟩ := hrange
    rcases lowerRuns_beyond _ (List.mem_of_find?_eq_some hfind) (Nat.le_trans h hhi) with hkelvin | hbeyond
    · cases hkelvin
      have hc : c.toNat = 0x212A := by omega
      rw [hc]
      decide
    · -- a number that is no character stands for the one with number zero
      intro hplain
      obtain ⟨hlow, hhigh, -⟩ := hplain
      simp only at hbeyond
      rcases toNat_ofNat_eq_or (Int.toNat (c.toNat + delta)) with heq | heq <;> omega
  · intro hplain
    have hhigh := hplain.2.1
    omega

theorem lowerSimple_eq_iff {c w : Char} (hw : IsPlain w) : lowerSimple c = w ↔ c.toLower = w := by
  by_cases hascii : c.toNat < 128
  · rw [lowerSimple_of_lt hascii]
  · have hbeyond : 128 ≤ c.toNat := by omega
    have hleft : lowerSimple c ≠ w := by
      rintro rfl
      exact not_isPlain_lowerSimple hbeyond hw
    have hright : c.toLower ≠ w := by
      rw [toLower_of_le hbeyond]
      rintro rfl
      have hhigh := hw.2.1
      omega
    exact ⟨fun h => absurd h hleft, fun h => absurd h hright⟩

/-! ## Texts -/

/-- A character goes over into its small letter, but for the two which need more than that; these leave
a character behind that is in no plain word. -/
theorem lowerFrom_cons (before : List Char) (c : Char) (rest : List Char) :
    lowerFrom before (c :: rest) = lowerSimple c :: lowerFrom (c :: before) rest ∨
      128 ≤ c.toNat ∧ ∃ front, lowerFrom before (c :: rest) = front ++ lowerFrom (c :: before) rest ∧
        ∃ x ∈ front, ¬ IsPlain x := by
  by_cases hsigma : c = 'Σ'
  · right
    refine ⟨by rw [hsigma]; decide, _, rfl, ?_⟩
    rw [hsigma, beq_self_eq_true, if_pos rfl]
    -- the sigma may be a final one
    split
    · exact ⟨'ς', List.mem_singleton_self _, by decide⟩
    · exact ⟨'σ', List.mem_singleton_self _, by decide⟩
  · by_cases hdotted : c = 'İ'
    · right
      refine ⟨by rw [hdotted]; decide, ['i', Char.ofNat 0x307], ?_, _, List.mem_cons_of_mem _
        (List.mem_singleton_self _), by decide⟩
      rw [hdotted]
      rfl
    · left
      simp [lowerFrom, lowerChar, hsigma, hdotted]

theorem lowerFrom_eq_iff {word : List Char} (hword : ∀ w ∈ word, IsPlain w) (before cs : List Char) :
    lowerFrom before cs = word ↔ cs.map Char.toLower = word := by
  induction cs generalizing before word with
  | nil => rfl
  | cons c rest ih =>
    rcases lowerFrom_cons before c rest with hplain | ⟨hbeyond, front, hfront, x, hx, hspecial⟩
    · rw [hplain, List.map_cons]
      cases word with
      | nil => simp
      | cons w word =>
        have hw : IsPlain w := hword w List.mem_cons_self
        have hrest : ∀ w ∈ word, IsPlain w := fun w hmem => hword w (List.mem_cons_of_mem _ hmem)
        rw [List.cons.injEq, List.cons.injEq, lowerSimple_eq_iff hw, ih hrest]
    · constructor
      · rintro rfl
        rw [hfront] at hword
        exact absurd (hword x (List.mem_append_left _ hx)) hspecial
      · rintro rfl
        have hc := (hword _ List.mem_cons_self).2.1
        rw [toLower_of_le hbeyond] at hc
        omega

/-- A text is a plain word in lower case exactly if it has the letters of the word, in any case. -/
theorem lowercase_eq_iff {word s : String} (hword : IsPlainWord word) :
    lowercase s = word ↔ AnyCase word s := by
  rw [lowercase, ← String.toList_inj, String.toList_ofList, AnyCase]
  exact lowerFrom_eq_iff hword [] s.toList

end Statechart.Text
