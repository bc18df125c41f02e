import Statechart.Text.Blank
/-!
Words and blanks. A word is a text that is not empty and has no blank in it. Main statement: words
that are written with single spaces between them are the words of what was written.
-/

namespace Statechart.Text

/-- A text that is not empty and has no blank in it. -/
structure IsWord (w : String) : Prop where
  ne_empty : w ≠ ""
  notBlank : ∀ c ∈ w.toList, isBlank c = false

theorem all_not_blank_iff {cs : List Char} :
    cs.all (!isBlank ·) = true ↔ ∀ c ∈ cs, isBlank c = false := by
  simp

theorem isWord_iff {w : String} : IsWord w ↔ w ≠ "" ∧ w.toList.all (!isBlank ·) = true :=
  ⟨fun h => ⟨h.ne_empty, all_not_blank_iff.mpr h.notBlank⟩,
    fun h => ⟨h.1, all_not_blank_iff.mp h.2⟩⟩

instance (w : String) : Decidable (IsWord w) := decidable_of_iff' _ isWord_iff

/-- Words as a line, with single spaces between them. -/
def spaced (ws : List String) : String := " ".intercalate ws

theorem spaced_singleton (w : String) : spaced [w] = w := String.intercalate_singleton

theorem toList_spaced_cons (w : String) {ws : List String} (h : ws ≠ []) :
    (spaced (w :: ws)).toList = w.toList ++ ' ' :: (spaced ws).toList := by
  obtain ⟨w', rest, rfl⟩ := List.exists_cons_of_ne_nil h
  simp [spaced]

theorem isBlank_space : isBlank ' ' = true := by decide

/-- Characters that are not blank join the word that is being read. -/
theorem wordsFrom_append {cs : List Char} (h : ∀ c ∈ cs, isBlank c = false)
    (word rest : List Char) : wordsFrom word (cs ++ rest) = wordsFrom (cs.reverse ++ word) rest := by
  induction cs generalizing word with
  | nil => rfl
  | cons c cs ih =>
    obtain ⟨hc, hcs⟩ := List.forall_mem_cons.mp h
    have hread : wordsFrom word (c :: (cs ++ rest)) = wordsFrom (c :: word) (cs ++ rest) := by
      simp [wordsFrom, hc]
    rw [List.cons_append, hread, ih hcs]
    simp

/-- A word and a space behind it are read as that word. -/
theorem wordsFrom_word_space {w : String} (h : IsWord w) (rest : List Char) :
    wordsFrom [] (w.toList ++ ' ' :: rest) = w :: wordsFrom [] rest := by
  have hne : w.toList ≠ [] := fun hnil => h.ne_empty (String.toList_eq_nil_iff.mp hnil)
  rw [wordsFrom_append h.notBlank]
  simp [wordsFrom, isBlank_space, hne]

theorem words_of_isWord {w : String} (h : IsWord w) : words w = [w] := by
  have hne : w.toList ≠ [] := fun hnil => h.ne_empty (String.toList_eq_nil_iff.mp hnil)
  have hread := wordsFrom_append h.notBlank [] []
  rw [List.append_nil] at hread
  rw [words, hread]
  simp [wordsFrom, hne]

/-- Words that are written with single spaces between them are read back as they are. -/
theorem words_spaced {ws : List String} (h : ∀ w ∈ ws, IsWord w) : words (spaced ws) = ws := by
  induction ws with
  | nil => rfl
  | cons w rest ih =>
    obtain ⟨hw, hrest⟩ := List.forall_mem_cons.mp h
    cases rest with
    | nil =>
      rw [spaced_singleton, words_of_isWord hw]
    | cons w' rest =>
      rw [words, toList_spaced_cons w (List.cons_ne_nil w' rest), wordsFrom_word_space hw]
      exact congrArg (w :: ·) (ih hrest)

end Statechart.Text
