import Mathlib.Data.List.Chain
import Statechart.Proofs.Text.Words
/-!
Runs of blanks. A text that is cut into words and put together again with single spaces between them
has lost what told its runs of blanks apart. Main statements: each run has become one space, and a
text comes out as it was exactly if every blank of it is a space that stands alone.
-/

namespace Statechart.Text

/-! ## Squeezing -/

section Squeeze

variable (blank : Char → Bool)

/-- Each run of blanks as one space; `inRun` tells whether a blank stands in front. -/
def squeezeFrom (inRun : Bool) : List Char → List Char
  | [] => []
  | c :: rest =>
    if blank c then
      if inRun then squeezeFrom true rest else ' ' :: squeezeFrom true rest
    else c :: squeezeFrom false rest

/-- Every blank is a space, and no two of them stand next to each other. -/
structure SinglySpaced (cs : List Char) : Prop where
  space : ∀ c ∈ cs, blank c = true → c = ' '
  alone : cs.IsChain fun a b => ¬ (blank a = true ∧ blank b = true)

theorem singlySpaced_iff {cs : List Char} : SinglySpaced blank cs ↔
    cs.all (fun c => !blank c || c == ' ') = true ∧
      cs.IsChain fun a b => ¬ (blank a = true ∧ blank b = true) := by
  have hall : cs.all (fun c => !blank c || c == ' ') = true ↔
      ∀ c ∈ cs, blank c = true → c = ' ' := by
    simp [← Bool.not_eq_true, Decidable.imp_iff_not_or]
  rw [hall]
  exact ⟨fun h => ⟨h.space, h.alone⟩, fun h => ⟨h.1, h.2⟩⟩

instance (cs : List Char) : Decidable (SinglySpaced blank cs) :=
  decidable_of_iff' _ (singlySpaced_iff blank)

variable {blank} {inRun : Bool} {c : Char} {cs : List Char}

theorem squeezeFrom_cons_of_blank (h : blank c = true) (rest : List Char) :
    squeezeFrom blank false (c :: rest) = ' ' :: squeezeFrom blank true rest := by
  simp [squeezeFrom, h]

theorem squeezeFrom_true_cons_of_blank (h : blank c = true) (rest : List Char) :
    squeezeFrom blank true (c :: rest) = squeezeFrom blank true rest := by
  simp [squeezeFrom, h]

theorem squeezeFrom_cons_of_not_blank (h : blank c = false) (rest : List Char) :
    squeezeFrom blank inRun (c :: rest) = c :: squeezeFrom blank false rest := by
  simp [squeezeFrom, h]

/-- Characters that are not blank stay as they are. -/
theorem squeezeFrom_append (h : ∀ c ∈ cs, blank c = false) (rest : List Char) :
    squeezeFrom blank false (cs ++ rest) = cs ++ squeezeFrom blank false rest := by
  induction cs with
  | nil => rfl
  | cons c cs ih =>
    obtain ⟨hc, hcs⟩ := List.forall_mem_cons.mp h
    rw [List.cons_append, squeezeFrom_cons_of_not_blank hc, ih hcs, List.cons_append]

/-- Squeezing twice is squeezing once. -/
theorem squeezeFrom_squeezeFrom (hspace : blank ' ' = true) (inRun : Bool) (cs : List Char) :
    squeezeFrom blank inRun (squeezeFrom blank inRun cs) = squeezeFrom blank inRun cs := by
  induction cs generalizing inRun with
  | nil => rfl
  | cons c rest ih =>
    by_cases hc : blank c = true
    · cases inRun with
      | true => rw [squeezeFrom_true_cons_of_blank hc, ih]
      | false => rw [squeezeFrom_cons_of_blank hc, squeezeFrom_cons_of_blank hspace, ih]
    · rw [Bool.not_eq_true] at hc
      rw [squeezeFrom_cons_of_not_blank hc, squeezeFrom_cons_of_not_blank hc, ih]

theorem length_squeezeFrom_le (inRun : Bool) (cs : List Char) :
    (squeezeFrom blank inRun cs).length ≤ cs.length := by
  induction cs generalizing inRun with
  | nil => exact Nat.le_refl 0
  | cons c rest ih =>
    have hrun := ih true
    have hword := ih false
    rw [squeezeFrom]
    split
    · split
      · rw [List.length_cons]
        omega
      · rw [List.length_cons, List.length_cons]
        omega
    · rw [List.length_cons, List.length_cons]
      omega

theorem singlySpaced_cons_iff {rest : List Char} :
    SinglySpaced blank (c :: rest) ↔
      (blank c = true → c = ' ' ∧ ∀ b ∈ rest.head?, blank b = false) ∧
        SinglySpaced blank rest := by
  constructor
  · rintro ⟨hspace, halone⟩
    obtain ⟨hc, hrest⟩ := List.forall_mem_cons.mp hspace
    obtain ⟨hhead, hchain⟩ := List.isChain_cons.mp halone
    refine ⟨fun hblank => ⟨hc hblank, fun b hb => ?_⟩, hrest, hchain⟩
    simpa [hblank] using hhead b hb
  · rintro ⟨hc, hrest⟩
    refine ⟨List.forall_mem_cons.mpr ⟨fun hblank => (hc hblank).1, hrest.space⟩,
      List.isChain_cons.mpr ⟨fun b hb hboth => ?_, hrest.alone⟩⟩
    rw [(hc hboth.1).2 b hb] at hboth
    exact Bool.false_ne_true hboth.2

/-- What is squeezed stays as it is exactly if it is singly spaced, and does not begin with a blank
where one stands in front. -/
theorem squeezeFrom_eq_self_iff : squeezeFrom blank inRun cs = cs ↔
    SinglySpaced blank cs ∧ (inRun = true → ∀ b ∈ cs.head?, blank b = false) := by
  induction cs generalizing inRun with
  | nil => exact ⟨fun _ => ⟨⟨nofun, List.isChain_nil⟩, nofun⟩, fun _ => rfl⟩
  | cons c rest ih =>
    rw [singlySpaced_cons_iff]
    by_cases hc : blank c = true
    · cases inRun with
      | true =>
        have hne : squeezeFrom blank true (c :: rest) ≠ c :: rest := by
          intro heq
          have hlength : (squeezeFrom blank true rest).length ≤ rest.length :=
            length_squeezeFrom_le true rest
          rw [squeezeFrom_true_cons_of_blank hc] at heq
          rw [heq, List.length_cons] at hlength
          omega
        simp [hne, hc]
      | false =>
        rw [squeezeFrom_cons_of_blank hc, List.cons.injEq, ih]
        constructor
        · rintro ⟨rfl, hrest, hhead⟩
          exact ⟨⟨fun _ => ⟨rfl, hhead rfl⟩, hrest⟩, nofun⟩
        · rintro ⟨⟨hblank, hrest⟩, -⟩
          exact ⟨(hblank hc).1.symm, hrest, fun _ => (hblank hc).2⟩
    · rw [Bool.not_eq_true] at hc
      rw [squeezeFrom_cons_of_not_blank hc, List.cons.injEq, ih]
      simp [hc]

end Squeeze

/-! ## Words -/

/-- Characters of a word that have been read are the beginning of the first word. -/
theorem exists_wordsFrom_cons {word : List Char} (h : word ≠ []) (cs : List Char) :
    ∃ w ws, wordsFrom word cs = w :: ws ∧ w.toList.head? = word.getLast? := by
  induction cs generalizing word with
  | nil => exact ⟨String.ofList word.reverse, [], by simp [wordsFrom, h], by simp⟩
  | cons c rest ih =>
    by_cases hc : isBlank c = true
    · exact ⟨String.ofList word.reverse, wordsFrom [] rest, by simp [wordsFrom, hc, h], by simp⟩
    · obtain ⟨w, ws, hwords, hhead⟩ := ih (List.cons_ne_nil c word)
      refine ⟨w, ws, by simp [wordsFrom, hc, hwords], ?_⟩
      rw [hhead, List.getLast?_cons_of_ne_nil h]

theorem wordsFrom_ne_nil {cs : List Char} (h : ∃ c ∈ cs, isBlank c = false) :
    wordsFrom [] cs ≠ [] := by
  induction cs with
  | nil => simp at h
  | cons c rest ih =>
    by_cases hc : isBlank c = true
    · have hrest : ∃ b ∈ rest, isBlank b = false := by simpa [hc] using h
      simpa [wordsFrom, hc] using ih hrest
    · obtain ⟨w, ws, hwords, -⟩ := exists_wordsFrom_cons (List.cons_ne_nil c []) rest
      simp [wordsFrom, hc, hwords]

/-- Words put together again: of the text behind the characters of a word that have been read, each
run of blanks has become a space. -/
theorem toList_spaced_wordsFrom (word : List Char) {cs : List Char}
    (h : ∀ c ∈ cs.getLast?, isBlank c = false) :
    (spaced (wordsFrom word cs)).toList =
      word.reverse ++ squeezeFrom isBlank word.isEmpty cs := by
  induction cs generalizing word with
  | nil => cases word <;> simp [wordsFrom, squeezeFrom, spaced]
  | cons c rest ih =>
    by_cases hc : isBlank c = true
    · -- the text does not end with this blank, so there is another word
      have hne : rest ≠ [] := by
        rintro rfl
        rw [h c rfl] at hc
        cases hc
      have hrest : ∀ b ∈ rest.getLast?, isBlank b = false := by
        rwa [List.getLast?_cons_of_ne_nil hne] at h
      have hwords : wordsFrom [] rest ≠ [] :=
        wordsFrom_ne_nil ⟨_, List.getLast_mem hne, hrest _ (List.getLast?_eq_some_getLast hne)⟩
      cases word with
      | nil => simpa [wordsFrom, hc, squeezeFrom] using ih [] hrest
      | cons d word =>
        have hread : wordsFrom (d :: word) (c :: rest) =
            String.ofList (d :: word).reverse :: wordsFrom [] rest := by simp [wordsFrom, hc]
        rw [hread, toList_spaced_cons _ hwords, ih [] hrest, List.isEmpty_cons,
          squeezeFrom_cons_of_blank hc]
        simp
    · rw [Bool.not_eq_true] at hc
      have hrest : ∀ b ∈ rest.getLast?, isBlank b = false := by
        cases rest with
        | nil => simp
        | cons d rest => rwa [List.getLast?_cons_cons] at h
      have hread : wordsFrom word (c :: rest) = wordsFrom (c :: word) rest := by
        simp [wordsFrom, hc]
      rw [hread, ih (c :: word) hrest, squeezeFrom_cons_of_not_blank hc]
      simp

/-- A text that neither begins nor ends with a blank, cut into words and put together again. -/
theorem spaced_words {cs : List Char} (hfirst : ∀ c ∈ cs.head?, isBlank c = false)
    (hlast : ∀ c ∈ cs.getLast?, isBlank c = false) :
    spaced (words (String.ofList cs)) = String.ofList (squeezeFrom isBlank false cs) := by
  rw [← String.toList_inj, words, String.toList_ofList, String.toList_ofList,
    toList_spaced_wordsFrom [] hlast]
  cases cs with
  | nil => rfl
  | cons c rest =>
    rw [squeezeFrom_cons_of_not_blank (hfirst c rfl), squeezeFrom_cons_of_not_blank (hfirst c rfl)]
    rfl

end Statechart.Text
