import Statechart.Proofs.Json.Printer
import Statechart.Proofs.Text.Spacing
/-!
Runs of blanks in compact text. The blanks of a compact text stand inside its strings, where the
controls among them are escaped. Main statement: a compact text in which each run of blanks has become
a space is the compact text of the value in whose strings and names each run has become one.
-/

namespace Statechart.Json

open Text (isBlank all_not_blank_iff squeezeFrom squeezeFrom_append squeezeFrom_cons_of_blank
  squeezeFrom_cons_of_not_blank squeezeFrom_true_cons_of_blank)

/-! ## Strings -/

/-- A blank that stands in the text of a string as it is; those below the space are escaped. -/
def isBareBlank (c : Char) : Bool := isBlank c && !decide (c.toNat < 0x20)

/-- A string in which each run of bare blanks has become a space. -/
def squeeze (s : String) : String := String.ofList (squeezeFrom isBareBlank false s.toList)

theorem squeeze_squeeze (s : String) : squeeze (squeeze s) = squeeze s := by
  have hspace : isBareBlank ' ' = true := by decide
  rw [squeeze, squeeze, String.toList_ofList, Text.squeezeFrom_squeezeFrom hspace]

theorem squeeze_eq_self_iff {s : String} :
    squeeze s = s ↔ Text.SinglySpaced isBareBlank s.toList := by
  rw [squeeze, ← String.toList_inj, String.toList_ofList, Text.squeezeFrom_eq_self_iff]
  simp

/-- A bare blank is written as it is, and nothing else is written with a blank. -/
theorem escapeChar_cases (c : Char) :
    isBareBlank c = true ∧ isBlank c = true ∧ escapeChar c = [c] ∨
      isBareBlank c = false ∧ escapeChar c ≠ [] ∧ ∀ b ∈ escapeChar c, isBlank b = false := by
  have hhex : ∀ n, isBlank (hexDigit n) = false := by
    intro n
    have hdigits : ∀ d < 16, isBlank (Nat.digitChar d) = false := by decide
    exact hdigits _ (Nat.mod_lt _ (by omega))
  unfold escapeChar
  split
  -- the escapes of one letter come first
  iterate 7
    · exact .inr ⟨by decide, List.cons_ne_nil _ _, all_not_blank_iff.mp (by decide)⟩
  split
  · next hcontrol =>
    refine .inr ⟨by simp [isBareBlank, hcontrol], List.cons_ne_nil _ _, ?_⟩
    simp only [List.forall_mem_cons]
    exact ⟨by decide, by decide, by decide, by decide, hhex _, hhex _, nofun⟩
  · next hcontrol =>
    cases hblank : isBlank c with
    | true => exact .inl ⟨by simp [isBareBlank, hblank, hcontrol], rfl, rfl⟩
    | false =>
      exact .inr ⟨by simp [isBareBlank, hblank], List.cons_ne_nil c [], by simpa using hblank⟩

/-- The text between the quotes of a string. -/
theorem squeezeFrom_flatMap_escapeChar (inRun : Bool) (cs rest : List Char) :
    squeezeFrom isBlank inRun (cs.flatMap escapeChar ++ '"' :: rest) =
      (squeezeFrom isBareBlank inRun cs).flatMap escapeChar ++
        '"' :: squeezeFrom isBlank false rest := by
  have hquote : isBlank '"' = false := by decide
  have hspace : escapeChar ' ' = [' '] := by decide
  induction cs generalizing inRun with
  | nil => exact squeezeFrom_cons_of_not_blank hquote rest
  | cons c cs ih =>
    rw [List.flatMap_cons, List.append_assoc]
    rcases escapeChar_cases c with ⟨hbare, hblank, hescape⟩ | ⟨hbare, hne, hescape⟩
    · -- a bare blank is in a run of the text where it is in a run of the string
      rw [hescape, List.singleton_append]
      cases inRun with
      | true => rw [squeezeFrom_true_cons_of_blank hblank, squeezeFrom_true_cons_of_blank hbare, ih]
      | false =>
        rw [squeezeFrom_cons_of_blank hblank, squeezeFrom_cons_of_blank hbare, ih,
          List.flatMap_cons, hspace]
        rfl
    · -- anything else ends a run in both, be it an escaped blank
      obtain ⟨d, ds, hchars⟩ := List.exists_cons_of_ne_nil hne
      rw [squeezeFrom_cons_of_not_blank hbare, List.flatMap_cons, List.append_assoc]
      rw [hchars] at hescape ⊢
      obtain ⟨hd, hds⟩ := List.forall_mem_cons.mp hescape
      rw [List.cons_append, squeezeFrom_cons_of_not_blank hd, squeezeFrom_append hds, ih]
      rfl

/-! ## Values -/

/-- Characters become others when they are squeezed, whatever follows them. -/
def SqueezedTo (cs ds : List Char) : Prop :=
  ∀ rest, squeezeFrom isBlank false (cs ++ rest) = ds ++ squeezeFrom isBlank false rest

section SqueezedTo

variable {cs cs' ds ds' : List Char}

theorem SqueezedTo.append (h : SqueezedTo cs ds) (h' : SqueezedTo cs' ds') :
    SqueezedTo (cs ++ cs') (ds ++ ds') := by
  intro rest
  rw [List.append_assoc, h, h', List.append_assoc]

theorem squeezedTo_of_not_blank (h : cs.all (!isBlank ·) = true) : SqueezedTo cs cs :=
  squeezeFrom_append (all_not_blank_iff.mp h)

theorem SqueezedTo.cons {c : Char} (hc : isBlank c = false) (h : SqueezedTo cs ds) :
    SqueezedTo (c :: cs) (c :: ds) := by
  intro rest
  rw [List.cons_append, squeezeFrom_cons_of_not_blank hc, h, List.cons_append]

theorem squeezedTo_printString (s : String) :
    SqueezedTo (printString s) (printString (squeeze s)) := by
  intro rest
  rw [printString_append, printString_append, squeezeFrom_cons_of_not_blank (by decide),
    squeezeFrom_flatMap_escapeChar, squeeze, String.toList_ofList]

end SqueezedTo

theorem not_blank_of_isDigit {c : Char} (h : c.isDigit = true) : isBlank c = false := by
  have hrange : 48 ≤ c.toNat ∧ c.toNat ≤ 57 := by
    simpa [Char.isDigit, UInt32.le_iff_toNat_le] using h
  simp [isBlank, Text.blankRanges]
  omega

theorem squeezedTo_itemChars {items : List Value}
    (h : ∀ v ∈ items, SqueezedTo v.chars (v.mapTexts squeeze).chars) :
    SqueezedTo (Value.itemChars items) (Value.itemChars (items.map (Value.mapTexts squeeze))) := by
  induction items with
  | nil => exact fun _ => rfl
  | cons v following ih =>
    obtain ⟨hv, hfollowing⟩ := List.forall_mem_cons.mp h
    cases following with
    | nil => exact hv
    | cons w following => exact hv.append ((ih hfollowing).cons (by decide))

theorem squeezedTo_memberChars {members : List (String × Value)}
    (h : ∀ m ∈ members, SqueezedTo m.2.chars (m.2.mapTexts squeeze).chars) :
    SqueezedTo (Value.memberChars members)
      (Value.memberChars (members.map fun m => (squeeze m.1, m.2.mapTexts squeeze))) := by
  induction members with
  | nil => exact fun _ => rfl
  | cons m following ih =>
    obtain ⟨name, v⟩ := m
    obtain ⟨hv, hfollowing⟩ := List.forall_mem_cons.mp h
    have hname := squeezedTo_printString name
    cases following with
    | nil => exact hname.append (hv.cons (by decide))
    | cons m following =>
      exact hname.append ((hv.append ((ih hfollowing).cons (by decide))).cons (by decide))

/-- The text of a value becomes that of the value whose texts are squeezed. -/
theorem squeezedTo_chars {v : Value} (h : v.Integral) :
    SqueezedTo v.chars (v.mapTexts squeeze).chars := by
  induction v using Value.inductionOnParts with
  | null => exact squeezedTo_of_not_blank (by decide)
  | bool b => cases b <;> exact squeezedTo_of_not_blank (by decide)
  | number n =>
    cases n with
    | double d => exact h.elim
    | integer value hrange =>
      have hdigits : (digitsOf value.natAbs).all (!isBlank ·) = true :=
        all_not_blank_iff.mpr fun c hc => not_blank_of_isDigit (isDigit_of_mem_digitsOf hc)
      show SqueezedTo (Number.integer value hrange).print (Number.integer value hrange).print
      rw [Number.print]
      split
      · exact (squeezedTo_of_not_blank hdigits).cons (by decide)
      · exact squeezedTo_of_not_blank hdigits
  | string s => exact squeezedTo_printString s
  | array items ih =>
    rw [Value.integral_array] at h
    have hitems := squeezedTo_itemChars fun v hv => ih v hv (h v hv)
    rw [Value.mapTexts_array]
    exact (hitems.cons (by decide)).append (squeezedTo_of_not_blank (by decide))
  | object members ih =>
    rw [Value.integral_object] at h
    have hmembers := squeezedTo_memberChars fun m hm => ih m hm (h m hm)
    rw [Value.mapTexts_object]
    exact (hmembers.cons (by decide)).append (squeezedTo_of_not_blank (by decide))

/-- The compact text of an object, cut into words and put together again. -/
theorem spaced_words_compact {members : List (String × Value)}
    (h : (Value.object members).Integral) :
    Text.spaced (Text.words (Value.object members).compact) =
      ((Value.object members).mapTexts squeeze).compact := by
  have hfirst : ∀ c ∈ (Value.object members).chars.head?, isBlank c = false := by
    rintro _ ⟨⟩
    decide
  have hlast : ∀ c ∈ (Value.object members).chars.getLast?, isBlank c = false := by
    rw [Value.chars, List.getLast?_concat]
    rintro _ ⟨⟩
    decide
  have hsqueezed := squeezedTo_chars h []
  rw [List.append_nil, squeezeFrom, List.append_nil] at hsqueezed
  rw [Value.compact, Text.spaced_words hfirst hlast, hsqueezed]
  rfl

namespace Value

/-- A value whose texts are squeezed; names that have become the same are folded. -/
def squeezed (v : Value) : Value := (Document.ofValue (v.mapTexts squeeze)).value

/-- A value stays the same exactly if its texts are singly spaced. -/
theorem squeezed_eq_self_iff {v : Value} (h : v.Distinct) :
    v.squeezed = v ↔ ∀ t ∈ v.texts, Text.SinglySpaced isBareBlank t.toList := by
  constructor
  · intro hsame t ht
    rw [← hsame] at ht
    obtain ⟨s, -, rfl⟩ :=
      exists_of_mem_texts_mapTexts squeeze (Document.mem_texts_of_mem_texts_folded ht)
    exact squeeze_eq_self_iff.mp (squeeze_squeeze s)
  · intro hspaced
    have hmap : v.mapTexts squeeze = v :=
      mapTexts_eq_self squeeze fun t ht => squeeze_eq_self_iff.mpr (hspaced t ht)
    rw [squeezed, hmap]
    exact Document.value_of_fold? (Document.fold?_ofValue h)

end Value

end Statechart.Json
