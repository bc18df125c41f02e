import Statechart.Proofs.Json.Text
import Statechart.Proofs.Json.Value
/-!
Compact text is read back. A value ends where its text ends: behind it stands nothing, a comma or a
closing bracket, so that no numeral runs on. Main statement: the compact text of a value whose
numbers are integers is read as the document that spells out the value.
-/

namespace Statechart.Json

/-! ## Characters -/

/-- What stands behind a value in a text: nothing, a comma or a closing bracket. -/
def Stops : List Char → Prop
  | [] => True
  | c :: _ => c = ',' ∨ c = ']' ∨ c = '}'

theorem stops_comma (rest : List Char) : Stops (',' :: rest) := .inl rfl

theorem stops_bracket (rest : List Char) : Stops (']' :: rest) := .inr (.inl rfl)

theorem stops_brace (rest : List Char) : Stops ('}' :: rest) := .inr (.inr rfl)

theorem skipSpace_cons {c : Char} (h : isSpace c = false) (rest : List Char) :
    skipSpace (c :: rest) = c :: rest := by
  simp [skipSpace, h]

/-! ## Numerals -/

theorem spanDigits_append {ds rest : List Char} (hds : ∀ c ∈ ds, c.isDigit = true)
    (hrest : Stops rest) : spanDigits (ds ++ rest) = (ds.map digitValue, rest) := by
  have hstop : rest.takeWhile Char.isDigit = [] ∧ rest.dropWhile Char.isDigit = rest := by
    cases rest with
    | nil => exact ⟨rfl, rfl⟩
    | cons c rest =>
      have hc : c.isDigit = false := by rcases hrest with rfl | rfl | rfl <;> rfl
      simp [hc]
  rw [spanDigits, List.takeWhile_append_of_pos hds, List.dropWhile_append_of_pos hds, hstop.1,
    hstop.2, List.append_nil]

theorem readFraction_of_stops {rest : List Char} (h : Stops rest) :
    readFraction rest = some ([], rest) := by
  cases rest with
  | nil => rfl
  | cons c rest => rcases h with rfl | rfl | rfl <;> rfl

theorem readExponent_of_stops {rest : List Char} (h : Stops rest) :
    readExponent rest = some (none, rest) := by
  cases rest with
  | nil => rfl
  | cons c rest => rcases h with rfl | rfl | rfl <;> rfl

theorem isDigit_of_mem_digitsOf {n : Nat} {c : Char} (h : c ∈ digitsOf n) : c.isDigit = true :=
  Nat.isDigit_of_mem_toDigits (by omega) (by omega) h

theorem natOfDigits_digitsOf (n : Nat) : natOfDigits ((digitsOf n).map digitValue) = n := by
  have hfold : natOfDigits ((digitsOf n).map digitValue) = Nat.ofDigitChars 10 (digitsOf n) 0 := by
    simp only [natOfDigits, List.foldl_map, Nat.ofDigitChars, digitValue, Nat.mul_comm]
  rw [hfold, digitsOf, Nat.ofDigitChars_toDigits (by omega) (by omega)]

/-- The digits of a positive number do not begin with a zero. -/
theorem exists_digitsOf_cons {n : Nat} (h : 0 < n) :
    ∃ c rest, digitsOf n = c :: rest ∧ digitValue c ≠ 0 := by
  induction n using Nat.strongRecOn with
  | ind n ih =>
    by_cases hsmall : n < 10
    · refine ⟨Nat.digitChar n, [], Nat.toDigits_of_lt_base hsmall, ?_⟩
      have hdigits : ∀ d < 10, 0 < d → digitValue (Nat.digitChar d) ≠ 0 := by decide
      exact hdigits n hsmall h
    · obtain ⟨c, rest, hdigits, hc⟩ := ih (n / 10) (by omega) (by omega)
      have happend := Nat.toDigits_append_toDigits (b := 10) (n := n / 10) (d := n % 10)
        (by omega) (by omega) (by omega)
      rw [Nat.div_add_mod] at happend
      refine ⟨c, rest ++ Nat.toDigits 10 (n % 10), ?_, hc⟩
      rw [digitsOf, ← happend]
      exact congrArg (· ++ _) hdigits

theorem readUnsigned_digitsOf (negative : Bool) (n : Nat) {rest : List Char} (h : Stops rest) :
    readUnsigned negative (digitsOf n ++ rest) =
      some (⟨negative, (digitsOf n).map digitValue, [], none⟩, rest) := by
  have hdigit : ∀ c ∈ digitsOf n, c.isDigit = true := fun c => isDigit_of_mem_digitsOf
  have hspan := spanDigits_append hdigit h
  rw [readUnsigned, hspan]
  rcases Nat.eq_zero_or_pos n with rfl | hpos
  · simp [digitsOf, Nat.toDigits_of_lt_base, readFraction_of_stops h, readExponent_of_stops h]
  · obtain ⟨c, ds, hdigits, hc⟩ := exists_digitsOf_cons hpos
    rw [hdigits, List.map_cons]
    split
    · next heq => cases heq
    · next heq => exact absurd (List.cons.inj (Prod.mk.inj heq).1).1 hc
    · next heq =>
      cases heq
      simp [readFraction_of_stops h, readExponent_of_stops h]

/-- A text that begins with a digit or a minus sign is read as a number. -/
theorem readDocument_eq_readNumber {c : Char} (h : c = '-' ∨ c.isDigit = true) (fuel : Nat)
    (rest : List Char) : readDocument (fuel + 1) (c :: rest) = readNumber (c :: rest) := by
  have hother : c ∉ [' ', '\t', '\n', '\r', '"', '[', '\x7b', 'n', 't', 'f'] := by
    intro hc
    rcases h with rfl | hdigit
    · revert hc
      decide
    · simp only [List.mem_cons, List.not_mem_nil, or_false] at hc
      rcases hc with rfl | rfl | rfl | rfl | rfl | rfl | rfl | rfl | rfl | rfl <;> cases hdigit
  simp only [List.mem_cons, List.not_mem_nil, or_false, not_or] at hother
  have hspace : isSpace c = false := by simp [isSpace, hother]
  rw [readDocument, skipSpace_cons hspace]
  split <;> simp_all

theorem exists_isDigit_cons (n : Nat) : ∃ c ds, digitsOf n = c :: ds ∧ c.isDigit = true := by
  obtain ⟨c, ds, hdigits⟩ := List.exists_cons_of_ne_nil (Nat.toDigits_ne_nil (n := n) (b := 10))
  have hmem : c ∈ digitsOf n := List.mem_of_mem_head? (congrArg List.head? hdigits)
  exact ⟨c, ds, hdigits, isDigit_of_mem_digitsOf hmem⟩

theorem readNumber_digitsOf {n : Nat} (h : n < 0x10000000000000000) {rest : List Char}
    (hrest : Stops rest) :
    readNumber (digitsOf n ++ rest) = some (.number (.ofNat n h), rest) := by
  obtain ⟨c, ds, hdigits, hc⟩ := exists_isDigit_cons n
  have hminus : c ≠ '-' := by
    rintro rfl
    cases hc
  have hread := readUnsigned_digitsOf false n hrest
  rw [hdigits, List.cons_append] at hread ⊢
  rw [readNumber, hread, ← hdigits]
  · simp [Numeral.number?, natOfDigits_digitsOf, h]
  · intro rest' heq
    exact hminus (List.cons.inj heq).1

theorem readNumber_minus {n : Nat} (h : 0 < n ∧ n ≤ 0x8000000000000000) {rest : List Char}
    (hrest : Stops rest) :
    readNumber ('-' :: digitsOf n ++ rest) =
      some (.number (.integer (-n) (by omega)), rest) := by
  rw [List.cons_append, readNumber, readUnsigned_digitsOf true n hrest]
  simp [Numeral.number?, natOfDigits_digitsOf, h]

/-- An integer is read back from its digits. -/
theorem readDocument_integer {value : Int}
    (h : -0x8000000000000000 ≤ value ∧ value < 0x10000000000000000) (fuel : Nat)
    {rest : List Char} (hrest : Stops rest) :
    readDocument (fuel + 1) ((Number.integer value h).print ++ rest) =
      some (.number (.integer value h), rest) := by
  rw [Number.print]
  split
  · next hnegative =>
    have hvalue : -(value.natAbs : Int) = value := by omega
    rw [List.cons_append, readDocument_eq_readNumber (.inl rfl), ← List.cons_append,
      readNumber_minus (by omega) hrest]
    simp only [hvalue]
  · next hnonneg =>
    have hvalue : (value.natAbs : Int) = value := by omega
    obtain ⟨c, ds, hdigits, hc⟩ := exists_isDigit_cons value.natAbs
    have hread := readNumber_digitsOf (n := value.natAbs) (by omega) hrest
    rw [hdigits, List.cons_append] at hread ⊢
    rw [readDocument_eq_readNumber (.inr hc), hread]
    simp only [Number.ofNat, hvalue]

/-! ## Documents -/

/-- No value begins with a blank or with the end of an array. -/
theorem exists_chars_cons {v : Value} (h : v.Integral) :
    ∃ c cs, v.chars = c :: cs ∧ isSpace c = false ∧ c ≠ ']' := by
  cases v with
  | bool b => cases b <;> exact ⟨_, _, rfl, rfl, by decide⟩
  | number n =>
    cases n with
    | double d => exact h.elim
    | integer value hrange =>
      obtain ⟨c, ds, hdigits, hc⟩ := exists_isDigit_cons value.natAbs
      rw [Value.chars, Number.print, hdigits]
      split
      · exact ⟨_, _, rfl, rfl, by decide⟩
      · refine ⟨c, ds, rfl, ?_, ?_⟩
        · by_contra hspace
          simp only [isSpace, Bool.not_eq_false, Bool.or_eq_true, beq_iff_eq] at hspace
          rcases hspace with ((rfl | rfl) | rfl) | rfl <;> cases hc
        · rintro rfl
          cases hc
  | _ => exact ⟨_, _, rfl, rfl, by decide⟩

/-- With some fuel, the text of a value is read back as its document, whatever stands behind it. -/
def ReadsBack (fuel : Nat) (v : Value) : Prop :=
  ∀ rest, Stops rest → readDocument fuel (v.chars ++ rest) = some (.ofValue v, rest)

theorem itemChars_cons_cons (v w : Value) (rest : List Value) :
    Value.itemChars (v :: w :: rest) = v.chars ++ ',' :: Value.itemChars (w :: rest) := rfl

theorem memberChars_cons_cons (name : String) (v : Value) (m : String × Value)
    (rest : List (String × Value)) : Value.memberChars ((name, v) :: m :: rest) =
      printString name ++ ':' :: (v.chars ++ ',' :: Value.memberChars (m :: rest)) := rfl

theorem printString_append (s : String) (rest : List Char) :
    printString s ++ rest = '"' :: (s.toList.flatMap escapeChar ++ '"' :: rest) := by
  simp [printString]

/-- Items are read back one after the other, if each of them is. -/
theorem readItems_itemChars {items : List Value}
    (h : ∀ v ∈ items, ∀ fuel, v.chars.length ≤ fuel → ReadsBack fuel v) (hne : items ≠ [])
    {fuel : Nat} (hfuel : (Value.itemChars items).length < fuel) (rest : List Char) :
    readItems fuel (Value.itemChars items ++ ']' :: rest) =
      some (items.map Document.ofValue, rest) := by
  induction items generalizing fuel with
  | nil => exact absurd rfl hne
  | cons v following ih =>
    obtain ⟨hv, hfollowing⟩ := List.forall_mem_cons.mp h
    cases fuel with
    | zero => omega
    | succ fuel =>
      cases following with
      | nil =>
        rw [Value.itemChars] at hfuel ⊢
        have hread := hv fuel (by omega) _ (stops_bracket rest)
        rw [readItems, hread]
        simp [skipSpace_cons, isSpace]
      | cons w following =>
        rw [itemChars_cons_cons, List.length_append, List.length_cons] at hfuel
        have hread := hv fuel (by omega) _
          (stops_comma (Value.itemChars (w :: following) ++ ']' :: rest))
        have hlater : (Value.itemChars (w :: following)).length < fuel := by omega
        have hrest := ih hfollowing (List.cons_ne_nil w following) hlater
        rw [itemChars_cons_cons, readItems, List.append_assoc, List.cons_append, hread]
        simp [skipSpace_cons, isSpace, hrest]

/-- Members are read back one after the other, if each of their values is. -/
theorem readEntries_memberChars {members : List (String × Value)}
    (h : ∀ m ∈ members, ∀ fuel, m.2.chars.length ≤ fuel → ReadsBack fuel m.2)
    (hne : members ≠ []) {fuel : Nat} (hfuel : (Value.memberChars members).length < fuel)
    (rest : List Char) :
    readEntries fuel (Value.memberChars members ++ '}' :: rest) =
      some (some (fields (members.map fun m => (m.1, Document.ofValue m.2))), rest) := by
  induction members generalizing fuel with
  | nil => exact absurd rfl hne
  | cons m following ih =>
    obtain ⟨name, v⟩ := m
    obtain ⟨hmember, hfollowing⟩ := List.forall_mem_cons.mp h
    have hv : ∀ fuel, v.chars.length ≤ fuel → ReadsBack fuel v := hmember
    cases fuel with
    | zero => omega
    | succ fuel =>
      cases following with
      | nil =>
        rw [Value.memberChars, List.length_append, List.length_cons] at hfuel
        have hread := hv fuel (by omega) _ (stops_brace rest)
        rw [Value.memberChars, readEntries, List.append_assoc, printString_append]
        simp [skipSpace_cons, isSpace, readString_flatMap, hread]
      | cons m following =>
        rw [memberChars_cons_cons] at hfuel
        simp only [List.length_append, List.length_cons] at hfuel
        have hread := hv fuel (by omega) _
          (stops_comma (Value.memberChars (m :: following) ++ '}' :: rest))
        have hlater : (Value.memberChars (m :: following)).length < fuel := by omega
        have hrest := ih hfollowing (List.cons_ne_nil m following) hlater
        rw [memberChars_cons_cons, readEntries, List.append_assoc, printString_append]
        simp [skipSpace_cons, isSpace, readString_flatMap, hread, hrest]

theorem readsBack_array {items : List Value} (hintegral : ∀ v ∈ items, v.Integral)
    (h : ∀ v ∈ items, ∀ fuel, v.chars.length ≤ fuel → ReadsBack fuel v) {fuel : Nat}
    (hfuel : (Value.itemChars items).length < fuel) : ReadsBack (fuel + 1) (.array items) := by
  intro rest _
  rw [Value.chars, Document.ofValue_array, List.append_assoc, List.singleton_append]
  cases items with
  | nil => simp [Value.itemChars, readDocument, skipSpace_cons, isSpace]
  | cons v following =>
    have hread := readItems_itemChars h (List.cons_ne_nil v following) hfuel rest
    -- the array is not taken for an empty one
    obtain ⟨c, cs, hchars, hspace, hbracket⟩ :
        ∃ c cs, Value.itemChars (v :: following) = c :: cs ∧ isSpace c = false ∧ c ≠ ']' := by
      obtain ⟨c, cs, hchars, hc⟩ := exists_chars_cons (hintegral v List.mem_cons_self)
      cases following with
      | nil => exact ⟨c, cs, hchars, hc⟩
      | cons w following =>
        rw [itemChars_cons_cons, hchars]
        exact ⟨c, _, rfl, hc⟩
    rw [hchars] at hread ⊢
    have hskip : skipSpace (c :: cs ++ ']' :: rest) = c :: cs ++ ']' :: rest :=
      skipSpace_cons hspace _
    rw [List.cons_append, readDocument, skipSpace_cons (by rfl)]
    simp only [hskip]
    split
    · next heq => exact absurd (List.cons.inj heq).1 hbracket
    · rw [hread]
      rfl

theorem readsBack_object {members : List (String × Value)}
    (h : ∀ m ∈ members, ∀ fuel, m.2.chars.length ≤ fuel → ReadsBack fuel m.2) {fuel : Nat}
    (hfuel : (Value.memberChars members).length < fuel) :
    ReadsBack (fuel + 1) (.object members) := by
  intro rest _
  rw [Value.chars, Document.ofValue_object, List.append_assoc, List.singleton_append]
  cases members with
  | nil => simp [Value.memberChars, readDocument, skipSpace_cons, isSpace]
  | cons m following =>
    have hread := readEntries_memberChars h (List.cons_ne_nil m following) hfuel rest
    obtain ⟨cs, hchars⟩ : ∃ cs, Value.memberChars (m :: following) = '"' :: cs := by
      cases following <;> exact ⟨_, rfl⟩
    rw [hchars, List.cons_append] at hread ⊢
    simp [readDocument, skipSpace_cons, isSpace, hread]

/-- No value has an empty text. -/
theorem exists_eq_succ_of_length_le {v : Value} (h : v.Integral) {fuel : Nat}
    (hfuel : v.chars.length ≤ fuel) : ∃ n, fuel = n + 1 := by
  obtain ⟨c, cs, hchars, -⟩ := exists_chars_cons h
  rw [hchars, List.length_cons] at hfuel
  exact Nat.exists_eq_succ_of_ne_zero (by omega)

/-- The text of a value is read back as the document that spells it out. -/
theorem readsBack_of_length_le {v : Value} (h : v.Integral) {fuel : Nat}
    (hfuel : v.chars.length ≤ fuel) : ReadsBack fuel v := by
  obtain ⟨fuel, rfl⟩ := exists_eq_succ_of_length_le h hfuel
  -- by induction on the value: each bracket takes one unit of fuel, and each part is shorter
  induction v using Value.inductionOnParts generalizing fuel with
  | null =>
    intro rest _
    simp [Value.chars, readDocument, skipSpace_cons, isSpace, expect, Document.ofValue]
  | bool b =>
    intro rest _
    cases b <;>
      simp [Value.chars, readDocument, skipSpace_cons, isSpace, expect, Document.ofValue]
  | number n =>
    intro rest hrest
    cases n with
    | double d => exact h.elim
    | integer value hrange => exact readDocument_integer hrange fuel hrest
  | string s =>
    intro rest _
    rw [Value.chars, printString_append, readDocument]
    simp [skipSpace_cons, isSpace, readString_flatMap, Document.ofValue]
  | array items ih =>
    rw [Value.integral_array] at h
    rw [Value.chars, List.length_append, List.length_cons, List.length_singleton] at hfuel
    refine readsBack_array h (fun v hv fuel hfuel => ?_) (by omega)
    obtain ⟨fuel, rfl⟩ := exists_eq_succ_of_length_le (h v hv) hfuel
    exact ih v hv (h v hv) fuel hfuel
  | object members ih =>
    rw [Value.integral_object] at h
    rw [Value.chars, List.length_append, List.length_cons, List.length_singleton] at hfuel
    refine readsBack_object (fun m hm fuel hfuel => ?_) (by omega)
    obtain ⟨fuel, rfl⟩ := exists_eq_succ_of_length_le (h m hm) hfuel
    exact ih m hm (h m hm) fuel hfuel

/-! ## Compact texts -/

/-- The compact text of a value is read as the document that spells out the value. -/
theorem Document.parse?_compact {v : Value} (h : v.Integral) :
    Document.parse? v.compact = some (.ofValue v) := by
  have hread : readDocument (2 * v.chars.length + 2) v.chars = some (.ofValue v, []) := by
    have hfuel : v.chars.length ≤ 2 * v.chars.length + 2 := by omega
    simpa using readsBack_of_length_le h hfuel [] trivial
  simp [Document.parse?, Value.compact, hread, skipSpace]

/-- The compact text of a value that is not too deep is read; names that are repeated are folded. -/
theorem Value.parse?_compact {v : Value} (h : v.Integral) (hdepth : v.depth ≤ maxLevels) :
    Value.parse? v.compact = some (Document.ofValue v).value := by
  have hreadable := Document.readable_ofValue_iff.mpr hdepth
  have hfold := (Document.isJson_ofValue v).fold?_eq
  simp [Value.parse?, Document.parse?_compact h, hreadable, hfold]

end Statechart.Json
