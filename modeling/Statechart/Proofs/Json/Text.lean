import Statechart.Json.Printer
import Statechart.Json.Reader
/-!
Strings as JSON text. A character is written as itself, as an escape of one letter, or as a code unit
with four digits; each is read as one piece that says the character. Main statement: a string is read
back up to its closing quote, whatever follows.
-/

namespace Statechart.Json

/-! ## One character -/

/-- A piece of a string says a character, by itself or by its code unit below the space. -/
def Piece.Says (p : Piece) (c : Char) : Prop := p = .char c ∨ p = .unit c.toNat ∧ c.toNat < 0x20

theorem hexValue?_hexDigit (n : Nat) : hexValue? (hexDigit n) = some (n % 16) := by
  have hdigits : ∀ d < 16, hexValue? (Nat.digitChar d) = some d := by decide
  exact hdigits _ (Nat.mod_lt _ (by omega))

/-- The four digits of a control character give its code unit. -/
theorem hexUnit?_control {n : Nat} (h : n < 0x20) :
    hexUnit? '0' '0' (hexDigit (n / 16)) (hexDigit n) = some n := by
  have hzero : hexValue? '0' = some 0 := by decide
  have hunit : ((0 * 16 + 0) * 16 + n / 16 % 16) * 16 + n % 16 = n := by omega
  simp only [hexUnit?, hexValue?_hexDigit, hzero, Option.bind_eq_bind, Option.bind_some,
    Option.pure_def, hunit]

/-- A character that needs no escape is a piece of its own. -/
theorem readPieces_cons {c : Char} (hquote : c ≠ '"') (hbackslash : c ≠ '\\')
    (hspace : ¬ c.toNat < 0x20) (rest : List Char) :
    readPieces (c :: rest) = (readPieces rest).bind fun r => some (.char c :: r.1, r.2) := by
  rw [readPieces.eq_def]
  split
  · next h => cases h
  · next h => exact absurd (List.cons.inj h).1 hquote
  · next h => exact absurd (List.cons.inj h).1 hbackslash
  · next h => exact absurd (List.cons.inj h).1 hbackslash
  · next h =>
    cases h
    rw [if_neg hspace]
    rfl

/-- A character of a string is read back as one piece, whatever follows it. -/
theorem readPieces_escapeChar (c : Char) (rest : List Char) :
    ∃ p : Piece, p.Says c ∧
      readPieces (escapeChar c ++ rest) =
        (readPieces rest).bind fun r => some (p :: r.1, r.2) := by
  unfold escapeChar
  split
  -- the escapes of one letter come first
  iterate 7
    · exact ⟨.char _, .inl rfl, by simp [readPieces]⟩
  split
  · next hcontrol =>
    refine ⟨.unit c.toNat, .inr ⟨rfl, hcontrol⟩, ?_⟩
    simp [readPieces, hexUnit?_control hcontrol]
  · next hquote hbackslash _ _ _ _ _ hspace =>
    exact ⟨.char c, .inl rfl, readPieces_cons hquote hbackslash hspace rest⟩

/-- A code unit in front that is no half of a surrogate pair is a character of its own. -/
theorem decodePieces_unit {n : Nat} (h : n < 0xD800) (ps : List Piece) :
    decodePieces (.unit n :: ps) = (decodePieces ps).bind fun cs => some (Char.ofNat n :: cs) := by
  have hpair : ¬ (0xD800 ≤ n ∧ n < 0xE000) := by omega
  have hhigh : ¬ (0xD800 ≤ n ∧ n < 0xDC00) := by omega
  have hlow : ¬ (0xDC00 ≤ n ∧ n < 0xE000) := by omega
  -- what follows decides how a unit is read
  match ps with
  | [] => simp [decodePieces, hpair]
  | .char c :: rest => simp [decodePieces, hpair, Option.bind_assoc]
  | .unit m :: rest => simp [decodePieces, hhigh, hlow]

/-- A piece in front is decoded to the character that it says. -/
theorem Piece.Says.decodePieces_cons {p : Piece} {c : Char} (h : p.Says c) (ps : List Piece) :
    decodePieces (p :: ps) = (decodePieces ps).bind fun cs => some (c :: cs) := by
  rcases h with rfl | ⟨rfl, hcontrol⟩
  · simp [decodePieces]
  · rw [decodePieces_unit (by omega), Char.ofNat_toNat]

/-! ## Strings -/

/-- The characters between the quotes of a string are read back up to the closing quote. -/
theorem exists_readPieces_flatMap (cs rest : List Char) :
    ∃ ps, readPieces (cs.flatMap escapeChar ++ '"' :: rest) = some (ps, rest) ∧
      decodePieces ps = some cs := by
  induction cs with
  | nil => exact ⟨[], by simp [readPieces], rfl⟩
  | cons c cs ih =>
    obtain ⟨ps, hps, hdecode⟩ := ih
    obtain ⟨p, hpiece, hread⟩ := readPieces_escapeChar c (cs.flatMap escapeChar ++ '"' :: rest)
    refine ⟨p :: ps, ?_, ?_⟩
    · rw [List.flatMap_cons, List.append_assoc, hread, hps, Option.bind_some]
    · rw [hpiece.decodePieces_cons, hdecode, Option.bind_some]

/-- A string is read back up to its closing quote. -/
theorem readString_flatMap (s : String) (rest : List Char) :
    readString (s.toList.flatMap escapeChar ++ '"' :: rest) = some (some s, rest) := by
  obtain ⟨ps, hps, hdecode⟩ := exists_readPieces_flatMap s.toList rest
  simp [readString, hps, hdecode]

end Statechart.Json
