import Statechart.Text.CaseTable
import Statechart.Text.Ranges
/-!
Lower case for whole texts. Every capital maps to its small letter; a capital dotted I becomes an i
with a dot above, and a capital sigma that ends a word becomes the final sigma.
-/

namespace Statechart.Text

/-- Has the property `Cased`. -/
def isCased (c : Char) : Bool := inRanges casedRanges c

/-- Has the property `Case_Ignorable`. -/
def isCaseIgnorable (c : Char) : Bool := inRanges caseIgnorableRanges c

/-- The small letter of a single character, where it is a single character. -/
def lowerSimple (c : Char) : Char :=
  match lowerRuns.find? fun (lo, hi, step, _) =>
      lo ≤ c.toNat && c.toNat ≤ hi && (c.toNat - lo) % step == 0 with
  | some (_, _, _, delta) => Char.ofNat (Int.toNat (c.toNat + delta))
  | none => c

/-- The small form of a character other than the sigma. -/
def lowerChar (c : Char) : List Char :=
  if c == 'İ' then ['i', Char.ofNat 0x307] else [lowerSimple c]

/-- The first character that is not case ignorable is cased. -/
def touchesCased (cs : List Char) : Bool :=
  match cs.dropWhile isCaseIgnorable with
  | [] => false
  | c :: _ => isCased c

/-- Lower case of what follows; `before` is the text already read, newest character first. -/
def lowerFrom (before : List Char) : List Char → List Char
  | [] => []
  | c :: rest =>
    let here :=
      if c == 'Σ' then if touchesCased before && !touchesCased rest then ['ς'] else ['σ']
      else lowerChar c
    here ++ lowerFrom (c :: before) rest

/-- A text in lower case. -/
def lowercase (s : String) : String := String.ofList (lowerFrom [] s.toList)

end Statechart.Text
