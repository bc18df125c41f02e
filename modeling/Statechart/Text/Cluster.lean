import Statechart.Text.ClusterTable
import Statechart.Text.ExtendTable
import Statechart.Text.Ranges
/-!
Clusters: the stretches of a text that a reader takes for single characters, such as a letter with
its accents, a syllable of Hangul, two letters of a flag or an emoji made of several. They are the
extended grapheme clusters of Unicode. Main statement: the clusters of a text make up the text.
-/

namespace Statechart.Text

/-! ## What a character does in a cluster -/

/-- Always a cluster of its own, except that a line feed joins a carriage return. -/
def isControl (c : Char) : Bool := inRanges controlRanges c

/-- Extends the character before it: a mark, or a skin tone. -/
def isExtending (c : Char) : Bool :=
  inRanges extendRanges c || (0x1F3FB ≤ c.toNat && c.toNat ≤ 0x1F3FF)

/-- The zero width joiner. -/
def isJoiner (c : Char) : Bool := c.toNat == 0x200D

/-- Belongs to the character before it, as a mark that takes space of its own. -/
def isSpacing (c : Char) : Bool := inRanges spacingRanges c

/-- Belongs to the character behind it. -/
def isPrepended (c : Char) : Bool := inRanges prependRanges c

/-- A pictograph, which a joiner ties to another one. -/
def isPictograph (c : Char) : Bool := inRanges pictographRanges c

/-- One of the letters of which two make a flag. -/
def isFlagLetter (c : Char) : Bool := 0x1F1E6 ≤ c.toNat && c.toNat ≤ 0x1F1FF

/-- A consonant that may stand in a conjunct. -/
def isConjunctConsonant (c : Char) : Bool := inRanges conjunctConsonantRanges c

/-- Links the consonant before it to the one behind it. -/
def isLinker (c : Char) : Bool := inRanges linkerRanges c

/-- May stand between two consonants of a conjunct. The zero width non-joiner may not. -/
def isConjunctMark (c : Char) : Bool := (isExtending c && c.toNat != 0x200C) || isJoiner c

/-- The part of a Hangul syllable that a character writes. -/
inductive HangulPart
  | leading
  | vowel
  | trailing
  | openSyllable
  | closedSyllable
deriving DecidableEq, Repr

/-- The part of a Hangul syllable that a character writes, if it writes one: one of the three kinds of
letters, or a whole syllable, open or closed by a trailing consonant. -/
def hangulPart? (c : Char) : Option HangulPart :=
  if inRanges leadingRanges c then some .leading
  else if inRanges vowelRanges c then some .vowel
  else if inRanges trailingRanges c then some .trailing
  else if 0xAC00 ≤ c.toNat && c.toNat ≤ 0xD7A3 then
    some (if (c.toNat - 0xAC00) % 28 == 0 then .openSyllable else .closedSyllable)
  else none

/-- Two parts that stand next to each other in one syllable. -/
def HangulPart.precedes : HangulPart → HangulPart → Bool
  | leading, trailing => false
  | leading, _ => true
  | vowel, p | openSyllable, p => p == vowel || p == trailing
  | trailing, p | closedSyllable, p => p == trailing

/-! ## Where clusters end -/

/-- A text that ends, newest character first, in a consonant and marks behind it, one of which links
it to the next consonant. -/
def endsLinked (before : List Char) : Bool :=
  (before.takeWhile isConjunctMark).any isLinker &&
    (before.dropWhile isConjunctMark).head?.any isConjunctConsonant

/-- A text that ends, newest character first, in a pictograph with its marks. -/
def endsPictograph (before : List Char) : Bool :=
  (before.dropWhile isExtending).head?.any isPictograph

/-- A character joins the cluster in front of it, whose characters are given newest first. -/
def joins (before : List Char) (c : Char) : Bool :=
  match before with
  | [] => false
  | b :: earlier =>
    if isControl b || isControl c then b == '\r' && c == '\n'
    else
      ((hangulPart? b).any fun p => (hangulPart? c).any p.precedes) ||
        isExtending c || isJoiner c || isSpacing c || isPrepended b ||
        (isConjunctConsonant c && endsLinked before) ||
        (isPictograph c && isJoiner b && endsPictograph earlier) ||
        (isFlagLetter c && isFlagLetter b && (earlier.takeWhile isFlagLetter).length % 2 == 0)

/-- The clusters of a text; `cluster` is the one being read, newest character first. -/
def clustersFrom (cluster : List Char) : List Char → List (List Char)
  | [] => if cluster.isEmpty then [] else [cluster.reverse]
  | c :: rest =>
    if cluster.isEmpty || joins cluster c then clustersFrom (c :: cluster) rest
    else cluster.reverse :: clustersFrom [c] rest

/-- The clusters of a text. -/
def clusters (cs : List Char) : List (List Char) := clustersFrom [] cs

theorem flatten_clustersFrom (cluster cs : List Char) :
    (clustersFrom cluster cs).flatten = cluster.reverse ++ cs := by
  induction cs generalizing cluster with
  | nil => cases cluster <;> simp [clustersFrom]
  | cons c rest ih => by_cases h : (cluster.isEmpty || joins cluster c) <;> simp [clustersFrom, h, ih]

theorem flatten_clusters (cs : List Char) : (clusters cs).flatten = cs := by
  simp [clusters, flatten_clustersFrom]

end Statechart.Text
