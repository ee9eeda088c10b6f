import ContractToolkit.DomainName.CompositionTable
import ContractToolkit.Text.Pieces

/-!
# Composition of characters

The same letter with the same marks may be written in several ways. Here it is
taken apart, its marks are put in order, and it is composed again as far as that
goes (Normalization Form C). The syllables of Hangul are composed by arithmetic.
-/

namespace ContractToolkit.DomainName

/-- The class of a character; characters of class zero keep their place. -/
def combiningClass (c : Char) : Nat := ((rowFor? classRows c).map fun r => hexNumber r.value).getD 0

/-- A character made up of two others. -/
structure Composite where
  /-- The whole. -/
  whole : Char
  /-- The first of its parts. -/
  base : Char
  /-- The second of its parts. -/
  mark : Char
  deriving DecidableEq, Repr

/-- The characters made up of two others. -/
def composites : List Composite :=
  compositeRows.filterMap fun r =>
    match (Text.piecesBetween '+' r.value).map hexNumber with
    | [base, mark] => some ⟨Char.ofNat r.first, Char.ofNat base, Char.ofNat mark⟩
    | _ => none

namespace Hangul

/-- The first syllable. -/
def firstSyllable : Nat := 0xAC00

/-- The first consonant at the start of syllables. -/
def firstInitial : Nat := 0x1100

/-- The first vowel. -/
def firstVowel : Nat := 0x1161

/-- What stands before the first consonant at the end of syllables. -/
def beforeFinals : Nat := 0x11A7

/-- Consonants at the start of syllables. -/
def initials : Nat := 19

/-- Vowels. -/
def vowels : Nat := 21

/-- Ends of syllables, none of them counted too. -/
def finals : Nat := 28

/-- Syllables. -/
def syllables : Nat := initials * vowels * finals

/-- The parts of a syllable. -/
def parts? (c : Char) : Option (List Char) :=
  let n := c.toNat - firstSyllable
  if firstSyllable ≤ c.toNat ∧ n < syllables then
    let initial := Char.ofNat (firstInitial + n / (vowels * finals))
    let vowel := Char.ofNat (firstVowel + n / finals % vowels)
    let final := n % finals
    some (initial :: vowel :: if final = 0 then [] else [Char.ofNat (beforeFinals + final)])
  else none

/-- The syllable that starts with two parts, or the syllable with an end. -/
def whole? (a b : Char) : Option Char :=
  let initial := a.toNat - firstInitial
  let vowel := b.toNat - firstVowel
  let syllable := a.toNat - firstSyllable
  let final := b.toNat - beforeFinals
  if firstInitial ≤ a.toNat ∧ initial < initials ∧ firstVowel ≤ b.toNat ∧ vowel < vowels then
    some (Char.ofNat (firstSyllable + (initial * vowels + vowel) * finals))
  else if firstSyllable ≤ a.toNat ∧ syllable < syllables ∧ syllable % finals = 0 ∧
      beforeFinals < b.toNat ∧ final < finals then
    some (Char.ofNat (a.toNat + final))
  else none

end Hangul

/-- Marks on a character, one on the other, at most. -/
def mostMarks : Nat := 4

/-- The parts of a character, taken apart so often. -/
def partsOf : (times : Nat) → Char → List Char
  | 0, c => [c]
  | times + 1, c =>
    match Hangul.parts? c, composites.find? fun p => p.whole == c with
    | some parts, _ => parts
    | none, some p => partsOf times p.base ++ [p.mark]
    | none, none => [c]

/-- A text in reverse with one more character, which stands before all marks of a higher class. -/
def putInOrder (c : Char) : List Char → List Char
  | [] => [c]
  | d :: rest =>
    if 0 < combiningClass c ∧ combiningClass c < combiningClass d then d :: putInOrder c rest
    else c :: d :: rest

/-- A text with all characters taken apart and their marks in order. -/
def decomposed (s : List Char) : List Char :=
  ((s.flatMap (partsOf mostMarks)).foldl (fun placed c => putInOrder c placed) []).reverse

/-- The character that two others make up. -/
def whole? (a b : Char) : Option Char :=
  match Hangul.whole? a b with
  | some c => some c
  | none => (composites.find? fun p => p.base == a && p.mark == b).map Composite.whole

/-- A text that is being composed. -/
structure Composing where
  /-- What is composed, in reverse. -/
  done : List Char := []
  /-- The last character that keeps its place. -/
  base : Option Char := none
  /-- The marks behind it that are not part of it, in reverse. -/
  marks : List Char := []

/-- All that was composed, in reverse. -/
def Composing.all (s : Composing) : List Char := s.marks ++ s.base.toList ++ s.done

/-- Whether nothing stands between the base and a character of a class that keeps them apart. -/
def Composing.reaches (s : Composing) (order : Nat) : Bool :=
  match s.marks with
  | [] => true
  | mark :: _ => combiningClass mark < order

/-- The character that a base and a character behind it make up. -/
def Composing.whole? (s : Composing) (c : Char) : Option Char :=
  if s.reaches (combiningClass c) then s.base.bind fun base => DomainName.whole? base c else none

/-- A text with one more character. -/
def Composing.add (s : Composing) (c : Char) : Composing :=
  match s.whole? c with
  | some whole => { s with base := some whole }
  | none =>
    if combiningClass c = 0 then ⟨s.all, some c, []⟩ else { s with marks := c :: s.marks }

/-- A text in the one way in which it is written in names. -/
def composed (s : List Char) : List Char :=
  ((decomposed s).foldl Composing.add {}).all.reverse

end ContractToolkit.DomainName
