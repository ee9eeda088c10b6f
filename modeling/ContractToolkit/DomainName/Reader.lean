import ContractToolkit.DomainName.Joining
import ContractToolkit.DomainName.Mapping
import ContractToolkit.DomainName.Punycode

/-!
# Names of domains

A name is a row of labels with points between them. It may be written in any
script, and it may have letters of any case; its form in ASCII is the one that is
looked up. A label of that form that is not plain text starts with a mark.
-/

namespace ContractToolkit.DomainName

/-- How labels start that stand for other text. -/
def encodedMark : List Char := "xn--".toList

/-- Characters of an encoded label that are read at most. -/
def greatestEncoded : Nat := 2000

/-- Characters that a label may stand for at most, unless they are all of ASCII. -/
def greatestMeaning : Nat := 1000

/-- Characters of ASCII that separate parts of an address, or have a meaning there. -/
def reserved : List Char := "%#/:<>?@[\\]^|".toList

/-- Whether a character may not stand in a name. -/
def isReserved (c : Char) : Bool :=
  c.toNat ≤ 0x20 || c.toNat == 0x7f || reserved.contains c

/-- Whether a text has characters of ASCII only. -/
def isAscii (s : List Char) : Bool := s.all fun c => c.toNat < 0x80

/-- A label of a name. -/
structure Label where
  /-- The label as it is written. -/
  written : List Char
  /-- The text that it stands for. -/
  meaning : List Char

/-- The text that an encoded label stands for behind its mark. It has to be text that the mapping
and the composition leave as it is, and may not look encoded itself. -/
def encodedMeaning? (rest : List Char) : Option (List Char) := do
  if rest.isEmpty ∨ rest.getLast? = some '-' ∨ greatestEncoded < rest.length then none
  let meaning ← Punycode.decode? rest
  let again ← mappedText? meaning
  if composed again = meaning ∧ !encodedMark.isPrefixOf meaning then some meaning else none

/-- The label that is written in a way. -/
def Label.ofText? (written : List Char) : Option Label := do
  if encodedMark.isPrefixOf written then
    return ⟨written, ← encodedMeaning? (written.drop encodedMark.length)⟩
  else return ⟨written, written⟩

/-- Whether a label may stand in a name. -/
def Label.isWellFormed (l : Label) : Bool :=
  !(l.meaning.head?.any isMark) && joinsWell [] l.meaning &&
    (isAscii l.meaning || l.meaning.length ≤ greatestMeaning)

/-- A label in ASCII. -/
def Label.ascii (l : Label) : List Char :=
  if isAscii l.written then l.written else encodedMark ++ Punycode.encode l.written

/-- The name of a domain in ASCII, if a text is one. -/
def ascii? (name : List Char) : Option (List Char) := do
  let text := composed (← mappedText? name)
  if text.any isReserved then none
  let labels ← (Text.piecesBetween '.' text).mapM Label.ofText?
  if !labels.all Label.isWellFormed then none
  if (labels.any fun l => l.meaning.any isRightToLeft) ∧
      !(labels.all fun l => isDirected l.meaning) then none
  return Text.joinedBy '.' (labels.map Label.ascii)

end ContractToolkit.DomainName
