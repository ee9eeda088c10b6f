import ContractToolkit.Machine.Size
import ContractToolkit.Text.Number

/-!
# Names in ASCII

Any text written in letters and digits of ASCII (Punycode): the characters of
ASCII first, then, behind a hyphen, where the others stand. These come in
ascending order. Each is told by the number of places passed over since the last
one, all places of the characters in between counted; the numbers are written in
digits whose weight depends on the last numbers.
-/

namespace ContractToolkit.DomainName.Punycode

/-- Digits. -/
def base : Nat := 36

/-- The number that a digit stands for. -/
def digit? (c : Char) : Option Nat :=
  if 'a' ≤ c ∧ c ≤ 'z' then some (c.toNat - 'a'.toNat)
  else if 'A' ≤ c ∧ c ≤ 'Z' then some (c.toNat - 'A'.toNat)
  else if c.isDigit then some (c.toNat - '0'.toNat + 26)
  else none

/-- The digit for a number. -/
def digitChar (n : Nat) : Char :=
  if n < 26 then Char.ofNat ('a'.toNat + n) else Char.ofNat ('0'.toNat + (n - 26))

/-- The least number that is no last digit at a place. -/
def threshold (place bias : Nat) : Nat := min 26 (max 1 (base * place - bias))

/-- A number divided until it is small, and the bias that this adds; so often at most. -/
def shrunk : (times : Nat) → (delta bias : Nat) → Nat × Nat
  | 0, delta, bias => (delta, bias)
  | times + 1, delta, bias =>
    if delta ≤ 455 then (delta, bias) else shrunk times (delta / 35) (bias + base)

/-- The bias after a number, with so many characters told. -/
def nextBias (delta count : Nat) (isFirst : Bool) : Nat :=
  let halved := if isFirst then delta / 700 else delta / 2
  let (small, bias) := shrunk halved (halved + halved / count) 0
  bias + base * small / (small + 38)

/-- The bias before the first number. -/
def firstBias : Nat := 72

/-- The first code point that is not of ASCII. -/
def firstCode : Nat := 0x80

/-- The least number that is too large to be read. -/
def numberLimit : Nat := Nat.pow 2 32

/-- A number at the start of digits, and the digits behind it. The number is added to `sum`, the
next digit counts `weight`. -/
def readNumber (bias : Nat) : (place weight sum : Nat) → List Char → Option (Nat × List Char)
  | _, _, _, [] => none
  | place, weight, sum, c :: rest => do
    let d ← digit? c
    let sum := sum + d * weight
    if numberLimit ≤ sum then none
    let t := threshold place bias
    if d < t then return (sum, rest)
    let weight := weight * (base - t)
    if numberLimit ≤ weight then none
    readNumber bias (place + 1) weight sum rest

/-- Text that is being decoded. -/
structure Decoding where
  /-- The text so far. -/
  text : List Char
  /-- The code point of the next character. -/
  code : Nat := firstCode
  /-- Where the next character may stand first. -/
  place : Nat := 0
  /-- The bias of the next number. -/
  bias : Nat := firstBias

/-- Text with one more character, and the digits that are left. -/
def Decoding.step (s : Decoding) (digits : List Char) : Option (Decoding × List Char) := do
  let (sum, rest) ← readNumber s.bias 1 1 s.place digits
  let count := s.text.length + 1
  let code := s.code + sum / count
  let place := sum % count
  if code.isValidChar then
    return (⟨s.text.insertIdx place (Char.ofNat code), code, place + 1,
      nextBias (sum - s.place) count (s.place == 0)⟩, rest)
  else none

/-- Text with all characters that digits tell, so many at most. -/
def Decoding.run : (fuel : Nat) → Decoding → List Char → Option (List Char)
  | _, s, [] => some s.text
  | 0, _, _ => none
  | fuel + 1, s, digits => do
    let (s, rest) ← s.step digits
    run fuel s rest

/-- The text that a name in ASCII stands for. -/
def decode? (s : List Char) : Option (List Char) :=
  let backwards := s.reverse
  let plain := ((backwards.dropWhile (· != '-')).drop 1).reverse
  let digits := if plain.isEmpty then s else (backwards.takeWhile (· != '-')).reverse
  if plain.all fun c => c.toNat < firstCode then Decoding.run digits.length ⟨plain, firstCode, 0,
    firstBias⟩ digits
  else none

/-- The digits of a number, the first of which stands at a place; so many at most. -/
def writeNumber (bias : Nat) : (fuel place n : Nat) → List Char
  | 0, _, _ => []
  | fuel + 1, place, n =>
    let t := threshold place bias
    if n < t then [digitChar n]
    else digitChar (t + (n - t) % (base - t)) ::
      writeNumber bias fuel (place + 1) ((n - t) / (base - t))

/-- Text that is being encoded. -/
structure Encoding where
  /-- The digits so far. -/
  digits : List Char := []
  /-- The places passed over since the last character. -/
  delta : Nat := 0
  /-- The bias of the next number. -/
  bias : Nat := firstBias
  /-- The characters told. -/
  told : Nat

/-- The encoding of a text after one more of its characters, the turn being that of a code point:
smaller ones are passed over. -/
def Encoding.visit (plain code : Nat) (s : Encoding) (c : Char) : Encoding :=
  if c.toNat < code then { s with delta := s.delta + 1 }
  else if c.toNat = code then
    { digits := s.digits ++ writeNumber s.bias (s.delta + 1) 1 s.delta
      delta := 0
      bias := nextBias s.delta (s.told + 1) (s.told == plain)
      told := s.told + 1 }
  else s

/-- The least code point of a text from a given one on. -/
def leastFrom? (code : Nat) (text : List Char) : Option Nat :=
  ((text.map Char.toNat).filter fun n => code ≤ n).min?

/-- The encoding of all characters from a code point on, of so many code points at most. -/
def Encoding.run (text : List Char) (plain : Nat) : (fuel code : Nat) → Encoding → Encoding
  | 0, _, s => s
  | fuel + 1, code, s =>
    match leastFrom? code text with
    | none => s
    | some next =>
      let s := { s with delta := s.delta + (next - code) * (s.told + 1) }
      let s := text.foldl (Encoding.visit plain next) s
      run text plain fuel (next + 1) { s with delta := s.delta + 1 }

/-- A text as a name in ASCII. -/
def encode (text : List Char) : List Char :=
  let plain := text.filter fun c => c.toNat < firstCode
  let final := Encoding.run text plain.length text.length firstCode { told := plain.length }
  plain ++ (if plain.isEmpty then [] else ['-']) ++ final.digits

end ContractToolkit.DomainName.Punycode
