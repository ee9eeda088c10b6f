/-!
# Byte strings and fixed-width words

Byte strings are lists of octets. A 256-bit word, a 160-bit account address
and a 32-bit selector are numbers of that width; their octets are written most
significant first.
-/

namespace ContractToolkit

/-- A string of octets. -/
abbrev Bytes := List UInt8

/-- A 256-bit word, read as an unsigned or as a two's complement number. -/
abbrev Word := BitVec 256

/-- The account that a contract or a user answers to. -/
abbrev Address := BitVec 160

/-- The four octets that select a function or an error. -/
abbrev Selector := BitVec 32

/-- The 256-bit digest that stands in a log for a signature or a value. -/
abbrev Hash := BitVec 256

namespace Bytes

/-- Number written by octets, most significant first, after the number `start`. -/
def toNatFrom (start : Nat) (bytes : Bytes) : Nat :=
  bytes.foldl (fun acc b => acc * 256 + b.toNat) start

/-- Number written by octets, most significant first. -/
def toNat (bytes : Bytes) : Nat := toNatFrom 0 bytes

/-- The last `width` octets of a number, most significant first. -/
def ofNat : (width : Nat) → Nat → Bytes
  | 0, _ => []
  | width + 1, n => ofNat width (n / 256) ++ [UInt8.ofNat n]

/-- As many octets as the number needs, none for zero. -/
def ofNatMinimal (n : Nat) : Bytes := ofNat ((Nat.log2 n + 8) / 8) n |>.dropWhile (· == 0)

/-- Zero octets. -/
def zeros (count : Nat) : Bytes := List.replicate count 0

end Bytes

/-- The 32 octets of a word. -/
def Word.bytes (w : Word) : Bytes := Bytes.ofNat 32 w.toNat

/-- The word written by octets. -/
def Word.ofBytes (bytes : Bytes) : Word := BitVec.ofNat 256 bytes.toNat

/-- The 20 octets of an address. -/
def Address.bytes (a : Address) : Bytes := Bytes.ofNat 20 a.toNat

/-- The address written by octets. -/
def Address.ofBytes (bytes : Bytes) : Address := BitVec.ofNat 160 bytes.toNat

/-- The 4 octets of a selector. -/
def Selector.bytes (s : Selector) : Bytes := Bytes.ofNat 4 s.toNat

/-- The selector written by octets. -/
def Selector.ofBytes (bytes : Bytes) : Selector := BitVec.ofNat 32 bytes.toNat

namespace Bytes

@[simp] theorem length_ofNat (width n : Nat) : (ofNat width n).length = width := by
  induction width generalizing n with
  | zero => rfl
  | succ width ih => simp [ofNat, ih]

end Bytes

@[simp] theorem Word.length_bytes (w : Word) : (Word.bytes w).length = 32 := Bytes.length_ofNat _ _

@[simp] theorem Address.length_bytes (a : Address) : (Address.bytes a).length = 20 :=
  Bytes.length_ofNat _ _

@[simp] theorem Selector.length_bytes (s : Selector) : (Selector.bytes s).length = 4 :=
  Bytes.length_ofNat _ _

end ContractToolkit
