import ContractToolkit.Bytes.Basic

/-!
# Recursive length prefixes

The serialization of transactions. An item is a byte string or a list of items.
A single small octet stands for itself; every other item has its length in front,
itself in one octet when it is below 56.
-/

namespace ContractToolkit

/-- Something that is serialized. -/
inductive Rlp where
  /-- A byte string. -/
  | octets (bytes : Bytes)
  /-- A list. -/
  | list (items : List Rlp)

namespace Rlp

/-- The length of what follows, where `base` marks its kind. -/
def header (base : Nat) (length : Nat) : Bytes :=
  if length < 56 then [UInt8.ofNat (base + length)]
  else
    let digits := Bytes.ofNatMinimal length
    UInt8.ofNat (base + 55 + digits.length) :: digits

/-- A byte string. -/
def encodeOctets (bytes : Bytes) : Bytes :=
  match bytes with
  | [b] => if b < 0x80 then [b] else header 0x80 1 ++ [b]
  | bytes => header 0x80 bytes.length ++ bytes

mutual

/-- An item. -/
def encode : Rlp → Bytes
  | octets bytes => encodeOctets bytes
  | list items =>
    let body := encodeAll items
    header 0xC0 body.length ++ body

/-- Items one after another. -/
def encodeAll : List Rlp → Bytes
  | [] => []
  | item :: rest => encode item ++ encodeAll rest

end

/-- A number without leading zeros. -/
def ofNat (n : Nat) : Rlp := octets (Bytes.ofNatMinimal n)

/-- An item that may be absent. -/
def optional {α : Type} (write : α → Rlp) : Option α → Rlp
  | some a => write a
  | none => octets []

end Rlp

end ContractToolkit
