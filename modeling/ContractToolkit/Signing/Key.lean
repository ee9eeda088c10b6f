import ContractToolkit.Bytes.Keccak
import ContractToolkit.Chain.Transaction
import ContractToolkit.Settings.Fault
import ContractToolkit.Signing.Curve
import ContractToolkit.Signing.Sha256

/-!
# Private keys

A key is a number of the group, read from 64 hexadecimal digits. It has an
address, and it signs digests. The secret number of a signature is derived from
the key and the digest (RFC 6979), so that the same transaction always has the
same signature; of the two signatures that a secret number allows, the one with
the smaller second number is taken.
-/

namespace ContractToolkit

open Settings (KeyFault)

/-- A private key. -/
structure PrivateKey where
  /-- The number. -/
  scalar : Nat
  /-- It is not zero. -/
  pos : 0 < scalar
  /-- It is below the order of the group. -/
  lt_order : scalar < Signing.groupOrder

namespace PrivateKey

/-- The text after one leading mark in either case. -/
def withoutMark : Bytes → Bytes
  | 0x30 :: 0x78 :: rest => rest
  | 0x30 :: 0x58 :: rest => rest
  | s => s

/-- The octets that a text of digits writes, with or without a mark. -/
def readOctets (octets : Bytes) : Except KeyFault Bytes :=
  if octets.length % 2 = 1 then .error .oddDigits
  else match Hex.pairs 0 (withoutMark octets) with
    | .ok bytes => .ok bytes
    | .error .oddLength => .error .oddDigits
    | .error (.notDigit octet index) => .error (.notDigit octet index)

/-- The key of a number. -/
def ofNat (n : Nat) : Except KeyFault PrivateKey :=
  if h : 0 < n ∧ n < Signing.groupOrder then .ok ⟨n, h.1, h.2⟩ else .error .range

/-- The key that a text writes. -/
def ofText (text : String) : Except KeyFault PrivateKey := do
  let digits := Text.utf8 (String.ofList (Hex.withoutMarks text.toList))
  let bytes ← readOctets digits
  if bytes.length ≠ 32 then .error .wrongLength
  ofNat bytes.toNat

/-- The address of the account that the key signs for. -/
def address (k : PrivateKey) : Address :=
  match Signing.Point.mul k.scalar .base with
  | .zero => 0
  | .affine x y =>
    Address.ofBytes ((Word.bytes (keccak256 (Bytes.ofNat 32 x ++ Bytes.ofNat 32 y))).drop 12)

/-- A candidate for the secret number, and the state for the next one. The state is a key and a
value of the authentication code. -/
def nextCandidate (state : Bytes × Bytes) : Nat × (Bytes × Bytes) :=
  let value := Sha256.hmac state.1 state.2
  let key := Sha256.hmac state.1 (value ++ [0])
  (value.toNat, (key, Sha256.hmac key value))

/-- The state that candidates for a digest start from. -/
def candidateState (k : PrivateKey) (digest : Nat) : Bytes × Bytes :=
  let seed := Bytes.ofNat 32 k.scalar ++ Bytes.ofNat 32 (digest % Signing.groupOrder)
  let value := List.replicate 32 1
  let key := Sha256.hmac (Bytes.zeros 32) (value ++ 0 :: seed)
  let value := Sha256.hmac key value
  let key := Sha256.hmac key (value ++ 1 :: seed)
  (key, Sha256.hmac key value)

/-- The signature with a secret number, and whether the point of it has an odd ordinate, turned over
with the second number. -/
def signWith (k : PrivateKey) (digest secret : Nat) : Option (Nat × Nat × Bool) :=
  match Signing.Point.mul secret .base with
  | .zero => none
  | .affine x y =>
    let n := Signing.groupOrder
    let r := x % n
    let s := Signing.inverse n secret * (digest + r * k.scalar) % n
    if r = 0 ∨ s = 0 then none
    else if n / 2 < s then some (r, n - s, y % 2 = 0)
    else some (r, s, y % 2 = 1)

/-- The signature with the first candidate that gives one, with fuel for the candidates. -/
def signFrom (k : PrivateKey) (digest : Nat) : (fuel : Nat) → Bytes × Bytes →
    Option (Nat × Nat × Bool)
  | 0, _ => none
  | fuel + 1, state =>
    let (secret, state) := nextCandidate state
    let attempt :=
      if 0 < secret ∧ secret < Signing.groupOrder then k.signWith digest secret else none
    match attempt with
    | some signature => some signature
    | none => signFrom k digest fuel state

/-- The signature of a digest: its two numbers, and whether the ordinate is odd. -/
def signDigest (k : PrivateKey) (digest : Hash) : Option (Nat × Nat × Bool) :=
  let reduced := digest.toNat % Signing.groupOrder
  k.signFrom reduced 64 (k.candidateState digest.toNat)

/-- The signature of a transaction, marked with its chain. -/
def sign? (k : PrivateKey) (t : Transaction) : Option Signature :=
  let chainId := t.chainId.getD 1
  let named := { t with chainId := some chainId }
  (k.signDigest named.signingHash).map fun (r, s, odd) =>
    let mark := (if odd then 1 else 0) + 35 + BitVec.ofNat 64 chainId * 2
    ⟨BitVec.ofNat 256 r, BitVec.ofNat 256 s, mark⟩

end PrivateKey

end ContractToolkit
