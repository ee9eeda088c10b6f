import ContractToolkit.Bytes.Basic

/-!
# Keccak-256

The sponge over the permutation Keccak-f[1600] with a rate of 136 octets, a
32-octet digest and the padding `01 00 … 00 80` of the first submission (the
later standard pads with `06`).
-/

namespace ContractToolkit.Keccak

/-- Twenty-five lanes of 64 bits; the lane in column `x` and row `y` is at `x + 5 * y`. -/
abbrev State := Array UInt64

/-- The lane at an index. -/
def lane (s : State) (i : Nat) : UInt64 := s.getD i 0

/-- Left rotation of a lane. -/
def rotate (x : UInt64) (n : Nat) : UInt64 :=
  (x <<< UInt64.ofNat n) ||| (x >>> UInt64.ofNat (64 - n))

/-- Rotation of each lane, in the order of the state. -/
def rotations : Array Nat :=
  #[0, 1, 62, 28, 27, 36, 44, 6, 55, 20, 3, 10, 43, 25, 39, 41, 45, 15, 21, 8, 18, 2, 61, 56, 14]

/-- The constant that each round adds to the first lane. -/
def roundConstants : List UInt64 :=
  [0x0000000000000001, 0x0000000000008082, 0x800000000000808A, 0x8000000080008000,
   0x000000000000808B, 0x0000000080000001, 0x8000000080008081, 0x8000000000008009,
   0x000000000000008A, 0x0000000000000088, 0x0000000080008009, 0x000000008000000A,
   0x000000008000808B, 0x800000000000008B, 0x8000000000008089, 0x8000000000008003,
   0x8000000000008002, 0x8000000000000080, 0x000000000000800A, 0x800000008000000A,
   0x8000000080008081, 0x8000000000008080, 0x0000000080000001, 0x8000000080008008]

/-- Each lane is mixed with the parities of two neighbouring columns. -/
def theta (s : State) : State :=
  let parity := (Array.range 5).map fun x =>
    lane s x ^^^ lane s (x + 5) ^^^ lane s (x + 10) ^^^ lane s (x + 15) ^^^ lane s (x + 20)
  let mixed := (Array.range 5).map fun x =>
    parity.getD ((x + 4) % 5) 0 ^^^ rotate (parity.getD ((x + 1) % 5) 0) 1
  (Array.range 25).map fun i => lane s i ^^^ mixed.getD (i % 5) 0

/-- Lanes are rotated and moved: the lane for column `x`, row `y` comes from column `x + 3 y`, row
`x`. -/
def rhoPi (s : State) : State :=
  (Array.range 25).map fun i =>
    let j := (i % 5 + 3 * (i / 5)) % 5 + 5 * (i % 5)
    rotate (lane s j) (rotations.getD j 0)

/-- Each lane is mixed with the two that follow it in its row. -/
def chi (s : State) : State :=
  (Array.range 25).map fun i =>
    let row := 5 * (i / 5)
    lane s i ^^^ ((~~~ lane s (row + (i + 1) % 5)) &&& lane s (row + (i + 2) % 5))

/-- One round of the permutation. -/
def round (s : State) (constant : UInt64) : State :=
  (chi (rhoPi (theta s))).modify 0 (· ^^^ constant)

/-- The permutation Keccak-f[1600]. -/
def permute (s : State) : State := roundConstants.foldl round s

/-- Octets taken in by one permutation. -/
def rate : Nat := 136

/-- A lane read from octets, least significant first. -/
def laneOfBytes (bytes : Bytes) : UInt64 :=
  bytes.foldr (fun b acc => (acc <<< 8) ||| b.toUInt64) 0

/-- The octets of a lane, least significant first. -/
def bytesOfLane (x : UInt64) : Bytes :=
  (List.range 8).map fun i => (x >>> UInt64.ofNat (8 * i)).toUInt8

/-- The octets from a position on, eight to a lane, for a number of lanes. -/
def lanesOfBytes : (count : Nat) → Bytes → List UInt64
  | 0, _ => []
  | count + 1, bytes => laneOfBytes (bytes.take 8) :: lanesOfBytes count (bytes.drop 8)

/-- The state after one block of input is mixed in and permuted. -/
def absorbBlock (s : State) (block : Bytes) : State :=
  let lanes := (lanesOfBytes 17 block).toArray
  permute (s.mapIdx fun i x => x ^^^ lanes.getD i 0)

/-- The state after a number of blocks of input. -/
def absorb : (blocks : Nat) → State → Bytes → State
  | 0, s, _ => s
  | blocks + 1, s, input => absorb blocks (absorbBlock s (input.take rate)) (input.drop rate)

/-- The octets that fill up the last block; there is always at least one. -/
def padding (length : Nat) : Bytes :=
  match rate - length % rate with
  | 1 => [0x81]
  | missing => 0x01 :: (Bytes.zeros (missing - 2) ++ [0x80])

end ContractToolkit.Keccak

namespace ContractToolkit

/-- Keccak-256 digest of a byte string. -/
def keccak256 (data : Bytes) : Hash :=
  let final := Keccak.absorb (data.length / Keccak.rate + 1) (Array.replicate 25 0)
    (data ++ Keccak.padding data.length)
  Word.ofBytes ((final.toList.take 4).flatMap Keccak.bytesOfLane)

end ContractToolkit
