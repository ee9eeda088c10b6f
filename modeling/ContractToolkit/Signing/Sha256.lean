import ContractToolkit.Bytes.Basic

/-!
# SHA-256 and its keyed form

The digest that the choice of secret numbers for signatures is built on, by
FIPS 180-4, and the message authentication code HMAC over it.
-/

namespace ContractToolkit.Sha256

/-- The eight words of the state. -/
abbrev State := List UInt32

/-- The state at the start. -/
def initial : State :=
  [0x6a09e667, 0xbb67ae85, 0x3c6ef372, 0xa54ff53a, 0x510e527f, 0x9b05688c, 0x1f83d9ab, 0x5be0cd19]

/-- The constant of each round. -/
def roundConstants : List UInt32 :=
  [0x428a2f98, 0x71374491, 0xb5c0fbcf, 0xe9b5dba5, 0x3956c25b, 0x59f111f1, 0x923f82a4, 0xab1c5ed5,
   0xd807aa98, 0x12835b01, 0x243185be, 0x550c7dc3, 0x72be5d74, 0x80deb1fe, 0x9bdc06a7, 0xc19bf174,
   0xe49b69c1, 0xefbe4786, 0x0fc19dc6, 0x240ca1cc, 0x2de92c6f, 0x4a7484aa, 0x5cb0a9dc, 0x76f988da,
   0x983e5152, 0xa831c66d, 0xb00327c8, 0xbf597fc7, 0xc6e00bf3, 0xd5a79147, 0x06ca6351, 0x14292967,
   0x27b70a85, 0x2e1b2138, 0x4d2c6dfc, 0x53380d13, 0x650a7354, 0x766a0abb, 0x81c2c92e, 0x92722c85,
   0xa2bfe8a1, 0xa81a664b, 0xc24b8b70, 0xc76c51a3, 0xd192e819, 0xd6990624, 0xf40e3585, 0x106aa070,
   0x19a4c116, 0x1e376c08, 0x2748774c, 0x34b0bcb5, 0x391c0cb3, 0x4ed8aa4a, 0x5b9cca4f, 0x682e6ff3,
   0x748f82ee, 0x78a5636f, 0x84c87814, 0x8cc70208, 0x90befffa, 0xa4506ceb, 0xbef9a3f7, 0xc67178f2]

/-- Right rotation of a word. -/
def rotate (x : UInt32) (n : Nat) : UInt32 :=
  (x >>> UInt32.ofNat n) ||| (x <<< UInt32.ofNat (32 - n))

/-- The word that four octets write. -/
def wordOfBytes (bytes : Bytes) : UInt32 := UInt32.ofNat bytes.toNat

/-- The words of a block. -/
def blockWords (block : Bytes) : List UInt32 :=
  (List.range 16).map fun i => wordOfBytes ((block.drop (4 * i)).take 4)

/-- The words that the rounds take in: those of the block, and then each from four before it. The
window holds the last sixteen words. -/
def schedule : (count : Nat) → (window : List UInt32) → List UInt32
  | 0, _ => []
  | count + 1, window =>
    let word (i : Nat) : UInt32 := window.getD i 0
    let low := rotate (word 1) 7 ^^^ rotate (word 1) 18 ^^^ (word 1 >>> 3)
    let high := rotate (word 14) 17 ^^^ rotate (word 14) 19 ^^^ (word 14 >>> 10)
    word 0 :: schedule count (window.drop 1 ++ [word 0 + low + word 9 + high])

/-- One round with its word and its constant. -/
def round (s : State) (input : UInt32 × UInt32) : State :=
  match s with
  | [a, b, c, d, e, f, g, h] =>
    let high := rotate e 6 ^^^ rotate e 11 ^^^ rotate e 25
    let choice := (e &&& f) ^^^ ((~~~ e) &&& g)
    let first := h + high + choice + input.2 + input.1
    let low := rotate a 2 ^^^ rotate a 13 ^^^ rotate a 22
    let majority := (a &&& b) ^^^ (a &&& c) ^^^ (b &&& c)
    [first + (low + majority), a, b, c, d + first, e, f, g]
  | s => s

/-- The state after a block. -/
def compress (s : State) (block : Bytes) : State :=
  let words := schedule 64 (blockWords block)
  List.zipWith (· + ·) s ((words.zip roundConstants).foldl round s)

/-- The state after a number of blocks. -/
def absorb : (blocks : Nat) → State → Bytes → State
  | 0, s, _ => s
  | blocks + 1, s, input => absorb blocks (compress s (input.take 64)) (input.drop 64)

/-- The octets that fill up the last block: a one, zeros, and the length in bits. -/
def padding (length : Nat) : Bytes :=
  0x80 :: (Bytes.zeros ((119 - length % 64) % 64) ++ Bytes.ofNat 8 (8 * length))

/-- The digest of a byte string. -/
def digest (data : Bytes) : Bytes :=
  let padded := data ++ padding data.length
  (absorb (padded.length / 64) initial padded).flatMap fun w => Bytes.ofNat 4 w.toNat

/-- A key filled up to a block, or its digest when it is longer. -/
def blockKey (key : Bytes) : Bytes :=
  let key := if 64 < key.length then digest key else key
  key ++ Bytes.zeros (64 - key.length)

/-- The authentication code of a message under a key. -/
def hmac (key message : Bytes) : Bytes :=
  let key := blockKey key
  digest (key.map (· ^^^ 0x5c) ++ digest (key.map (· ^^^ 0x36) ++ message))

end ContractToolkit.Sha256
