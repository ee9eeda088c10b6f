import ContractToolkit.Bytes.Keccak
import ContractToolkit.Chain.Rlp
import ContractToolkit.Interface.Log

/-!
# Transactions

A transaction before it is signed, in two kinds of pricing, its serialization,
the digest that is signed, and the form in which a node takes it as a parameter.
-/

namespace ContractToolkit

/-- A signature with the mark that tells which of two keys has signed. -/
structure Signature where
  /-- The first number. -/
  r : Word
  /-- The second number. -/
  s : Word
  /-- The mark. -/
  v : BitVec 64
  deriving DecidableEq, Repr

/-- The prices of a transaction. What is absent is left to the node. -/
inductive Pricing where
  /-- One price for each unit of gas. -/
  | legacy (gasPrice : Option Word)
  /-- A greatest price, and a part of it for the maker of the block. -/
  | eip1559 (maxFee maxPriorityFee : Option Word)
  deriving DecidableEq, Repr

/-- A transaction that is not signed. -/
structure Transaction where
  /-- The prices. -/
  pricing : Pricing
  /-- The account that it comes from. -/
  sender : Option Address := none
  /-- Its number among the transactions of the sender. -/
  sequence : Option Word := none
  /-- The account that it goes to; absent for the creation of a contract. -/
  recipient : Option Address := none
  /-- The native value that it carries. -/
  value : Option Word := none
  /-- The call data or the creation data. -/
  data : Bytes
  /-- The greatest amount of gas. -/
  gas : Option Word := none
  /-- The chain that it is for. -/
  chainId : Option Nat := none
  deriving DecidableEq, Repr

namespace Transaction

/-- A number of 256 bits, if there is one. -/
def wordItem (w : Option Word) : Rlp := Rlp.optional (fun (w : Word) => Rlp.ofNat w.toNat) w

/-- A chain, if there is one. -/
def chainItem (id : Option Nat) : Rlp := Rlp.optional Rlp.ofNat id

/-- The recipient, if there is one. -/
def recipientItem (recipient : Option Address) : Rlp :=
  Rlp.optional (fun a => .octets (Address.bytes a)) recipient

/-- The mark in front of a serialized transaction of its kind. -/
def typeMark : Pricing → Bytes
  | .legacy _ => []
  | .eip1559 _ _ => [0x02]

/-- The fields that are signed. -/
def items (t : Transaction) : List Rlp :=
  match t.pricing with
  | .legacy gasPrice =>
    [wordItem t.sequence, wordItem gasPrice, wordItem t.gas, recipientItem t.recipient,
      wordItem t.value, .octets t.data]
  | .eip1559 maxFee maxPriorityFee =>
    [chainItem t.chainId, wordItem t.sequence, wordItem maxPriorityFee, wordItem maxFee,
      wordItem t.gas, recipientItem t.recipient, wordItem t.value, .octets t.data, .list []]

/-- The fields behind those that are signed, which a transaction of one price has when it names its
chain. -/
def chainItems (t : Transaction) : List Rlp :=
  match t.pricing, t.chainId with
  | .legacy _, some id => [Rlp.ofNat id, .octets [], .octets []]
  | _, _ => []

/-- What is signed. -/
def unsigned (t : Transaction) : Bytes :=
  typeMark t.pricing ++ Rlp.encode (.list (t.items ++ t.chainItems))

/-- The digest that is signed. -/
def signingHash (t : Transaction) : Hash := keccak256 t.unsigned

/-- The mark of a signature that also names a chain, reduced to zero or one, in 64 bits. -/
def parity (v : BitVec 64) (chainId : Nat) : BitVec 64 :=
  if 1 < v.toNat then v - BitVec.ofNat 64 chainId * 2 - 35 else v

/-- The mark as the kind of transaction has it. -/
def signatureMark (t : Transaction) (signature : Signature) : BitVec 64 :=
  match t.pricing with
  | .legacy _ => signature.v
  | .eip1559 _ _ => parity signature.v (t.chainId.getD 1)

/-- The signed transaction, ready to be sent. -/
def signed (t : Transaction) (signature : Signature) : Bytes :=
  let signatureItems := [Rlp.ofNat (t.signatureMark signature).toNat,
    Rlp.ofNat signature.r.toNat, Rlp.ofNat signature.s.toNat]
  typeMark t.pricing ++ Rlp.encode (.list (t.items ++ signatureItems))

/-- A field of a parameter that is only there when it is set. -/
def fieldJson {α : Type} (key : String) (write : α → String) : Option α → List (String × Json)
  | some a => [(key, .string (write a))]
  | none => []

/-- A number of 256 bits as a node takes it. -/
def wordText (w : Word) : String := quantity w.toNat

/-- The fields that every kind of transaction has. -/
def commonFields (t : Transaction) : List (String × Json) :=
  fieldJson "from" Address.hex t.sender ++ fieldJson "to" Address.hex t.recipient ++
    fieldJson "gas" wordText t.gas ++ fieldJson "value" wordText t.value ++
    [("data", .string t.data.hex)] ++ fieldJson "nonce" wordText t.sequence

/-- The transaction as a parameter of a request. -/
def toJson (t : Transaction) : Json :=
  match t.pricing with
  | .legacy gasPrice =>
    .object (("type", .string "0x00") :: t.commonFields ++ fieldJson "gasPrice" wordText gasPrice)
  | .eip1559 maxFee maxPriorityFee =>
    .object (("type", .string "0x02") :: t.commonFields ++ [("accessList", .array [])] ++
      fieldJson "maxPriorityFeePerGas" wordText maxPriorityFee ++
      fieldJson "maxFeePerGas" wordText maxFee)

end Transaction

end ContractToolkit
