import ContractToolkit.Remote.Fault
import ContractToolkit.Signing.Key

/-!
# Signers

Whoever signs transactions for an account: a private key at hand, or anything
else that gives a signature or fails.
-/

namespace ContractToolkit

open Remote (TransportFault)

/-- A signer. -/
structure Signer where
  /-- The account that it signs for. -/
  address : Address
  /-- The signature of a transaction, or why there is none. -/
  sign : Transaction → Except TransportFault Signature

/-- The signer that holds a private key. -/
def PrivateKey.signer (k : PrivateKey) : Signer where
  address := k.address
  sign t :=
    match k.sign? t with
    | some signature => .ok signature
    | none => .error (.rpc "signing failed: signature error")

end ContractToolkit
