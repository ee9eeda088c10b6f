import ContractToolkit.Abi.Ty
import ContractToolkit.Bytes.Keccak
import ContractToolkit.Text.Utf8

/-!
# Canonical signatures

The text by which a function, an error or an event is known, and the digests
that stand for it: four octets for functions and errors, all 32 for events.
-/

namespace ContractToolkit.Abi

/-- The canonical signature of a name and parameter types. -/
def signature (name : String) (types : List Ty) : String :=
  String.ofList (name.toList ++ (Ty.tuple types).chars)

/-- The digest of a text. -/
def topic (text : String) : Hash := keccak256 (Text.utf8 text)

/-- The first four octets of the digest of a text. -/
def selector (text : String) : Selector := (topic text).extractLsb' 224 32

end ContractToolkit.Abi
