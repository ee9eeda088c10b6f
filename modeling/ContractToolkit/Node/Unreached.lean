import ContractToolkit.Node.SocketAddress

/-!
# Nodes that are not reached

Why a request over HTTP does not reach a node, told with the address of the node
as it was understood. The user in an address is not told.
-/

namespace ContractToolkit.Node

/-- Schemes of addresses that requests are sent to. -/
def requestSchemes : List String := ["http", "https"]

/-- Whether a request can be sent to an address: all its parts are such that they can be told to the
machine. -/
def isSendable (u : Url) : Bool :=
  u.text.utf8ByteSize ≤ SocketAddress.greatestLength &&
    u.authorityText.toList.all fun c => c == '%' || SocketAddress.isAddressChar c

/-- The report on a node that is not reached, by its address. -/
def unreachedReport (url : Url) : String :=
  let address := url.withoutUser
  let place := " for url (" ++ address.text ++ ")"
  if !requestSchemes.contains url.scheme then
    "builder error" ++ place ++ ": URL scheme is not allowed"
  else if !isSendable address then "builder error" ++ place ++ ": Parsed Url is not a valid Uri"
  else "error sending request" ++ place ++
    ": error trying to connect: tcp connect error: Connection refused (os error 111)"

end ContractToolkit.Node
