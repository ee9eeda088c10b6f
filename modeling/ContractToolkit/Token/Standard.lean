import ContractToolkit.Interface.Loader

/-!
# The token standard

The interface of tokens that follow ERC-20: names and amounts are read, and
transfers and approvals are written and logged.
-/

namespace ContractToolkit.Token

open Interface

/-- The declarations of the standard. -/
def declarations : List String :=
  ["function name() view returns (string)",
    "function symbol() view returns (string)",
    "function decimals() view returns (uint8)",
    "function totalSupply() view returns (uint256)",
    "function balanceOf(address account) view returns (uint256)",
    "function allowance(address owner, address spender) view returns (uint256)",
    "function transfer(address to, uint256 amount) returns (bool)",
    "function approve(address spender, uint256 amount) returns (bool)",
    "function transferFrom(address from, address to, uint256 amount) returns (bool)",
    "event Transfer(address indexed from, address indexed to, uint256 value)",
    "event Approval(address indexed owner, address indexed spender, uint256 value)"]

/-- The interface of the standard. -/
def interface : Except Abi.DescriptorFault Interface := Interface.ofTexts declarations

end ContractToolkit.Token
