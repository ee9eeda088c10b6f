import ContractToolkit.Abi.Signature
import ContractToolkit.Main
import ContractToolkit.Node.Script
import ContractToolkit.Remote.Session
import ContractToolkit.Token.Standard
import ContractToolkit.Files.Folder
import ContractToolkit.Proofs.Abi.Extension
import ContractToolkit.Proofs.Abi.Soundness
import ContractToolkit.Proofs.Interface.Documents
import ContractToolkit.Proofs.Interface.Faults
import ContractToolkit.Proofs.Interface.Filters
import ContractToolkit.Proofs.Interface.LogRoundTrip
import ContractToolkit.Proofs.Interface.Additions
import ContractToolkit.Proofs.Interface.Lookup
import ContractToolkit.Proofs.Interface.Signatures
import ContractToolkit.Proofs.Interface.LogDispatch
import ContractToolkit.Proofs.Remote.Ledger
import ContractToolkit.Proofs.Remote.Submissions
import ContractToolkit.Proofs.Remote.Replies
import ContractToolkit.Proofs.Interface.Reasons
import ContractToolkit.Proofs.Remote.CreationReverts
import ContractToolkit.Proofs.Remote.ReadOnly
import ContractToolkit.Proofs.Abi.JsonForm
import ContractToolkit.Proofs.Abi.JsonTyping
import ContractToolkit.Proofs.CommandLine.Arguments
import ContractToolkit.Proofs.Interface.LoggedJson
import ContractToolkit.Proofs.Interface.EventLookup
import ContractToolkit.Proofs.Abi.StaticData
import ContractToolkit.Proofs.Abi.HeadTail
import ContractToolkit.Proofs.Node.Broadcasts
import ContractToolkit.Proofs.Abi.HeadRoom
import ContractToolkit.Proofs.Abi.Relocation
import ContractToolkit.Proofs.Interface.Payloads
import ContractToolkit.Proofs.Interface.Receipts
import ContractToolkit.Proofs.Interface.RevertReasons
import ContractToolkit.Proofs.Abi.Depth
import ContractToolkit.Proofs.Abi.SpacedTypes
import ContractToolkit.Proofs.Interface.ParameterReading
import ContractToolkit.Proofs.Interface.TypePlaces
import ContractToolkit.Proofs.Interface.AcceptedTexts
import ContractToolkit.Proofs.CommandLine.BareFunctions
import ContractToolkit.Proofs.Abi.IntegerTexts
import ContractToolkit.Proofs.Abi.SingleWords
import ContractToolkit.Proofs.Token.Decimals
import ContractToolkit.Proofs.Abi.ArrayBounds
import ContractToolkit.Proofs.Abi.CountedBrackets
import ContractToolkit.Proofs.Settings.UsableSettings
import ContractToolkit.Proofs.Interface.DeclarationParts
