import ContractToolkit.Abi.Value.Inspect
import ContractToolkit.Json.Writer

/-!
# What can be wrong with declarations, values and payloads

The causes for which a declaration is refused, a value cannot be encoded, or
octets cannot be decoded, each with its report.
-/

namespace ContractToolkit.Abi

/-- Why a type, a signature or a declaration is refused, or a name is not known. -/
inductive DescriptorFault where
  /-- An integer of a width that is no multiple of 8 from 8 to 256. -/
  | integerWidth (bits : Nat)
  /-- A fixed byte string of no octets or of more than a word. -/
  | bytesSize (size : Nat)
  /-- A fixed sequence without elements. -/
  | emptyFixedArray
  /-- A type without any text. -/
  | emptyType
  /-- A closing bracket without an opening one. -/
  | unbalancedBrackets (text : String)
  /-- A declared length that is no size. -/
  | arrayLength (length text : String)
  /-- A declared width that is no size. -/
  | sizeInType (text : String)
  /-- A type of no known name. -/
  | unknownType (text : String)
  /-- Parentheses or brackets that do not match. -/
  | unbalancedParentheses (text : String)
  /-- A list with nothing before or after a comma. -/
  | emptyComponent (text : String)
  /-- A signature without parentheses. -/
  | missingParameters (text : String)
  /-- A word too many in a parameter. -/
  | unexpectedToken (word parameter : String)
  /-- A name that is no identifier. -/
  | identifier (name : String)
  /-- A state mutability of no known name. -/
  | mutability (text : String)
  /-- A word that is no modifier of a function. -/
  | modifier (word signature : String)
  /-- Return values that are not in parentheses. -/
  | returnsClause (signature : String)
  /-- A constructor with a name. -/
  | namedConstructor (signature : String)
  /-- An event with more indexed parameters than a log has topics for. -/
  | tooManyIndexed (name : String) (count most : Nat)
  /-- Words behind the parameters of an event. -/
  | afterEvent (words signature : String)
  /-- Words behind the parameters of an error. -/
  | afterError (words signature : String)
  /-- No member of the kind goes by the key. -/
  | unknownMember (kind key : String)
  /-- Several members of the kind go by the name. -/
  | overloaded (kind key : String)
  /-- A document that holds no list of members. -/
  | notAnInterface
  /-- A member of the kind without a name. -/
  | missingName (kind : String)
  /-- A parameter without a type. -/
  | missingType
  /-- A tuple parameter without components. -/
  | missingComponents (type : String)
  /-- No function has the selector. -/
  | unknownSelector (selector : Bytes)
  /-- A cause given in words. -/
  | described (text : String)
  deriving DecidableEq

/-- Report of a fault. -/
def DescriptorFault.message : DescriptorFault → String
  | integerWidth bits =>
    "invalid integer width " ++ Text.ofNat bits ++ ": must be a multiple of 8 in [8, 256]"
  | bytesSize size => "invalid fixed bytes size " ++ Text.ofNat size ++ ": must be in [1, 32]"
  | emptyFixedArray => "fixed array length must be at least 1"
  | emptyType => "empty ABI type"
  | unbalancedBrackets text => s!"unbalanced brackets in type '{text}'"
  | arrayLength length text => s!"invalid array length '{length}' in type '{text}'"
  | sizeInType text => s!"invalid size in type '{text}'"
  | unknownType text => s!"unknown ABI type '{text}'"
  | unbalancedParentheses text => s!"unbalanced parentheses in '{text}'"
  | emptyComponent text => s!"empty component in '{text}'"
  | missingParameters text => s!"missing parameter list in '{text}'"
  | unexpectedToken word parameter => s!"unexpected token '{word}' in parameter '{parameter}'"
  | identifier name => s!"invalid identifier '{name}'"
  | mutability text => s!"unknown state mutability '{text}'"
  | modifier word signature => s!"unexpected modifier '{word}' in '{signature}'"
  | returnsClause signature => s!"malformed returns clause in '{signature}'"
  | namedConstructor signature => s!"expected a constructor signature, got '{signature}'"
  | tooManyIndexed name count most =>
    s!"event {name} has {count} indexed parameters, at most {most} allowed"
  | afterEvent words signature => s!"unexpected '{words}' after event parameters in '{signature}'"
  | afterError words signature => s!"unexpected '{words}' in '{signature}'"
  | unknownMember kind key => s!"unknown {kind} '{key}'"
  | overloaded kind key => s!"{kind} '{key}' is overloaded; use its full signature"
  | notAnInterface => "ABI must be an array or an object with an 'abi' array"
  | missingName kind => s!"{kind} must have a name"
  | missingType => "Parameter must have a type"
  | missingComponents type => s!"Tuple parameter '{type}' must have components"
  | unknownSelector selector => "no function with selector " ++ selector.hex
  | described text => text

/-- Report of a fault with its kind in front. -/
def DescriptorFault.report (f : DescriptorFault) : String := "Descriptor error: " ++ f.message

/-- Why a value cannot be encoded, or a JSON value is none of the type. -/
inductive EncodeFault where
  /-- Another number of arguments than declared. -/
  | argumentCount (expected actual : Nat)
  /-- An argument of another type than declared. -/
  | argumentType (index : Nat) (actual declared : Ty)
  /-- An unsigned integer that needs more bits than declared. -/
  | uintRange (value : Word) (bits : Nat)
  /-- A signed integer that needs more bits than declared. -/
  | intRange (value : Word) (bits : Nat)
  /-- A fixed byte string of no octets or of more than a word. -/
  | fixedBytesLength (length : Nat)
  /-- A fixed sequence without elements. -/
  | emptyFixedArray
  /-- An integer of a width that is no multiple of 8 from 8 to 256. -/
  | integerWidth (bits : Nat)
  /-- A sequence that declares a type no contract can declare. -/
  | elementType (fault : DescriptorFault)
  /-- A sequence with an element of another type than it declares. -/
  | elementMismatch (actual declared : Ty)
  /-- A JSON value of the wrong kind. -/
  | jsonMismatch (type : Ty) (json : Json)
  /-- A text that is no address. -/
  | addressText (text : String) (fault : Hex.FixedFault)
  /-- A byte string of another length than declared. -/
  | jsonBytes (size : Nat) (type : Ty) (actual : Nat)
  /-- A sequence of another length than declared. -/
  | jsonElements (length : Nat) (type : Ty) (actual : Nat)
  /-- Another number of components than declared. -/
  | jsonComponents (count : Nat) (type : Ty) (actual : Nat)
  /-- A text that is no unsigned integer of 256 bits. -/
  | unsignedText (text : String)
  /-- A text that is no signed integer of 256 bits. -/
  | signedRange (text : String)
  /-- A text that is no byte string. -/
  | hexText (text : String) (fault : Hex.Fault)
  /-- Arguments that cannot be encoded for the target. -/
  | inCall (target : String) (fault : EncodeFault)
  /-- A filter value of another type than the indexed parameter. -/
  | filterType (actual declared : Ty)
  /-- An indexed parameter of a type whose digests are not built. -/
  | unfilterable (type : Ty)
  /-- More filter values than indexed parameters. -/
  | filterCount (signature : String) (indexed given : Nat)
  /-- Native value for a target that takes none. -/
  | notPayable (target : String) (value : Word)
  /-- A deployment without code. -/
  | emptyBytecode
  /-- A cause given in words. -/
  | described (text : String)

/-- Report of a fault. -/
def EncodeFault.message : EncodeFault → String
  | argumentCount expected actual => s!"expected {expected} arguments but got {actual}"
  | argumentType index actual declared =>
    s!"argument {index} has type {actual.canonical} but {declared.canonical} was declared"
  | uintRange value bits => s!"value {value.toNat} does not fit in uint{bits}"
  | intRange value bits => "value " ++ Text.ofInt value.toInt ++ s!" does not fit in int{bits}"
  | fixedBytesLength length => s!"fixed bytes value has {length} bytes, expected 1 to 32"
  | emptyFixedArray => "fixed array value must have at least one element"
  | integerWidth bits => s!"invalid integer width {bits}"
  | elementType fault => fault.report
  | elementMismatch actual declared =>
    s!"array element of type {actual.canonical} in array of {declared.canonical}"
  | jsonMismatch type json => s!"expected {type.canonical} but got JSON {json.compact}"
  | addressText text fault => s!"invalid address '{text}': {fault.message}"
  | jsonBytes size type actual => s!"expected {size} bytes for {type.canonical} but got {actual}"
  | jsonElements length type actual =>
    s!"expected {length} elements for {type.canonical} but got {actual}"
  | jsonComponents count type actual =>
    s!"expected {count} components for {type.canonical} but got {actual}"
  | unsignedText text => s!"invalid unsigned integer '{text}'"
  | signedRange text => s!"signed integer '{text}' out of range"
  | hexText text fault => s!"invalid hex '{text}': {fault.message}"
  | inCall target fault => target ++ ": ABI encode error: " ++ fault.message
  | filterType actual declared =>
    s!"filter value of type {actual.canonical} for indexed parameter of type {declared.canonical}"
  | unfilterable type => s!"cannot build a topic filter for indexed {type.canonical} parameters"
  | filterCount signature indexed given =>
    s!"event {signature} has {indexed} indexed parameters but {given} filter values were given"
  | notPayable target value => s!"{target} is not payable but {value.toNat} wei was attached"
  | emptyBytecode => "cannot deploy empty bytecode"
  | described text => text

/-- Why octets cannot be decoded. -/
inductive DecodeFault where
  /-- A type that no contract can declare. -/
  | invalidType (fault : DescriptorFault)
  /-- A single value was asked for and none was found. -/
  | noValue
  /-- An offset that points past the end. -/
  | offsetOutside (value head length : Nat)
  /-- A head whose end is no size. -/
  | headOverflow (type : Ty) (head : Nat)
  /-- An address with something before its octets. -/
  | addressPadding (place : Nat)
  /-- An unsigned integer that needs more bits than declared. -/
  | uintRange (value : Word) (place bits : Nat)
  /-- A signed integer that is not extended by its sign. -/
  | intRange (place bits : Nat)
  /-- A truth value that is neither zero nor one. -/
  | truthValue (value : Word) (place : Nat)
  /-- A fixed byte string with something behind its octets. -/
  | bytesPadding (size place : Nat)
  /-- A text that is not UTF-8. -/
  | notText (place : Nat) (fault : Text.Utf8Fault)
  /-- More elements than the data has room for. -/
  | elementCount (count : Nat) (type : Ty) (place length : Nat)
  /-- A word past the end. -/
  | wordOutside (place length : Nat)
  /-- A length or an offset that is no size. -/
  | sizeRange (value : Word) (place : Nat)
  /-- A byte string past the end. -/
  | bytesOutside (count place length : Nat)
  /-- Another number of topics than the event has. -/
  | topicCount (signature : String) (expected actual : Nat)
  /-- Data that does not decode as the parameters of the event. -/
  | eventData (signature : String) (fault : DecodeFault)
  /-- No topic is left for an indexed parameter. -/
  | missingTopic (name : String)
  /-- No value is left for a parameter. -/
  | missingValue (name : String)
  /-- A log index of more than 64 bits. -/
  | logIndex (index : Nat)
  /-- Call data for another function. -/
  | callSelector (selector : Selector) (signature : String)
  /-- Revert data of another error. -/
  | errorSelector (signature : String)
  /-- Call data of less than four octets. -/
  | shortCall
  /-- No return data where values were declared. -/
  | noData (signature : String) (recipient : Address)
  /-- Return values of an unexpected kind. -/
  | returnValues (values : List Value)
  /-- An event without an address under the name. -/
  | noAddress (event name : String)
  /-- An event without an unsigned integer under the name. -/
  | noUint (event name : String)
  /-- A cause given in words. -/
  | described (text : String)

/-- Report of a fault. -/
def DecodeFault.message : DecodeFault → String
  | invalidType fault => fault.report
  | noValue => "no value decoded"
  | offsetOutside value head length =>
    s!"offset {value} at byte {head} points past the end of {length} bytes"
  | headOverflow type head => s!"head of {type.canonical} at byte {head} overflows"
  | addressPadding place => s!"address at byte {place} has non-zero padding"
  | uintRange value place bits => s!"value {value.toNat} at byte {place} does not fit in uint{bits}"
  | intRange place bits => s!"word at byte {place} is not a sign-extended int{bits}"
  | truthValue value place => s!"invalid boolean {value.toNat} at byte {place}"
  | bytesPadding size place => s!"bytes{size} at byte {place} has non-zero padding"
  | notText place fault => s!"string at byte {place} is not valid UTF-8: {fault.message}"
  | elementCount count type place length =>
    s!"{count} elements of {type.canonical} at byte {place} exceed {length} bytes of data"
  | wordOutside place length =>
    s!"attempted to read word at byte {place} past the end of {length} bytes"
  | sizeRange value place => s!"length or offset {value.toNat} at byte {place} is too large"
  | bytesOutside count place length =>
    s!"byte string of length {count} at byte {place} exceeds {length} bytes of data"
  | topicCount signature expected actual =>
    s!"event {signature} expects {expected} topics but the log has {actual}"
  | eventData signature fault => s!"event {signature} data: ABI decode error: {fault.message}"
  | missingTopic name => s!"missing topic for {name}"
  | missingValue name => s!"missing data value for {name}"
  | logIndex index => s!"log index {index} does not fit in u64"
  | callSelector selector signature =>
    s!"call data does not start with the selector {selector.bytes.hex} of {signature}"
  | errorSelector signature => s!"revert data is not a {signature} error"
  | shortCall => "call data shorter than a selector"
  | noData signature recipient =>
    s!"{signature} returned no data; is there a contract at {recipient.hex}?"
  | returnValues values => "unexpected return values " ++ bracketed (Value.inspectAll values)
  | noAddress event name => s!"{event} event has no address '{name}'"
  | noUint event name => s!"{event} event has no uint '{name}'"
  | described text => text

end ContractToolkit.Abi
