import ContractToolkit.CommandLine.Argument
import ContractToolkit.CommandLine.Invocation
import ContractToolkit.Fees.Amount
import ContractToolkit.Interface.Loader
import ContractToolkit.Json.Writer
import ContractToolkit.Node.Connection
import ContractToolkit.Remote.Contract
import ContractToolkit.Settings.File

/-!
# The program

What the commands do and print. The settings are read first, whatever the
command. A run depends on the words of the command line and on what surrounds
it: the environment, the files and the network.
-/

namespace ContractToolkit.CommandLine

open Abi Interface

/-- What surrounds a run. -/
structure Surroundings where
  /-- The environment. -/
  environment : Settings.Environment
  /-- The contents of files by path, or why they cannot be read. -/
  file : String → Except String String
  /-- The nodes that answer. -/
  network : Node.Network

/-- What a run leaves. -/
structure Output where
  /-- The exit code. -/
  code : Nat
  /-- What is printed. -/
  out : String := ""
  /-- What is reported. -/
  err : String := ""
  /-- What was asked of the node. -/
  requests : List Node.Request := []

/-- The settings of a run. Without a configuration file they are not checked. -/
def Invocation.settings (i : Invocation) (s : Surroundings) : Except Fault Settings :=
  match i.config with
  | some path =>
    (Settings.load path (s.file path) s.environment).mapError (.configuration path)
  | none => (Settings.override {} s.environment).mapError fun fault => .failed (.config fault)

/-- Whether a declaration is that of an error: its keyword is followed by a blank. -/
def declaresError (signature : String) : Bool :=
  match Ty.after? "error" (Text.trimStart signature.toList) with
  | some (c :: _) => Text.isBlank c
  | _ => false

/-- A digest or a part of one, and what it is of. -/
def digestLine (octets : Bytes) (signature : String) : String :=
  octets.hex ++ "  " ++ signature ++ "\n"

/-- The selector of a function or an error, and its canonical signature. -/
def selectorLine (signature : String) : Except DescriptorFault String := do
  if declaresError signature then
    let e ← CustomError.ofText signature
    return digestLine e.selector.bytes e.signature
  else
    let m ← Method.ofText signature
    return digestLine m.selector.bytes m.signature

/-- The topic of an event, and its canonical signature. -/
def topicLine (signature : String) : Except DescriptorFault String := do
  let e ← Event.ofText signature
  return digestLine (Word.bytes e.topic) e.signature

/-- The call data of a function with arguments. -/
def callDataLine (signature : String) (args : List String) : Except Fault String := do
  let m ← ofDeclaration (Method.ofText signature)
  let values ← readArguments (tys m.inputs) args
  let data ← ofOutcome (m.encodeCall values)
  return data.hex ++ "\n"

/-- The octets of a word with any number of marks. -/
def readData (word : String) : Except Fault Bytes :=
  (Hex.decode (Hex.withoutMarks word.toList)).mapError (.data word)

/-- A JSON value with line breaks. -/
def jsonLines (j : Json) : String := j.pretty ++ "\n"

/-- Values, one a line. -/
def valueLines (values : List Value) : String := jsonLines (.array (values.map Value.toJson))

/-- The values in the return data of a function. -/
def outputLines (signature data : String) : Except Fault String := do
  let m ← ofDeclaration (Method.ofText signature)
  let values ← ofOutcome (m.decodeOutput (← readData data))
  return valueLines values

/-- The event in a log, by the source of its declaration. -/
def decodeFrom (s : Surroundings) (source : EventSource) (log : Log) : Except Fault DecodedEvent :=
  match source with
  | .signature text => do
    let e ← ofDeclaration (Event.ofText text)
    ofOutcome (e.decode log)
  | .file path => do
    let i ← ofOutcome (Interface.ofFile (s.file path))
    ofOutcome (i.decodeLog log)

/-- The event in a log. -/
def logLines (s : Surroundings) (source : EventSource) (topics : List String) (data : String) :
    Except Fault String := do
  let topics ← topics.mapM fun text => (Word.ofText text).mapError (.topic text)
  let data ← readData data
  let decoded ← decodeFrom s source { address := 0, topics, data }
  return jsonLines decoded.toJson

/-- The exchange that a simulated call of a function starts. -/
def prepareCall (s : Surroundings) (settings : Settings) (address signature : String)
    (args : List String) (block : Option String) :
    Except Fault (Node.Exchange (Outcome (List Value))) := do
  let place ← (Address.ofText address).mapError (.address address)
  let m ← ofDeclaration (Method.ofText signature)
  let values ← readArguments (tys m.inputs) args
  let text := block.getD settings.call.block
  let some block := Block.ofText? text | throw (.block text)
  let link ← ofOutcome (Node.connect s.network settings.node)
  let fees ← ofOutcome (Fees.ofSettings settings.fees)
  let caller ← settings.call.caller.mapM fun text =>
    (Address.ofText text).mapError (.caller text)
  let contract := Contract.bind place (Interface.empty.addMethod m)
    { policy := .uniform fees, caller, block }
  let call ← ofOutcome (contract.call m.name values)
  return Remote.onLink link call.operation

/-- The exchange that a command starts. -/
def Command.start (s : Surroundings) (settings : Settings) :
    Command → Except Fault (Node.Exchange (Except Fault String))
  | .selector signature => do return .done (.ok (← ofDeclaration (selectorLine signature)))
  | .topic signature => do return .done (.ok (← ofDeclaration (topicLine signature)))
  | .encode signature args => do return .done (.ok (← callDataLine signature args))
  | .decodeOutput signature data => do return .done (.ok (← outputLines signature data))
  | .decodeLog source topics data => do return .done (.ok (← logLines s source topics data))
  | .call address signature args block => do
    let exchange ← prepareCall s settings address signature args block
    return exchange.andThen fun values => .done ((ofOutcome values).map valueLines)

/-- What a failure leaves. A machine error ends the program on its own. -/
def Output.ofFault : Fault → Output
  | .failed .trap => { code := 101, err := Error.trap.message ++ "\n" }
  | fault => { code := 1, err := fault.report }

/-- What a run of an exchange leaves. One that never ends leaves nothing. -/
def Output.ofRun (run : Node.Exchange.Run (Except Fault String)) : Output :=
  match run.result with
  | some (.ok text) => { code := 0, out := text, requests := run.requests }
  | some (.error fault) => { Output.ofFault fault with requests := run.requests }
  | none => { code := 0, requests := run.requests }

/-- What an invocation leaves. -/
def Invocation.run (i : Invocation) (s : Surroundings) : Output :=
  match i.settings s with
  | .error fault => .ofFault fault
  | .ok settings =>
    match i.command.start s settings with
    | .error fault => .ofFault fault
    | .ok exchange => .ofRun (exchange.runAt s.network settings.node.url)

/-- How the program is used. -/
def usageText : String :=
  "Usage: bindery [--config <FILE>] <COMMAND>\n\nCommands:\n" ++
  "  selector <SIGNATURE>\n  topic <SIGNATURE>\n  encode <SIGNATURE> [ARGS]...\n" ++
  "  decode-output <SIGNATURE> <DATA>\n" ++
  "  decode-log --event <SIGNATURE> | --abi <FILE> [--topic <TOPIC>]... [--data <DATA>]\n" ++
  "  call <ADDRESS> <SIGNATURE> [ARGS]... [--block <BLOCK>]\n  help [COMMAND]\n"

/-- What is left when there is nothing to run. -/
def Output.ofNotice : Notice → Output
  | .usage => { code := 2, err := usageText }
  | .help => { code := 0, out := usageText }
  | .version => { code := 0, out := "bindery 0.1.0\n" }

/-- What a run of the program leaves. -/
def run (s : Surroundings) (words : List String) : Output :=
  match Invocation.ofWords words with
  | .ok i => i.run s
  | .error notice => .ofNotice notice

end ContractToolkit.CommandLine
