import ContractToolkit.CommandLine.Words

/-!
# Invocations

The six commands of the program, each with the form of its words, and the
configuration file, which may be named before the command or among its words.
The innermost name counts.
-/

namespace ContractToolkit.CommandLine

/-- Where the event of a log is looked up. -/
inductive EventSource where
  /-- In a signature. -/
  | signature (text : String)
  /-- In a file that holds an interface. -/
  | file (path : String)
  deriving DecidableEq, Repr

/-- A command. -/
inductive Command where
  /-- The selector of a function or an error. -/
  | selector (signature : String)
  /-- The topic of an event. -/
  | topic (signature : String)
  /-- The call data of a function. -/
  | encode (signature : String) (args : List String)
  /-- The values in the return data of a function. -/
  | decodeOutput (signature data : String)
  /-- The event in a log. -/
  | decodeLog (source : EventSource) (topics : List String) (data : String)
  /-- The values that a function of a contract returns. -/
  | call (address signature : String) (args : List String) (block : Option String)
  deriving DecidableEq, Repr

/-- A command and where its settings are. -/
structure Invocation where
  /-- The configuration file, if one is named. -/
  config : Option String
  /-- The command. -/
  command : Command
  deriving DecidableEq, Repr

/-- The option that names the configuration file. -/
def configOption : OptionForm where
  name := "config"
  letter := some 'c'
  mayBeEmpty := false

/-- The words before and of a command. -/
def topForm : Form where
  options := [configOption]
  commands := true
  versioned := true

/-- The options of a command that reads a log. -/
def logOptions : List OptionForm :=
  [{ name := "event" }, { name := "abi", mayBeEmpty := false },
    { name := "topic", repeatable := true }, { name := "data" }]

/-- The words of the commands, by name. -/
def commandForms : List (String × Form) :=
  [("selector", { options := [configOption], plain := 1 }),
    ("topic", { options := [configOption], plain := 1 }),
    ("encode", { options := [configOption], plain := 1, more := true }),
    ("decode-output", { options := [configOption], plain := 2 }),
    ("decode-log", { options := configOption :: logOptions }),
    ("call", { options := [configOption, { name := "block" }], plain := 2, more := true })]

/-- The event is looked up in one place. -/
def EventSource.ofGiven (given : Given) : Except Notice EventSource :=
  match given.value? "event", given.value? "abi" with
  | some text, none => .ok (.signature text)
  | none, some path => .ok (.file path)
  | _, _ => .error .usage

/-- The command that a name and words give. -/
def Command.ofGiven (name : String) (given : Given) : Except Notice Command :=
  match name, given.plain with
  | "selector", [signature] => .ok (.selector signature)
  | "topic", [signature] => .ok (.topic signature)
  | "encode", signature :: args => .ok (.encode signature args)
  | "decode-output", [signature, data] => .ok (.decodeOutput signature data)
  | "decode-log", _ => do
    return .decodeLog (← EventSource.ofGiven given) (given.values "topic")
      ((given.value? "data").getD "0x")
  | "call", address :: signature :: args =>
    .ok (.call address signature args (given.value? "block"))
  | _, _ => .error .usage

/-- The command that shows help. -/
def helpCommand : String := "help"

/-- Asking for help on a command. -/
def helpOn : List String → Notice
  | [] => .help
  | [name] =>
    if name = helpCommand ∨ (commandForms.lookup name).isSome then .help else .usage
  | _ => .usage

/-- The invocation that the words of a command line give. -/
def Invocation.ofWords (words : List String) : Except Notice Invocation := do
  let top ← topForm.read words
  match top.command with
  | [] => throw .usage
  | name :: rest =>
    if name = helpCommand then throw (helpOn rest)
    match commandForms.lookup name with
    | none => throw .usage
    | some form =>
      let given ← form.read rest
      let command ← Command.ofGiven name given
      return ⟨given.value? configOption.name <|> top.value? configOption.name, command⟩

/-- The files that a command reads. -/
def Command.paths : Command → List String
  | .decodeLog (.file path) _ _ => [path]
  | _ => []

/-- The files that an invocation reads. -/
def Invocation.paths (i : Invocation) : List String := i.config.toList ++ i.command.paths

end ContractToolkit.CommandLine
