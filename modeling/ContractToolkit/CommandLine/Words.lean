/-!
# Words of a command line

A command line is a list of words. A word that begins with a dash is an option,
whose value is the rest of the word or the next word; a dash alone is a plain
word, and so is every word behind two dashes alone. A form tells which options
there are and how many plain words. Words are read from the left, and the first
thing that is not as the form has it ends the reading, just as a request for
help does.
-/

namespace ContractToolkit.CommandLine

/-- Why no words are given. -/
inductive Notice where
  /-- The words do not have the form. -/
  | usage
  /-- Help is asked for. -/
  | help
  /-- The version is asked for. -/
  | version
  deriving DecidableEq, Repr

/-- An option, which always has a value. -/
structure OptionForm where
  /-- The name after two dashes. -/
  name : String
  /-- The letter after one dash. -/
  letter : Option Char := none
  /-- Whether the option may be given several times. -/
  repeatable : Bool := false
  /-- Whether the value may be empty. -/
  mayBeEmpty : Bool := true
  deriving DecidableEq, Repr

/-- The form of words. -/
structure Form where
  /-- The options. -/
  options : List OptionForm
  /-- How many plain words are needed. -/
  plain : Nat := 0
  /-- Whether more plain words may follow. -/
  more : Bool := false
  /-- Whether a plain word names a command, which takes all words behind it. -/
  commands : Bool := false
  /-- Whether the version can be asked for. -/
  versioned : Bool := false

/-- Words that were given. -/
structure Given where
  /-- Values of options by name, in order. -/
  options : List (String × String) := []
  /-- Plain words in order. -/
  plain : List String := []
  /-- The command and the words behind it. -/
  command : List String := []
  deriving DecidableEq, Repr

/-- Values of an option. -/
def Given.values (given : Given) (name : String) : List String :=
  (given.options.filter (·.1 = name)).map (·.2)

/-- The value of an option that is given once at most. -/
def Given.value? (given : Given) (name : String) : Option String := (given.values name).head?

/-- What a word is. -/
inductive WordKind where
  /-- Two dashes alone. -/
  | dashes
  /-- An option, with its value if that is in the same word. -/
  | option (form : OptionForm) (value : Option String)
  /-- The end of the reading. -/
  | notice (notice : Notice)
  /-- A plain word. -/
  | plain

namespace Form

/-- What a word with two dashes in front is, from its name and the value behind an equals sign. -/
def longKind (form : Form) (name : String) (value : Option String) : WordKind :=
  match form.options.find? (·.name = name) with
  | some o => .option o value
  | none =>
    if value.isSome then .notice .usage
    else if name = "help" then .notice .help
    else if name = "version" ∧ form.versioned then .notice .version
    else .notice .usage

/-- What a word with one dash in front is, from its letter and the rest. -/
def shortKind (form : Form) (letter : Char) (rest : List Char) : WordKind :=
  match form.options.find? (·.letter = some letter) with
  | some o =>
    match rest with
    | [] => .option o none
    | '=' :: value => .option o (some (String.ofList value))
    | value => .option o (some (String.ofList value))
  | none =>
    if letter = 'h' then .notice .help
    else if letter = 'V' ∧ form.versioned then .notice .version
    else .notice .usage

/-- The value behind the first equals sign. -/
def attached? (s : List Char) : Option String :=
  match s.dropWhile (· != '=') with
  | _ :: value => some (String.ofList value)
  | [] => none

/-- What a word is. -/
def kind (form : Form) (word : String) : WordKind :=
  match word.toList with
  | ['-', '-'] => .dashes
  | '-' :: '-' :: rest => form.longKind (String.ofList (rest.takeWhile (· != '='))) (attached? rest)
  | '-' :: letter :: rest => form.shortKind letter rest
  | _ => .plain

/-- Whether a word can be the value of the option before it. -/
def isValue (form : Form) (word : String) : Bool :=
  match form.kind word with
  | .plain => true
  | _ => false

/-- Words with one more plain word. -/
def addPlain (form : Form) (given : Given) (word : String) : Except Notice Given :=
  if given.plain.length < form.plain ∨ form.more then
    .ok { given with plain := given.plain ++ [word] }
  else .error .usage

/-- Words with one more option. -/
def addOption (given : Given) (o : OptionForm) (value : String) : Except Notice Given :=
  if (!o.repeatable ∧ (given.value? o.name).isSome) ∨ (!o.mayBeEmpty ∧ value.isEmpty) then
    .error .usage
  else .ok { given with options := given.options ++ [(o.name, value)] }

/-- Reading plain words only. -/
def readPlain (form : Form) (given : Given) (words : List String) : Except Notice Given :=
  words.foldlM form.addPlain given

/-- Reading words after others. -/
def readFrom (form : Form) (given : Given) : List String → Except Notice Given
  | [] => .ok given
  | word :: rest =>
    match form.kind word with
    | .notice notice => .error notice
    | .dashes => form.readPlain given rest
    | .plain =>
      if form.commands then .ok { given with command := word :: rest }
      else do form.readFrom (← form.addPlain given word) rest
    | .option o (some value) => do form.readFrom (← addOption given o value) rest
    | .option o none =>
      match rest with
      | [] => .error .usage
      | value :: rest =>
        if form.isValue value then do form.readFrom (← addOption given o value) rest
        else .error .usage

/-- The words of a form. -/
def read (form : Form) (words : List String) : Except Notice Given := do
  let given ← form.readFrom {} words
  if given.plain.length < form.plain then throw .usage
  return given

end Form

end ContractToolkit.CommandLine
