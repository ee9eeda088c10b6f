import ContractToolkit.Toml.Scalar

/-!
# TOML text to documents

Reading has two steps. The first reads the lines: keys with values, and headers.
The second builds the tables, and refuses every key that is defined twice and
every table that is extended where it may not be.
-/

namespace ContractToolkit.Toml

/-- A key with its value, by the tables on the way to it. -/
structure Entry where
  /-- The tables on the way. -/
  path : List String
  /-- The key in the last of them. -/
  key : String
  /-- The value. -/
  value : Toml

/-- The least number of levels that neither keys nor nested values may have. -/
def maxDepth : Nat := 80

/-- The character of a key without quotes. -/
def isKeyChar (c : Char) : Bool := c.isAlphanum || c == '_' || c == '-'

/-- One key. -/
def readKey (s : List Char) : Option (String × List Char) :=
  match s with
  | '"' :: rest => (basicText rest).map fun (cs, rest) => (String.ofList cs, rest)
  | '\'' :: rest => (literalText rest).map fun (cs, rest) => (String.ofList cs, rest)
  | _ =>
    match s.span isKeyChar with
    | ([], _) => none
    | (cs, rest) => some (String.ofList cs, rest)

/-- Keys with dots between them, and with blanks around each. -/
def readPath : (fuel : Nat) → List Char → Option (List String × List Char)
  | 0, _ => none
  | fuel + 1, s => do
    let (key, rest) ← readKey (skipSpace s)
    match skipSpace rest with
    | '.' :: rest =>
      let (keys, rest) ← readPath fuel rest
      return (key :: keys, rest)
    | rest => return ([key], rest)

/-- A text without a comment at its start. -/
def skipComment : List Char → List Char
  | '#' :: rest => rest.dropWhile isPlain
  | s => s

/-- A text without blanks, comments and line breaks at its start, with fuel for the lines. -/
def skipLines : (fuel : Nat) → List Char → List Char
  | 0, s => s
  | fuel + 1, s =>
    let s := skipSpace s
    match afterBreak? (skipComment s) with
    | some rest => skipLines fuel rest
    | none => s

/-- Fields with the value of an entry put in at the end of its path. Tables on the way must have
been made by dotted keys of the same inline table. -/
def putInline (dotted : Bool) (mark : TomlMark) (fields : Fields) (path : List String)
    (key : String) (value : Toml) : Option Fields :=
  match path with
  | [] =>
    if mark.dotted != dotted then none
    else match field? key fields with
      | some _ => none
      | none => some (put key value fields)
  | name :: path =>
    match (field? name fields).getD (.inlineTable ⟨true, true⟩ []) with
    | .inlineTable mark inner =>
      if mark.implicit then
        (putInline dotted mark inner path key value).map fun inner =>
          put name (.inlineTable mark inner) fields
      else none
    | _ => none

/-- The fields of an inline table. -/
def inlineFields (entries : List Entry) : Option Fields :=
  entries.foldlM (fun fields e =>
    putInline (!e.path.isEmpty) ⟨false, false⟩ fields e.path e.key e.value) []

mutual

/-- A value. There is room for so many levels of arrays and inline tables, empty ones included. -/
def readValue : (fuel room : Nat) → List Char → Option (Toml × List Char)
  | 0, _, _ => none
  | fuel + 1, room, s =>
    match s with
    | '"' :: _ => (readText s).map fun (t, rest) => (.string t, rest)
    | '\'' :: _ => (readText s).map fun (t, rest) => (.string t, rest)
    | '[' :: rest => do
      let room + 1 := room | none
      let (items, rest) ← readItems fuel room rest
      return (.array items, rest)
    | '\x7b' :: rest => do
      let room + 1 := room | none
      let (entries, rest) ← match skipSpace rest with
        | '\x7d' :: rest => some ([], rest)
        | rest => readEntries fuel room rest
      return (.inlineTable ⟨false, false⟩ (← inlineFields entries), rest)
    | 't' :: rest => (afterWord? "rue" rest).map fun rest => (.bool true, rest)
    | 'f' :: rest => (afterWord? "alse" rest).map fun rest => (.bool false, rest)
    | 'i' :: _ => (readSpecial s).map fun (d, rest) => (.double d, rest)
    | 'n' :: _ => (readSpecial s).map fun (d, rest) => (.double d, rest)
    | _ => readNumber s

/-- The items of an array up to its closing bracket. -/
def readItems : (fuel room : Nat) → List Char → Option (List Toml × List Char)
  | 0, _, _ => none
  | fuel + 1, room, s =>
    match skipLines (s.length + 1) s with
    | ']' :: rest => some ([], rest)
    | s => do
      let (item, rest) ← readValue fuel room s
      match skipLines (rest.length + 1) rest with
      | ',' :: rest =>
        let (items, rest) ← readItems fuel room rest
        return (item :: items, rest)
      | ']' :: rest => return ([item], rest)
      | _ => none

/-- The entries of an inline table, of which there is one at least, up to its closing brace. -/
def readEntries : (fuel room : Nat) → List Char → Option (List Entry × List Char)
  | 0, _, _ => none
  | fuel + 1, room, s => do
    let (entry, rest) ← readEntry fuel room s
    match skipSpace rest with
    | ',' :: rest =>
      let (entries, rest) ← readEntries fuel room rest
      return (entry :: entries, rest)
    | '\x7d' :: rest => return ([entry], rest)
    | _ => none

/-- A key with its value. -/
def readEntry : (fuel room : Nat) → List Char → Option (Entry × List Char)
  | 0, _, _ => none
  | fuel + 1, room, s => do
    let (keys, rest) ← readPath (s.length + 1) s
    let '=' :: rest := rest | none
    let (value, rest) ← readValue fuel room (skipSpace rest)
    if keys.length < maxDepth then
      return (⟨keys.dropLast, keys.getLast?.getD "", value⟩, rest)
    else none

end

/-- A line that defines something. -/
inductive Statement where
  /-- A key with its value. -/
  | entry (e : Entry)
  /-- The header of a table. -/
  | header (path : List String)
  /-- The header of a table among several. -/
  | itemHeader (path : List String)

/-- What follows the end of a line, which may hold a comment. -/
def afterLine? (s : List Char) : Option (List Char) :=
  match skipComment (skipSpace s) with
  | [] => some []
  | s => afterBreak? s

/-- A line that defines something, and the lines after it. -/
def readStatement (s : List Char) : Option (Statement × List Char) := do
  match s with
  | '[' :: '[' :: rest =>
    let (path, rest) ← readPath (rest.length + 1) rest
    let ']' :: ']' :: rest := rest | none
    if path.length < maxDepth then return (.itemHeader path, ← afterLine? rest) else none
  | '[' :: rest =>
    let (path, rest) ← readPath (rest.length + 1) rest
    let ']' :: rest := rest | none
    if path.length < maxDepth then return (.header path, ← afterLine? rest) else none
  | _ =>
    let (entry, rest) ← readEntry (2 * s.length + 4) (maxDepth - 1) s
    return (.entry entry, ← afterLine? rest)

/-- The lines of a text that define something. -/
def statements : (fuel : Nat) → List Char → Option (List Statement)
  | 0, _ => none
  | fuel + 1, s =>
    match skipLines (s.length + 1) s with
    | [] => some []
    | '#' :: rest =>
      match rest.dropWhile isPlain with
      | [] => some []
      | _ => none
    | s => do
      let (statement, rest) ← readStatement s
      return statement :: (← statements fuel rest)

/-- Work on the fields of a table that may be refused. -/
abbrev Change := TomlMark → Fields → Option Fields

/-- The fields after a change at the end of a path. Tables that are missing on the way are made;
with dotted keys they must not have a header of their own. -/
def changeAt (dotted : Bool) (change : Change) (mark : TomlMark) (fields : Fields) :
    List String → Option Fields
  | [] => change mark fields
  | name :: path =>
    match (field? name fields).getD (.table ⟨true, dotted⟩ []) with
    | .table inner innerFields =>
      if dotted && !inner.implicit then none
      else (changeAt dotted change inner innerFields path).map fun changed =>
        put name (.table inner changed) fields
    | .tables items =>
      match items.getLast? with
      | none => none
      | some last =>
        (changeAt dotted change ownHeader last path).map fun changed =>
          put name (.tables (items.dropLast ++ [changed])) fields
    | _ => none

/-- The table that lines with keys belong to. -/
structure Builder where
  /-- The finished tables. -/
  root : Fields
  /-- The mark of the current table. -/
  mark : TomlMark
  /-- The fields of the current table. -/
  current : Fields
  /-- The path of the current table, none being the whole document. -/
  path : List String
  /-- Whether the current table is one among several. -/
  isItem : Bool

/-- A change that sets a key which is not set yet. -/
def setNew (key : String) (value : Toml) : Change := fun _ fields =>
  match field? key fields with
  | some _ => none
  | none => some (put key value fields)

/-- The tables with the current one put in its place. -/
def Builder.finish (b : Builder) : Option Fields :=
  match b.path.getLast? with
  | none => some b.current
  | some key =>
    let place : Change := fun _ fields =>
      if b.isItem then
        match (field? key fields).getD (.tables []) with
        | .tables items => some (put key (.tables (items ++ [b.current])) fields)
        | _ => none
      else match field? key fields with
        | none => some (put key (.table b.mark b.current) fields)
        | some (.table mark _) =>
          if mark.implicit then some (put key (.table b.mark b.current) fields) else none
        | some _ => none
    changeAt false place ownHeader b.root b.path.dropLast

/-- The fields of the last table at a path without the last key, if there are any. -/
def fieldsAt (fields : Fields) : List String → Fields
  | [] => fields
  | name :: path =>
    match field? name fields with
    | some (.table _ inner) => fieldsAt inner path
    | some (.tables items) => fieldsAt (items.getLast?.getD []) path
    | _ => []

/-- The builder after the header of a table. -/
def Builder.openTable (b : Builder) (path : List String) : Option Builder := do
  let root ← b.finish
  let key ← path.getLast?
  let parent := path.dropLast
  let existing ← match field? key (fieldsAt root parent) with
    | none => some []
    | some (.table mark fields) => if mark.implicit && !mark.dotted then some fields else none
    | some _ => none
  let root ← changeAt false (fun _ fields => some (erase key fields)) ownHeader root parent
  return ⟨root, ownHeader, existing, path, false⟩

/-- The builder after the header of a table among several. -/
def Builder.openItem (b : Builder) (path : List String) : Option Builder := do
  let root ← b.finish
  let key ← path.getLast?
  let own : Change := fun _ fields =>
    match field? key fields with
    | none => some (put key (.tables []) fields)
    | some (.tables _) => some fields
    | some _ => none
  let root ← changeAt false own ownHeader root path.dropLast
  return ⟨root, ownHeader, [], path, true⟩

/-- The builder after a key with its value. -/
def Builder.define (b : Builder) (e : Entry) : Option Builder := do
  let set : Change := fun mark fields =>
    if mark.dotted == e.path.isEmpty then none else setNew e.key e.value mark fields
  let current ← changeAt true set b.mark b.current e.path
  return { b with current }

/-- The builder after a line. -/
def Builder.add (b : Builder) : Statement → Option Builder
  | .entry e => b.define e
  | .header path => b.openTable path
  | .itemHeader path => b.openItem path

/-- A text without the mark of its byte order. -/
def skipByteOrderMark : List Char → List Char
  | '\uFEFF' :: rest => rest
  | s => s

/-- The fields of the document that a text holds. -/
def ofText (text : String) : Option Fields := do
  let s := skipByteOrderMark text.toList
  let lines ← statements (s.length + 1) s
  let start : Builder := ⟨[], ownHeader, [], [], false⟩
  let final ← lines.foldlM Builder.add start
  final.finish

end ContractToolkit.Toml
