import ContractToolkit.Interface.Store
import ContractToolkit.Json.Reader

/-!
# Loading interfaces

Two sources of an interface: the JSON document of a compiler, which is a list
of members or an object that holds one under `abi`, and declarations as text.
Members of other kinds than functions, events, errors and constructors are
passed over in the document; in text everything that is not introduced by one
of the three other keywords is a function.
-/

namespace ContractToolkit.Interface

open Abi

/-- The text under a key. -/
def textField? (item : Json) (key : String) : Option String := (item.field? key).bind Json.text?

/-- The truth value under a key, false when there is none. -/
def flag (item : Json) (key : String) : Bool := ((item.field? key).bind Json.bool?).getD false

/-- The items under a key, none when there is no array. -/
def itemsField (item : Json) (key : String) : List Json :=
  ((item.field? key).bind Json.items?).getD []

/-- The name of a member of a kind. -/
def memberName (kind : String) (item : Json) : Except DescriptorFault String :=
  match textField? item "name" with
  | some name => if name.isEmpty then .error (.missingName kind) else .ok name
  | none => .error (.missingName kind)

/-- The mutability of a member; older documents only have flags for it. -/
def memberMutability (item : Json) : Except DescriptorFault Mutability :=
  match textField? item "stateMutability" with
  | some text => Mutability.ofText text
  | none =>
    if flag item "constant" then .ok .read
    else if flag item "payable" then .ok .payable
    else .ok .write

mutual

/-- The type of a parameter; a tuple is made of its components. -/
def jsonType : Json → Except DescriptorFault Ty
  | .object fields =>
    match ((fields.find? (·.1 = "type")).map (·.2)).bind Json.text? with
    | none => .error .missingType
    | some text =>
      match Ty.after? "tuple" text.toList with
      | none => Ty.ofText text
      | some suffix =>
        match componentTypes? fields with
        | none => .error (.missingComponents text)
        | some (.error fault) => .error fault
        | some (.ok types) => Ty.ofChars ((Ty.tuple types).chars ++ suffix)
  | _ => .error .missingType

/-- The types of the components among the fields of a parameter; absent without an array of them. -/
def componentTypes? : List (String × Json) → Option (Except DescriptorFault (List Ty))
  | [] => none
  | (key, value) :: rest =>
    if key = "components" then
      match value with
      | .array items => some (jsonTypes items)
      | _ => none
    else componentTypes? rest

/-- The types of parameters. -/
def jsonTypes : List Json → Except DescriptorFault (List Ty)
  | [] => .ok []
  | item :: rest => do
    let t ← jsonType item
    let ts ← jsonTypes rest
    return t :: ts

end

/-- A parameter of a document. -/
def jsonParam (item : Json) : Except DescriptorFault EventParam := do
  let ty ← jsonType item
  return ⟨(textField? item "name").getD "", ty, flag item "indexed"⟩

/-- The parameters of a member under a key. -/
def jsonParams (item : Json) (key : String) : Except DescriptorFault (List EventParam) :=
  (itemsField item key).mapM jsonParam

/-- The interface with a member of a document. -/
def addMember (i : Interface) (item : Json) : Except DescriptorFault Interface := do
  let kind := (textField? item "type").getD "function"
  if kind = "constructor" then
    let inputs ← jsonParams item "inputs"
    let mutability ← memberMutability item
    return i.setConstructor
      (← Constructor.declare (inputs.map EventParam.plain) (mutability = .payable))
  else if kind = "function" then
    let name ← memberName "Function" item
    let inputs ← jsonParams item "inputs"
    let outputs ← jsonParams item "outputs"
    let mutability ← memberMutability item
    return i.addMethod (← Method.declare name (inputs.map EventParam.plain)
      (outputs.map EventParam.plain) mutability)
  else if kind = "event" then
    let name ← memberName "Event" item
    let params ← jsonParams item "inputs"
    return i.addEvent (← Event.declare name params (flag item "anonymous"))
  else if kind = "error" then
    let name ← memberName "Error" item
    let inputs ← jsonParams item "inputs"
    return i.addError (← CustomError.declare name (inputs.map EventParam.plain))
  else return i

/-- The interface of a JSON document. -/
def ofJson (document : Json) : Except DescriptorFault Interface :=
  match document.items?.or ((document.field? "abi").bind Json.items?) with
  | some items => items.foldlM addMember empty
  | none => .error .notAnInterface

/-- The interface of the text of a JSON document. -/
def ofJsonText (text : String) : Outcome Interface :=
  match Json.ofText text with
  | some document => .ofDescriptor (ofJson document)
  | none => .error (.serialization .json)

/-- The interface of a file, whose content, or why it cannot be read, is given. -/
def ofFile (content : Except String String) : Outcome Interface := do
  ofJsonText (← content.mapError .io)

/-- The keyword of a declaration: its first word up to a parenthesis. -/
def keyword (s : List Char) : List Char := ((Text.words s).headD []).takeWhile (· != '(')

/-- The interface with a declared member; a blank text declares none. -/
def addText (i : Interface) (text : String) : Except DescriptorFault Interface := do
  let s := Text.trim text.toList
  let trimmed := String.ofList s
  if s.isEmpty then return i
  else if keyword s = "event".toList then return i.addEvent (← Event.ofText trimmed)
  else if keyword s = "error".toList then return i.addError (← CustomError.ofText trimmed)
  else if keyword s = "constructor".toList then
    return i.setConstructor (← Constructor.ofText trimmed)
  else return i.addMethod (← Method.ofText trimmed)

/-- The interface of declarations. -/
def ofTexts (texts : List String) : Except DescriptorFault Interface := texts.foldlM addText empty

end ContractToolkit.Interface
