import ContractToolkit.Url.Host
import ContractToolkit.Url.Path

/-!
# Reading addresses

The parts of an address are read from left to right. Control characters around
the address, and line breaks in it, do not count.
-/

namespace ContractToolkit.Url

/-- Whether a character is a control character or a space. -/
def isControlOrSpace (c : Char) : Bool := c.toNat ≤ 0x20

/-- Whether a character is passed over wherever it stands. -/
def isPassedOver (c : Char) : Bool := c == '\t' || c == '\n' || c == '\r'

/-- What counts of a text. -/
def significant (s : List Char) : List Char :=
  let trimmed := ((s.dropWhile isControlOrSpace).reverse.dropWhile isControlOrSpace).reverse
  trimmed.filter fun c => !isPassedOver c

/-- Whether a character may stand in a scheme. -/
def isSchemeChar (c : Char) : Bool := c.isAlphanum || c == '+' || c == '-' || c == '.'

/-- The scheme of an address in lower case, and what follows the colon. -/
def splitScheme? (s : List Char) : Option (String × List Char) :=
  match s.head?, s.dropWhile isSchemeChar with
  | some first, ':' :: rest =>
    if first.isAlpha then some (String.ofList ((s.takeWhile isSchemeChar).map Char.toLower), rest)
    else none
  | _, _ => none

/-- An address with the query and the fragment that stand behind its path. -/
def withTail (kind : Kind) (u : Url) (s : List Char) : Url :=
  let before := s.takeWhile (· != '#')
  let query := match before with
    | '?' :: query => some (String.ofList (percentEncoded (isHiddenInQuery kind) query))
    | _ => none
  let fragment := match s.dropWhile (· != '#') with
    | '#' :: fragment => some (String.ofList (percentEncoded isHiddenInFragment fragment))
    | _ => none
  { u with query, fragment }

/-- An address with the path behind its root, and what follows it. -/
def withSteps (kind : Kind) (u : Url) (s : List Char) : Url :=
  let steps := Steps.ofChars kind (s.takeWhile fun c => !endsPath c)
  let host := if steps.onDrive then some (.name "") else u.host
  withTail kind { u with host, path := steps.text kind } (s.dropWhile fun c => !endsPath c)

/-- An address with the path that starts with a slash, and what follows it. Where a machine is
wanted there is always a path. -/
def withPath (kind : Kind) (u : Url) (s : List Char) : Url :=
  match s with
  | [] => if kind = .free then u else withSteps kind u []
  | c :: rest =>
    if kind.isSlash c then withSteps kind u rest
    else if kind = .free ∧ endsPath c then withTail kind u s
    else withSteps kind u s

/-- The host at the start of a text, and what follows it. Colons in brackets belong to it. -/
def splitHost (kind : Kind) (inBrackets : Bool) : List Char → List Char × List Char
  | [] => ([], [])
  | c :: rest =>
    if kind.endsAuthority c || (c == ':' && !inBrackets) then ([], c :: rest)
    else
      let (host, after) := splitHost kind (c == '[' || (inBrackets && c != ']')) rest
      (c :: host, after)

/-- The number of the service at the start of a text, and what follows it. -/
def splitService (scheme : String) (s : List Char) :
    Except Fault (Option Nat × List Char) :=
  let digits := s.takeWhile Char.isDigit
  let rest := s.dropWhile Char.isDigit
  let number := Text.decimalValue digits
  let ends := match rest with
    | c :: _ => c == '/' || c == '\\' || endsPath c
    | [] => true
  if Nat.pow 2 16 ≤ number ∨ !ends then .error .service
  else if digits.isEmpty ∨ hostSchemes.lookup scheme = some number then .ok (none, rest)
  else .ok (some number, rest)

/-- The user and the password in a text. A password that has no characters is none. -/
def splitUser (s : List Char) : String × Option String :=
  let written (part : List Char) : String := String.ofList (percentEncoded isHiddenInUser part)
  let password := match s.dropWhile (· != ':') with
    | ':' :: c :: rest => some (written (c :: rest))
    | _ => none
  (written (s.takeWhile (· != ':')), password)

/-- An address of a scheme with the part that names a user and a machine, and what follows it. -/
def readAuthority (kind : Kind) (scheme : String) (s : List Char) : Except Fault Url := do
  let authority := s.takeWhile fun c => !kind.endsAuthority c
  let after := s.dropWhile fun c => !kind.endsAuthority c
  let backwards := authority.reverse
  let (user, password) := splitUser ((backwards.dropWhile (· != '@')).drop 1).reverse
  let named := !user.isEmpty ∨ password.isSome
  if authority = ['@'] ∧ !after.isEmpty then throw .noHost
  let (hostText, rest) := splitHost kind false
    ((backwards.takeWhile (· != '@')).reverse ++ after)
  if hostText.isEmpty ∧ (kind = .host ∨ rest.head? = some ':' ∨ named) then throw .noHost
  let host ← Host.ofChars kind hostText
  let (service, rest) ← match rest with
    | ':' :: number => splitService scheme number
    | rest => pure (none, rest)
  return withPath kind { scheme, user, password, host := some host, service } rest

/-- An address of a file on a machine, which is not told when it is this one. -/
def readFileHost (scheme : String) (s : List Char) : Except Fault Url := do
  let name := s.takeWhile fun c => !Kind.file.endsAuthority c
  let after := s.dropWhile fun c => !Kind.file.endsAuthority c
  let here : Url := { scheme, host := some (.name "") }
  if isDrive name then return withSteps .file here s
  if name.isEmpty then return withSteps .file here after
  let host ← Host.ofChars .file name
  if host = .name "localhost" then return withSteps .file here after
  return withPath .file { scheme, host := some host } after

/-- An address of a file. -/
def readFile (scheme : String) (s : List Char) : Except Fault Url :=
  let here : Url := { scheme, host := some (.name "") }
  match s with
  | a :: rest =>
    if !Kind.file.isSlash a then .ok (withSteps .file here s)
    else match rest with
      | b :: rest =>
        if Kind.file.isSlash b then readFileHost scheme rest
        else .ok (withSteps .file here (b :: rest))
      | [] => .ok (withSteps .file here [])
  | [] => .ok (withSteps .file here [])

/-- An address that need not name a machine. -/
def readFree (scheme : String) (s : List Char) : Except Fault Url :=
  match s with
  | '/' :: '/' :: rest => readAuthority .free scheme rest
  | '/' :: rest => .ok (withSteps .free { scheme } rest)
  | s =>
    let path := String.ofList (percentEncoded isHidden (s.takeWhile fun c => !endsPath c))
    .ok (withTail .free { scheme, path } (s.dropWhile fun c => !endsPath c))

/-- The address that a text writes. -/
def ofText (address : String) : Except Fault Url :=
  match splitScheme? (significant address.toList) with
  | none => .error .noScheme
  | some (scheme, rest) =>
    match Kind.ofScheme scheme with
    | .host => readAuthority .host scheme (rest.dropWhile Kind.host.isSlash)
    | .file => readFile scheme rest
    | .free => readFree scheme rest

end ContractToolkit.Url
