import ContractToolkit.Url.Reader

/-!
# Addresses of web sockets

The address of a node that is reached over a web socket. It is read more
strictly than other addresses: an optional scheme, then the machine with an
optional number of a service, then a path, each with its own set of characters.
The first thing that is wrong counts, before the scheme is looked at.
-/

namespace ContractToolkit.Node

/-- Why an address leads to no web socket. -/
inductive SocketFault where
  /-- There is no text. -/
  | empty
  /-- The text is longer than any address. -/
  | tooLong
  /-- The scheme is longer than any. -/
  | longScheme
  /-- A character that stands in no address. -/
  | char
  /-- The name of the machine. -/
  | authority
  /-- Something is missing or too much. -/
  | form
  /-- No machine is named. -/
  | noHost
  /-- The machine has no name. -/
  | emptyHost
  /-- The scheme is not that of a web socket. -/
  | otherScheme
  /-- The machine does not take the connection. -/
  | refused
  deriving DecidableEq, Repr

/-- Report of a fault. -/
def SocketFault.message : SocketFault → String
  | empty => "HTTP format error: empty string"
  | tooLong => "HTTP format error: uri too long"
  | longScheme => "HTTP format error: scheme too long"
  | char => "HTTP format error: invalid uri character"
  | authority => "HTTP format error: invalid authority"
  | form => "HTTP format error: invalid format"
  | noHost => "URL error: No host name in the URL"
  | emptyHost => "URL error: URL contains empty host name"
  | otherScheme => "URL error: URL scheme not supported"
  | refused => "IO error: Connection refused (os error 111)"

/-- The parts of the address of a web socket. -/
structure SocketAddress where
  /-- The scheme, if there is one. -/
  scheme : Option (List Char)
  /-- The machine, with a user before and the number of a service behind it; empty when there is
  none. -/
  authority : List Char

namespace SocketAddress

/-- Octets that an address may have. -/
def greatestLength : Nat := Nat.pow 2 16 - 2

/-- Characters that a scheme may have. -/
def greatestScheme : Nat := 64

/-- Characters of addresses that are neither letters nor digits. -/
def marks : List Char := "!#$&'()*+,-./:;=?@[]_~".toList

/-- Whether a character may stand in an address. -/
def isAddressChar (c : Char) : Bool := c.isAlphanum || marks.contains c

/-- Whether a character may stand in the scheme of such an address. -/
def isSchemeMember (c : Char) : Bool := Url.isSchemeChar c || c == '~'

/-- Whether a character may stand in a path. -/
def isPathChar (c : Char) : Bool :=
  (0x20 < c.toNat && c.toNat < 0x7f) && !("#<>?\u0060".toList.contains c)

/-- Whether a character may stand in a query. -/
def isQueryChar (c : Char) : Bool :=
  (0x20 < c.toNat && c.toNat < 0x7f) && !("\"#<>".toList.contains c)

/-- The scheme before a colon and two slashes, and what follows them. -/
def splitScheme (s : List Char) : Except SocketFault (Option (List Char) × List Char) :=
  let name := s.takeWhile isSchemeMember
  match s.dropWhile isSchemeMember with
  | ':' :: '/' :: '/' :: rest =>
    if name.length ≤ greatestScheme then .ok (some name, rest) else .error .longScheme
  | _ => .ok (none, s)

/-- What was seen of the machine of an address. -/
structure Seen where
  /-- Colons since the last user or bracket. -/
  colons : Nat := 0
  /-- Whether a bracket was opened. -/
  opened : Bool := false
  /-- Whether a bracket was closed. -/
  closed : Bool := false
  /-- Whether there was a percent sign since the last user or bracket. -/
  percent : Bool := false
  /-- Whether the last character ended a user. -/
  afterUser : Bool := false

/-- Most colons in a row of groups. -/
def mostColons : Nat := 8

/-- What is seen after one more character. -/
def Seen.step (seen : Seen) (c : Char) : Except SocketFault Seen :=
  let seen := { seen with afterUser := false }
  match c with
  | ':' =>
    if seen.colons < mostColons then .ok { seen with colons := seen.colons + 1 }
    else .error .authority
  | '[' =>
    if seen.percent ∨ seen.opened then .error .authority else .ok { seen with opened := true }
  | ']' =>
    if !seen.opened ∨ seen.closed then .error .authority
    else .ok { seen with closed := true, colons := 0, percent := false }
  | '@' => .ok { seen with afterUser := true, colons := 0, percent := false }
  | '%' => .ok { seen with percent := true }
  | c => if isAddressChar c then .ok seen else .error .char

/-- Whether a character ends the machine of an address. -/
def endsMachine (c : Char) : Bool := c == '/' || c == '?' || c == '#'

/-- The machine of an address, and what follows it. -/
def splitAuthority (s : List Char) : Except SocketFault (List Char × List Char) := do
  let authority := s.takeWhile fun c => !endsMachine c
  let seen ← authority.foldlM Seen.step {}
  if seen.opened ≠ seen.closed ∨ 1 < seen.colons ∨ seen.afterUser ∨ seen.percent then
    throw .authority
  return (authority, s.dropWhile fun c => !endsMachine c)

/-- The path and the query of an address, up to a fragment. -/
def checkPath (s : List Char) : Except SocketFault Unit :=
  let path := (s.takeWhile (· != '#')).takeWhile (· != '?')
  let query := ((s.takeWhile (· != '#')).dropWhile (· != '?')).drop 1
  if path.all isPathChar ∧ query.all isQueryChar then .ok () else .error .char

/-- The parts of an address. A text without a scheme is only a machine. -/
def ofChars (s : List Char) : Except SocketFault SocketAddress := do
  match s with
  | [] => throw .empty
  | ['*'] => return ⟨none, []⟩
  | '/' :: _ =>
    checkPath s
    return ⟨none, []⟩
  | [_] =>
    let (authority, rest) ← splitAuthority s
    if rest.isEmpty then return ⟨none, authority⟩ else throw .char
  | s =>
    let (scheme, rest) ← splitScheme s
    let (authority, rest) ← splitAuthority rest
    if scheme.isNone then
      if rest.isEmpty then return ⟨none, authority⟩ else throw .form
    else if authority.isEmpty then throw .form
    else
      checkPath rest
      return ⟨scheme, authority⟩

/-- The machine of an address, with the number of the service. -/
def machine (a : SocketAddress) : List Char :=
  if a.authority.contains '@' then (a.authority.dropWhile (· != '@')).drop 1 else a.authority

/-- Whether an address names a service. -/
def namesService (a : SocketAddress) : Bool :=
  let digits := (a.machine.reverse.takeWhile (· != ':')).reverse
  a.machine.contains ':' && (Text.size? digits).any (· < Nat.pow 2 16)

/-- Whether a scheme is that of a web socket. -/
def isSocketScheme (scheme : Option (List Char)) : Bool :=
  scheme.any fun name => ["ws", "wss"].contains (String.ofList name)

/-- Why no web socket is reached at an address: the text is no address, or it has another scheme, or
the machine does not answer. A machine whose service is named is turned to before the scheme is
looked at; the flag tells whether it answers. -/
def fault (address : String) (answers : Bool) : SocketFault :=
  if greatestLength < address.utf8ByteSize then .tooLong
  else match ofChars address.toList with
    | .error fault => fault
    | .ok a =>
      if a.authority.isEmpty then .noHost
      else if a.machine.isEmpty then .emptyHost
      else if isSocketScheme a.scheme then .refused
      else if a.namesService ∧ !answers then .refused
      else .otherScheme

end SocketAddress

end ContractToolkit.Node
