import ContractToolkit.Bytes.Basic
import ContractToolkit.Text.Number
import ContractToolkit.Text.Utf8

/-!
# Addresses on the network

An address (URL) has a scheme, then for most schemes a host, perhaps with a user
before and the number of a service behind, then a path, and perhaps a query and a
fragment. There is one text for an address, whatever it was read from. In that
text a percent sign and two hexadecimal digits stand for an octet that could not
be written otherwise.
-/

namespace ContractToolkit

/-- The machine that an address names. -/
inductive Url.Host where
  /-- A name; empty when any machine is meant. -/
  | name (text : String)
  /-- A number of four octets. -/
  | fourParts (number : Nat)
  /-- A number of eight groups of two octets. -/
  | eightGroups (groups : List Nat)
  deriving DecidableEq, Repr

/-- An address on the network. -/
structure Url where
  /-- The scheme, in lower case. -/
  scheme : String
  /-- The user; empty when none is named. -/
  user : String := ""
  /-- The password of the user. -/
  password : Option String := none
  /-- The machine. -/
  host : Option Url.Host := none
  /-- The number of the service, unless it is the usual one of the scheme. -/
  service : Option Nat := none
  /-- The path. -/
  path : String := ""
  /-- The query. -/
  query : Option String := none
  /-- The fragment. -/
  fragment : Option String := none
  deriving DecidableEq, Repr

namespace Url

/-- The kind of a scheme. -/
inductive Kind where
  /-- A machine is wanted. -/
  | host
  /-- The path of a file is wanted, on this machine unless another one is named. -/
  | file
  /-- Anything goes. -/
  | free
  deriving DecidableEq, Repr

/-- Schemes that want a machine, with the usual number of the service. -/
def hostSchemes : List (String × Nat) :=
  [("http", 80), ("https", 443), ("ws", 80), ("wss", 443), ("ftp", 21)]

/-- The kind of a scheme. -/
def Kind.ofScheme (scheme : String) : Kind :=
  if (hostSchemes.lookup scheme).isSome then .host else if scheme = "file" then .file else .free

/-- Whether a character separates the steps of a path. -/
def Kind.isSlash (kind : Kind) (c : Char) : Bool := c == '/' || (kind != .free && c == '\\')

/-- Whether a character ends the path. -/
def endsPath (c : Char) : Bool := c == '?' || c == '#'

/-- Whether a character ends the part of an address that names a machine. -/
def Kind.endsAuthority (kind : Kind) (c : Char) : Bool := kind.isSlash c || endsPath c

/-! ## Octets behind percent signs -/

/-- Whether a character is written by its octets everywhere. -/
def isHidden (c : Char) : Bool := c.toNat < 0x20 || 0x7f ≤ c.toNat

/-- Whether a character is written by its octets in a fragment. -/
def isHiddenInFragment (c : Char) : Bool := isHidden c || " \"<>\u0060".toList.contains c

/-- Whether a character is written by its octets in a query. -/
def isHiddenInQuery (kind : Kind) (c : Char) : Bool :=
  isHidden c || " \"#<>".toList.contains c || (kind != .free && c == '\'')

/-- Whether a character is written by its octets in a path. -/
def isHiddenInPath (c : Char) : Bool := isHiddenInFragment c || "#?\x7b\x7d".toList.contains c

/-- Whether a character is written by its octets in the name of a user. -/
def isHiddenInUser (c : Char) : Bool := isHiddenInPath c || "/:;=@[\\]^|".toList.contains c

/-- An octet behind a percent sign. -/
def percentOctet (b : UInt8) : List Char :=
  '%' :: [b.toNat / 16, b.toNat % 16].flatMap fun n => (Text.hexadecimal n).map Char.toUpper

/-- A text in which some characters are written by their octets. -/
def percentEncoded (hidden : Char → Bool) (s : List Char) : List Char :=
  s.flatMap fun c =>
    if hidden c then (Text.utf8 (String.singleton c)).flatMap percentOctet else [c]

/-- The octets of a text, where a percent sign and two digits stand for one. -/
def percentDecoded : Bytes → Bytes
  | [] => []
  | 0x25 :: a :: b :: rest =>
    match Text.hexDigit? (Char.ofNat a.toNat), Text.hexDigit? (Char.ofNat b.toNat) with
    | some high, some low => UInt8.ofNat (high * 16 + low) :: percentDecoded rest
    | _, _ => 0x25 :: percentDecoded (a :: b :: rest)
  | b :: rest => b :: percentDecoded rest

/-- The text that is meant by one with octets behind percent signs, if there is one. -/
def meaning? (s : String) : Option String := (Text.ofUtf8 (percentDecoded (Text.utf8 s))).toOption

/-! ## The text of an address -/

/-- The first of the longest runs of zeros in a list, as its place and its length. -/
def longestZeros (place : Nat) : List Nat → Nat × Nat
  | [] => (place, 0)
  | n :: rest =>
    let (start, length) := longestZeros (place + 1) rest
    let here := ((n :: rest).takeWhile (· == 0)).length
    if length ≤ here then (place, here) else (start, length)

/-- Groups in hexadecimal digits with colons between them. -/
def groupsText (groups : List Nat) : String :=
  ":".intercalate (groups.map fun n => String.ofList (Text.hexadecimal n))

/-- The text of a machine number of eight groups. The first of the longest runs of zeros is left
out, unless it has one zero only. -/
def eightGroupsText (groups : List Nat) : String :=
  let (start, length) := longestZeros 0 groups
  if length < 2 then groupsText groups
  else groupsText (groups.take start) ++ "::" ++ groupsText (groups.drop (start + length))

/-- The text of a machine number of four octets. -/
def fourPartsText (n : Nat) : String :=
  ".".intercalate ([24, 16, 8, 0].map fun shift => Text.ofNat (n / Nat.pow 2 shift % 256))

/-- The text of a machine. -/
def Host.text : Host → String
  | name text => text
  | fourParts n => fourPartsText n
  | eightGroups groups => "[" ++ eightGroupsText groups ++ "]"

/-- What stands before the machine. -/
def userText (u : Url) : String :=
  let password := match u.password with
    | some password => ":" ++ password
    | none => ""
  if u.user.isEmpty ∧ u.password.isNone then "" else u.user ++ password ++ "@"

/-- What stands behind the scheme and before the path. A path that would look like a machine is
kept apart. -/
def authorityText (u : Url) : String :=
  match u.host with
  | some host =>
    let service := match u.service with
      | some n => ":" ++ Text.ofNat n
      | none => ""
    "//" ++ u.userText ++ host.text ++ service
  | none => if u.path.startsWith "//" then "/." else ""

/-- What stands behind the path. -/
def tailText (u : Url) : String :=
  let query := match u.query with
    | some query => "?" ++ query
    | none => ""
  let fragment := match u.fragment with
    | some fragment => "#" ++ fragment
    | none => ""
  query ++ fragment

/-- The text of an address. -/
def text (u : Url) : String := u.scheme ++ ":" ++ u.authorityText ++ u.path ++ u.tailText

/-- An address without its user, if it tells one that can be read. -/
def withoutUser (u : Url) : Url :=
  match meaning? u.user with
  | some user =>
    if user.isEmpty ∧ (u.password.bind meaning?).isNone then u
    else { u with user := "", password := none }
  | none => u

end Url

end ContractToolkit
