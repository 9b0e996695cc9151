import EnrollmentDesk.Url.Ipv6

/-!
# Addresses

An absolute address in its parts, and how it is written.
-/

namespace EnrollmentDesk

/-- What an address names as its host. -/
inductive Host where
  /-- A domain name, or in a scheme without domain names a text. -/
  | name (text : List Char)
  | ipv4 (address : Nat)
  | ipv6 (pieces : List Nat)
deriving DecidableEq

/-- The path of an address: a text, or segments that each follow a slash. -/
inductive UrlPath where
  | text (s : List Char)
  | segments (ss : List (List Char))
deriving DecidableEq

/-- An absolute address. -/
structure Url where
  scheme : List Char
  user : List Char := []
  password : List Char := []
  /-- Absent if the address has no authority. -/
  host : Option Host := none
  /-- Absent if it is the usual one of the scheme. -/
  port : Option Nat := none
  path : UrlPath
  query : Option (List Char) := none
  fragment : Option (List Char) := none
deriving DecidableEq

/-- A host as text. -/
def Host.write : Host → List Char
  | name text => text
  | ipv4 address => (Ipv4.write address).toList
  | ipv6 pieces => (Ipv6.write pieces).toList

/-- A path as text. -/
def UrlPath.write : UrlPath → List Char
  | text s => s
  | segments ss => ss.flatMap ('/' :: ·)

namespace Url

/-- What stands before the host. -/
def writeUser (u : Url) : List Char :=
  if u.user.isEmpty && u.password.isEmpty then []
  else u.user ++ (if u.password.isEmpty then [] else ':' :: u.password) ++ ['@']

/-- The part from the slashes to the port. A path that begins with an empty segment would be taken
for one if there is none, so a dot goes before it. -/
def writeAuthority (u : Url) : List Char :=
  match u.host with
  | some host =>
    ['/', '/'] ++ u.writeUser ++ host.write ++
      (match u.port with
      | some n => ':' :: Numeral.natDigits n
      | none => [])
  | none =>
    match u.path with
    | .segments ([] :: _ :: _) => ['/', '.']
    | _ => []

/-- An address as text. -/
def write (u : Url) : String :=
  .ofList (u.scheme ++ [':'] ++ u.writeAuthority ++ u.path.write ++
    (match u.query with
    | some q => '?' :: q
    | none => []) ++
    (match u.fragment with
    | some f => '#' :: f
    | none => []))

end Url

end EnrollmentDesk
