import EnrollmentDesk.Text.Numeral
import EnrollmentDesk.Text.Parts
import EnrollmentDesk.Text.Percent
import EnrollmentDesk.Url.Error

/-!
# IPv4 addresses

A host whose last part is a number is an IPv4 address or wrong. It has one to four parts, each in
decimal, in octal after a zero or in hexadecimal after `0x`; the last part fills all the bytes that
the others leave. It is always written as four decimal numbers.
-/

namespace EnrollmentDesk.Ipv4

open Text Numeral

/-- The parts of a host between its dots. A dot at the end adds none. -/
def hostParts (host : List Char) : List (List Char) :=
  let ps := parts (· = '.') host
  if 1 < ps.length && ps.getLast? = some [] then ps.dropLast else ps

/-- The value of digits in a base; `none` if one is no digit of the base. -/
def valueIn (base : Nat) (ds : List Char) : Option Nat :=
  ds.foldlM (fun n d => ((hexValue? d).filter (· < base)).map fun v => base * n + v) 0

/-- Reads one part. -/
def readPart : List Char → Option Nat
  | [] => none
  | '0' :: 'x' :: ds => valueIn 16 ds
  | '0' :: 'X' :: ds => valueIn 16 ds
  | ['0'] => some 0
  | '0' :: ds => valueIn 8 ds
  | ds => valueIn 10 ds

/-- A host whose last part is a number, well written or not. -/
def endsInNumber (host : List Char) : Bool :=
  match (hostParts host).getLast? with
  | some part => isDigits part || (readPart part).isSome
  | none => false

/-- The address that the parts make: all but the last have one byte each. -/
def assemble (ns : List Nat) : Option Nat :=
  match ns.reverse with
  | [] => none
  | last :: front =>
    let width := Nat.pow 256 (4 - front.length)
    if front.length < 4 && front.all (· < 256) && last < width then
      some ((front.reverse.foldl (fun n b => 256 * n + b) 0) * width + last)
    else none

/-- Reads a host that ends in a number. -/
def read (host : List Char) : Except UrlError Nat :=
  match (hostParts host).mapM readPart with
  | some ns =>
    match assemble ns with
    | some address => .ok address
    | none => .error .badIpv4
  | none => .error .badIpv4

/-- An address as four numbers. -/
def write (address : Nat) : String :=
  ofNat (address / 16777216) ++ "." ++ ofNat (address / 65536 % 256) ++ "." ++
    ofNat (address / 256 % 256) ++ "." ++ ofNat (address % 256)

end EnrollmentDesk.Ipv4
