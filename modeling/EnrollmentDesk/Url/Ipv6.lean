import EnrollmentDesk.Url.Ipv4

/-!
# IPv6 addresses

An IPv6 address has eight pieces of up to four hexadecimal digits. Two colons in a row, once in the
address, stand for one or more pieces that are zero, and the last two pieces may be written like an
IPv4 address. The longest run of two or more zeros is left out when it is written, the first of
several.
-/

namespace EnrollmentDesk.Ipv6

open Text Numeral

/-- One byte in decimal, without zeros in front. -/
def readByte (ds : List Char) : Option Nat :=
  if ds.length ≤ 3 && (ds.length = 1 || ds.head? ≠ some '0') then
    (readNat? ds).filter (· < 256)
  else none

/-- One piece: one to four hexadecimal digits. -/
def readPiece (ds : List Char) : Option Nat :=
  if 1 ≤ ds.length && ds.length ≤ 4 then Ipv4.valueIn 16 ds else none

/-- The last part: a piece, or two pieces written as four bytes. -/
def readLast (ds : List Char) : Option (List Nat) :=
  if ds.contains '.' then
    match (parts (· = '.') ds).mapM readByte with
    | some [a, b, c, d] => some [256 * a + b, 256 * c + d]
    | _ => none
  else (readPiece ds).map ([·])

/-- The pieces between single colons. -/
def readParts : List (List Char) → Option (List Nat)
  | [] => some []
  | [ds] => readLast ds
  | ds :: rest => do
    let n ← readPiece ds
    let ns ← readParts rest
    return n :: ns

/-- The pieces of a text that may be empty. -/
def readPieces (s : List Char) : Option (List Nat) :=
  if s.isEmpty then some [] else readParts (parts (· = ':') s)

/-- The text before and after the first two colons in a row. -/
def splitGap : List Char → Option (List Char × List Char)
  | ':' :: ':' :: s => some ([], s)
  | c :: s => (splitGap s).map fun p => (c :: p.1, p.2)
  | [] => none

/-- The eight pieces of an address, from the text between its brackets. -/
def read? (s : List Char) : Option (List Nat) :=
  match splitGap s with
  | none => (readPieces s).filter fun ns => ns.length = 8
  | some (left, right) => do
    let ls ← readPieces left
    let rs ← readPieces right
    if left.contains '.' || 7 < ls.length + rs.length then none
    else return ls ++ List.replicate (8 - ls.length - rs.length) 0 ++ rs

/-- How many zeros a list begins with. -/
def zeros (ns : List Nat) : Nat :=
  (ns.takeWhile (· = 0)).length

/-- Where the longest run of zeros begins and how long it is: the first such run. -/
def longestRun : List Nat → Nat × Nat
  | [] => (0, 0)
  | n :: ns =>
    let (start, length) := longestRun ns
    let here := zeros (n :: ns)
    if here < length || here = 0 then (start + 1, length) else (0, here)

/-- Pieces with colons between. -/
def writePieces (ns : List Nat) : String :=
  ":".intercalate (ns.map fun n => .ofList (Nat.toDigits 16 n))

/-- An address with its brackets. -/
def write (ns : List Nat) : String :=
  let (start, length) := longestRun ns
  if length < 2 then "[" ++ writePieces ns ++ "]"
  else "[" ++ writePieces (ns.take start) ++ "::" ++ writePieces (ns.drop (start + length)) ++ "]"

end EnrollmentDesk.Ipv6
