import EnrollmentDesk.Json.Value
import EnrollmentDesk.Text.Numeral
import EnrollmentDesk.Text.Percent

/-!
# JSON tokens

A text is cut into tokens by a machine that takes one character at a time (`Lexer.step`). Strings
are decoded on the way; a numeral or a word is kept as it stands until the character after it.
-/

namespace EnrollmentDesk.Json

/-- A token of a JSON text. -/
inductive Token where
  | open_ (square : Bool)
  | close (square : Bool)
  | colon
  | comma
  | str (s : String)
  | scalar (j : Json)

/-- The greatest coefficient of a number. -/
def maxCoefficient : Nat := 18446744073709551615

/-- Takes digits into a coefficient until the next would make it too great; how many are left. -/
def takeDigits (n : Nat) : List Char → Nat × Nat
  | [] => (n, 0)
  | d :: ds =>
    let next := 10 * n + (d.toNat - 0x30)
    if maxCoefficient < next then (n, ds.length + 1) else takeDigits next ds

/-- Reads the digits and the exponent of a numeral: an optional fraction, then an optional exponent.
Digits that the coefficient has no room for only count for the places of others. -/
def readDecimal? (negative : Bool) (s : List Char) : Option Decimal :=
  let whole := s.takeWhile Char.isDigit
  let rest := s.drop whole.length
  if whole.isEmpty || (whole.head? = some '0' && whole.length ≠ 1) then none
  else
    let (fraction, rest) :=
      match rest with
      | '.' :: r => (r.takeWhile Char.isDigit, r.dropWhile Char.isDigit)
      | r => ([], r)
    if s.contains '.' && fraction.isEmpty then none
    else
      let (n, left) := takeDigits 0 whole
      let (coefficient, leftOfFraction) := takeDigits n fraction
      let shift : Int := left + leftOfFraction - fraction.length
      match rest with
      | [] => some ⟨negative, coefficient, shift⟩
      | e :: r =>
        if e = 'e' || e = 'E' then
          (Numeral.readInt? r).map fun x => ⟨negative, coefficient, shift + x⟩
        else none

/-- Reads a numeral. Digits alone are an integer if it fits in 64 bits; `-0` is none. -/
def readNumber? (s : List Char) : Option Json :=
  let negative := s.head? = some '-'
  let digits := if negative then s.drop 1 else s
  (readDecimal? negative digits).map fun d =>
    let n : Int := if negative then -(d.coefficient : Int) else d.coefficient
    if Numeral.isDigits digits && d.exponent = 0 && !(negative && d.coefficient = 0) &&
        (Range.signed64.contains n || Range.unsigned64.contains n) then
      .int n
    else .real d

/-- Reads a word or a numeral. -/
def readBare? (s : List Char) : Option Json :=
  if s = ['n', 'u', 'l', 'l'] then some .null
  else if s = ['t', 'r', 'u', 'e'] then some (.bool true)
  else if s = ['f', 'a', 'l', 's', 'e'] then some (.bool false)
  else readNumber? s

namespace Lexer

/-- Where the machine stands; what has been read of a token is in reverse. -/
inductive State where
  | between
  | bare (read : List Char)
  | text (read : List Char)
  | escaped (read : List Char)
  /-- In the four digits of a code unit, after the first unit of a pair if there is one. -/
  | unit (read : List Char) (first : Option Nat) (missing value : Nat)
  /-- Before the second unit of a pair. -/
  | paired (read : List Char) (first : Nat) (slash : Bool)

/-- What a step returns: the new state and the tokens so far, in reverse. -/
abbrev Result := Option (State × List Token)

/-- The blanks of JSON. -/
def isSpace (c : Char) : Bool :=
  c = ' ' || c = '\t' || c = '\n' || c = '\r'

/-- A character that is a token by itself, or separates tokens. -/
def punctuation? (c : Char) : Option (List Token) :=
  if isSpace c then some []
  else if c = '\x7b' then some [.open_ false]
  else if c = '\x7d' then some [.close false]
  else if c = '[' then some [.open_ true]
  else if c = ']' then some [.close true]
  else if c = ':' then some [.colon]
  else if c = ',' then some [.comma]
  else none

/-- The character an escape letter stands for. -/
def escape? (c : Char) : Option Char :=
  if c = '\x22' || c = '\\' || c = '/' then some c
  else if c = 'b' then some '\x08'
  else if c = 'f' then some '\x0c'
  else if c = 'n' then some '\n'
  else if c = 'r' then some '\r'
  else if c = 't' then some '\t'
  else none

/-- A complete code unit: a character, or half of one. -/
def unitRead (read : List Char) (first : Option Nat) (value : Nat) : Option State :=
  match first with
  | none =>
    if 0xD800 ≤ value && value < 0xDC00 then some (.paired read value false)
    else if 0xDC00 ≤ value && value < 0xE000 then none
    else some (.text (Char.ofNat value :: read))
  | some high =>
    if 0xDC00 ≤ value && value < 0xE000 then
      some (.text (Char.ofNat (0x10000 + (high - 0xD800) * 0x400 + (value - 0xDC00)) :: read))
    else none

/-- A character outside strings, after the tokens so far. -/
def plain (c : Char) (tokens : List Token) : Result :=
  match punctuation? c with
  | some found => some (.between, found ++ tokens)
  | none => if c = '\x22' then some (.text [], tokens) else some (.bare [c], tokens)

/-- One character. -/
def step : State × List Token → Char → Result
  | (.between, tokens), c => plain c tokens
  | (.bare read, tokens), c =>
    if (punctuation? c).isSome || c = '\x22' then
      (readBare? read.reverse).bind fun j => plain c (.scalar j :: tokens)
    else some (.bare (c :: read), tokens)
  | (.text read, tokens), c =>
    if c = '\x22' then some (.between, .str (.ofList read.reverse) :: tokens)
    else if c = '\\' then some (.escaped read, tokens)
    else if c.toNat < 0x20 then none
    else some (.text (c :: read), tokens)
  | (.escaped read, tokens), c =>
    if c = 'u' then some (.unit read none 4 0, tokens)
    else (escape? c).map fun x => (.text (x :: read), tokens)
  | (.unit read first missing value, tokens), c =>
    (Text.hexValue? c).bind fun d =>
      if missing ≤ 1 then (unitRead read first (16 * value + d)).map fun s => (s, tokens)
      else some (.unit read first (missing - 1) (16 * value + d), tokens)
  | (.paired read first false, tokens), c =>
    if c = '\\' then some (.paired read first true, tokens) else none
  | (.paired read first true, tokens), c =>
    if c = 'u' then some (.unit read (some first) 4 0, tokens) else none

/-- The tokens of a text. -/
def tokens? (s : List Char) : Option (List Token) :=
  match s.foldlM step (.between, []) with
  | some (.between, tokens) => some tokens.reverse
  | some (.bare read, tokens) => (readBare? read.reverse).map fun j => (.scalar j :: tokens).reverse
  | _ => none

end Lexer

end EnrollmentDesk.Json
