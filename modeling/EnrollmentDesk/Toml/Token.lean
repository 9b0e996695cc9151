import EnrollmentDesk.Text.Percent

/-!
# TOML tokens

A text is cut into tokens by a machine that takes one character at a time (`Lexer.step`). Strings
are decoded on the way: between double quotes escapes are carried out, between single quotes nothing
is, and between three quotes of a kind the text may have line breaks. Everything else that is no
mark is a word, whose meaning depends on whether it stands for a key or for a value.
-/

namespace EnrollmentDesk.Toml

/-- A token of a TOML text. -/
inductive Token where
  /-- One of the marks `=`, `,`, `[`, `]`, `{` and `}`, perhaps right after the same mark. -/
  | mark (c : Char) (again : Bool)
  | newline
  | word (w : List Char)
  /-- A string; one between three quotes cannot be a key. -/
  | str (s : String) (long : Bool)
deriving DecidableEq

namespace Lexer

/-- The kind of string the machine is in. -/
structure Kind where
  /-- Escapes are carried out. -/
  escapes : Bool
  /-- Three quotes end it. -/
  long : Bool

/-- The quote of a kind of string. -/
def Kind.quote (k : Kind) : Char :=
  if k.escapes then '\x22' else '\x27'

/-- Where the machine stands; what has been read of a token is in reverse. -/
inductive State where
  | between
  | marked (c : Char)
  | comment
  | word (read : List Char)
  /-- After a date and a blank, which belongs to it if a time follows. -/
  | date (read : List Char)
  /-- After one quote, or after two. -/
  | opening (escapes : Bool) (second : Bool)
  /-- In a string, after so many quotes that may end it. A line break at the start is dropped. -/
  | text (kind : Kind) (read : List Char) (quotes : Nat) (start : Bool)
  | escaped (kind : Kind) (read : List Char)
  | code (kind : Kind) (read : List Char) (missing value : Nat)
  /-- After a backslash at the end of a line, in the blanks that it takes away. -/
  | folded (kind : Kind) (read : List Char) (broken : Bool)

/-- What a step returns: the new state and the tokens so far, in reverse. -/
abbrev Result := Option (State × List Token)

/-- A character that may stand in a word. -/
def isWordChar (c : Char) : Bool :=
  c.isAlphanum || ['_', '-', '+', '.', ':'].contains c

/-- Whether a word in reverse has the form of a date. -/
def isDate (read : List Char) : Bool :=
  match read.reverse with
  | [a, b, c, d, '-', e, f, '-', g, h] => [a, b, c, d, e, f, g, h].all Char.isDigit
  | _ => false

/-- A character outside strings, after the tokens so far, the last of them perhaps a mark right
before it. -/
def plain (c : Char) (tokens : List Token) (last : Option Char := none) : Result :=
  if c = ' ' || c = '\t' then some (.between, tokens)
  else if c = '\n' then some (.between, .newline :: tokens)
  else if c = '#' then some (.comment, tokens)
  else if ['=', ',', '[', ']', '\x7b', '\x7d'].contains c then
    some (.marked c, .mark c (last = some c) :: tokens)
  else if c = '\x22' then some (.opening true false, tokens)
  else if c = '\x27' then some (.opening false false, tokens)
  else if isWordChar c then some (.word [c], tokens)
  else none

/-- The character an escape letter stands for. -/
def escape? (c : Char) : Option Char :=
  if c = '\x22' || c = '\\' then some c
  else if c = 'b' then some '\x08'
  else if c = 'f' then some '\x0c'
  else if c = 'n' then some '\n'
  else if c = 'r' then some '\r'
  else if c = 't' then some '\t'
  else none

/-- A control character that may not stand in a text as it is. -/
def isControl (c : Char) : Bool :=
  (c.toNat < 0x20 && c ≠ '\t') || c.toNat = 0x7F

/-- A string ends. -/
def finish (kind : Kind) (read : List Char) (tokens : List Token) : State × List Token :=
  (.between, .str (.ofList read.reverse) kind.long :: tokens)

/-- A character of a string that is no quote of it. -/
def inside (kind : Kind) (read : List Char) (start : Bool) (tokens : List Token) (c : Char) :
    Result :=
  if c = '\n' then
    if !kind.long then none
    else some (.text kind (if start then read else c :: read) 0 false, tokens)
  else if isControl c then none
  else if kind.escapes && c = '\\' then some (.escaped kind read, tokens)
  else some (.text kind (c :: read) 0 false, tokens)

/-- One character. -/
def step : State × List Token → Char → Result
  | (.between, tokens), c => plain c tokens
  | (.marked last, tokens), c => plain c tokens (some last)
  | (.comment, tokens), c =>
    if c = '\n' then plain c tokens else if isControl c then none else some (.comment, tokens)
  | (.word read, tokens), c =>
    if isWordChar c then some (.word (c :: read), tokens)
    else if c = ' ' && isDate read then some (.date read, tokens)
    else plain c (.word read.reverse :: tokens)
  | (.date read, tokens), c =>
    if c.isDigit then some (.word (c :: 'T' :: read), tokens)
    else plain c (.word read.reverse :: tokens)
  | (.opening escapes false, tokens), c =>
    let kind : Kind := ⟨escapes, false⟩
    if c = kind.quote then some (.opening escapes true, tokens)
    else inside kind [] false tokens c
  | (.opening escapes true, tokens), c =>
    let kind : Kind := ⟨escapes, true⟩
    if c = kind.quote then some (.text kind [] 0 true, tokens)
    else plain c (.str "" false :: tokens)
  | (.text kind read quotes start, tokens), c =>
    if c = kind.quote then
      if !kind.long then some (finish kind read tokens)
      else if quotes = 4 then some (finish kind (c :: c :: read) tokens)
      else some (.text kind read (quotes + 1) false, tokens)
    else if 3 ≤ quotes then
      let (state, tokens) := finish kind (List.replicate (quotes - 3) kind.quote ++ read) tokens
      match state with
      | .between => plain c tokens
      | _ => none
    else inside kind (List.replicate quotes kind.quote ++ read) start tokens c
  | (.escaped kind read, tokens), c =>
    if c = 'u' then some (.code kind read 4 0, tokens)
    else if c = 'U' then some (.code kind read 8 0, tokens)
    else if kind.long && (c = ' ' || c = '\t') then some (.folded kind read false, tokens)
    else if kind.long && c = '\n' then some (.folded kind read true, tokens)
    else (escape? c).map fun x => (.text kind (x :: read) 0 false, tokens)
  | (.code kind read missing value, tokens), c =>
    (Text.hexValue? c).bind fun d =>
      let value := 16 * value + d
      if 1 < missing then some (.code kind read (missing - 1) value, tokens)
      else if value.isValidChar then
        some (.text kind (Char.ofNat value :: read) 0 false, tokens)
      else none
  | (.folded kind read broken, tokens), c =>
    if c = ' ' || c = '\t' then some (.folded kind read broken, tokens)
    else if c = '\n' then some (.folded kind read true, tokens)
    else if !broken then none
    else if c = kind.quote then some (.text kind read 1 false, tokens)
    else inside kind read false tokens c

/-- The text with one character for each line break. -/
def joinBreaks : List Char → List Char
  | '\r' :: '\n' :: s => '\n' :: joinBreaks s
  | c :: s => c :: joinBreaks s
  | [] => []

/-- The tokens of a text, the last of them a line break. -/
def tokens? (s : List Char) : Option (List Token) :=
  match (joinBreaks s ++ ['\n']).foldlM step (.between, []) with
  | some (.between, tokens) => some tokens.reverse
  | _ => none

end Lexer

end EnrollmentDesk.Toml
