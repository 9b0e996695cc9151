import EnrollmentDesk.Log.Event
import EnrollmentDesk.Text.Blank
import EnrollmentDesk.Text.Letter
import EnrollmentDesk.Text.Numeral

/-!
# What is shown of the log

A filter is a list of directives with commas between. A directive is written `target`, then
`[span{field}]`, then `=level`, and each of these may be left out. It speaks of the events from the
parts of the program whose name begins with the target, if they have the field; the level is the
least grave that is shown. A word alone is a level if it can be one, and else a target.

Of the directives that speak of an event the most specific counts: the one with the longest target;
of those, one with a field, the last in the order of words; of two with the same target and field
the later. Spans are stretches of work that events belong to, and a field may have to have a value
in them; no event here belongs to any, so a directive with a span or a value speaks of none. Without
any directive only errors are shown.
-/

namespace EnrollmentDesk

/-- How much is shown of some events. -/
structure Directive where
  /-- Absent for the whole program. -/
  target : Option (List Char) := none
  /-- A field that an event must have. -/
  field : Option String := none
  /-- Whether it speaks of events that belong to a span. -/
  inSpan : Bool := false
  /-- The rank of the least grave level that is shown; nothing is at zero. -/
  rank : Nat
deriving DecidableEq

namespace LogFilter

open Text

/-- The rank of a level by its name or its number. -/
def rank? (word : List Char) : Option Nat :=
  match (Numeral.readUnsigned .unsigned64 word).map Int.toNat with
  | some n => if n ≤ 5 then some n else none
  | none =>
    let word := word.map Char.toLower
    if word = "off".toList then some 0
    else if word = "error".toList then some 1
    else if word = "warn".toList then some 2
    else if word = "info".toList then some 3
    else if word = "debug".toList then some 4
    else if word = "trace".toList then some 5
    else none

/-- The rank at which everything is shown. -/
def fullRank : Nat := 5

/-- A character that a target or a level begins with. -/
def beginsTarget (c : Char) : Bool :=
  isLetterOrNumber c || c = '-' || c = ':' || c = '_'

/-- Reads what follows the bracket at the end of a span: a level, or nothing but blanks. -/
def readRank : List Char → Option Nat
  | '=' :: [] => some fullRank
  | '=' :: level => rank? level
  | rest => if rest.all isBlank then some fullRank else none

/-- Reads a field, its brace and the bracket that follows: the name of the field, whether it must
have a value, and the rest. -/
def readField (s : List Char) : Option (String × Bool × List Char) :=
  match cutAt (· = '\x7d') s with
  | some (c :: field, ']' :: rest) =>
    match cutAt (· = '=') (c :: field) with
    | some (name, _) => some (.ofList name, true, rest)
    | none => some (.ofList (c :: field), false, rest)
  | _ => none

/-- Reads a span and its field, and the level after them. -/
def readSpan (target : Option (List Char)) (s : List Char) : Option Directive := do
  let name := s.takeWhile fun c => c ≠ ']' && c ≠ '\x7b'
  match s.drop name.length with
  | ']' :: rest => return { target, inSpan := true, rank := ← readRank rest }
  | _ :: rest =>
    let (field, hasValue, rest) ← readField rest
    return { target, field, inSpan := !name.isEmpty || hasValue, rank := ← readRank rest }
  | [] => none

/-- Reads a directive. Blanks in front of a target, and after a target or a level, are part of it,
so that it is of no use; the bracket of a span must come first. -/
def readDirective (s : List Char) : Option Directive :=
  match s with
  | [] => none
  | '[' :: rest => readSpan none rest
  | c :: _ =>
    if !beginsTarget c then none
    else
      match cutAt (fun c => c = '=' || c = '[') s with
      | none =>
        match rank? s with
        | some rank => some { rank }
        | none => some { target := some s, rank := fullRank }
      | some (target, rest) =>
        if s[target.length]? = some '=' then
          (if rest.isEmpty then some fullRank else rank? rest).map fun rank =>
            { target := some target, rank }
        else readSpan (some target) rest

/-- Reads a filter. What is no directive is passed over. -/
def read (s : String) : List Directive :=
  let directives := ((parts (· = ',') s.toList).filter fun p => !p.isEmpty).filterMap readDirective
  if directives.isEmpty then [{ rank := 1 }] else directives

/-- Whether a directive speaks of an event. -/
def Directive.covers (d : Directive) (e : LogEvent) : Bool :=
  !d.inSpan && d.target.all (·.isPrefixOf e.target.toList) && d.field.all e.names.contains

/-- Whether the second of two directives that speak of one event counts more, or as much. -/
def Directive.le (b d : Directive) : Bool :=
  let size := fun (x : Directive) => (x.target.map fun t => t.length + 1).getD 0
  if size b ≠ size d then size b < size d
  else
    match b.field, d.field with
    | none, _ => true
    | some _, none => false
    | some x, some y => x ≤ y

/-- The directive that counts, of those read so far and one more. -/
def better (e : LogEvent) (best : Option Directive) (d : Directive) : Option Directive :=
  if !Directive.covers d e then best
  else
    match best with
    | none => some d
    | some b => if Directive.le b d then some d else some b

/-- Whether an event is shown. -/
def shows (filter : List Directive) (e : LogEvent) : Bool :=
  match filter.foldl (better e) none with
  | some d => e.level.rank ≤ d.rank
  | none => false

end LogFilter

end EnrollmentDesk
