import EnrollmentDesk.Calendar.Format
import EnrollmentDesk.Calendar.Reader
import EnrollmentDesk.Json.Value
import EnrollmentDesk.Registration.Status
import EnrollmentDesk.Text.Numeral

/-!
# Fields of records

A record is read from an object, in which the order of the members does not matter and unknown ones
are passed over, or from an array that holds its fields in order. A field of an object may be
absent, and the reader of the field says what that means.
-/

namespace EnrollmentDesk.Json

/-- The fields of a record, by the names given. In an array all have to be there, unless it may end
early. -/
def fields? (names : List String) (mayEnd : Bool) : Json → Option (List (Option Json))
  | obj members => some (names.map (lookup members))
  | arr items =>
    if items.length = names.length || (mayEnd && items.length < names.length) then
      some (items.map some ++ List.replicate (names.length - items.length) none)
    else none
  | _ => none

/-- An integer of a range. -/
def inRange? (r : Range) (j : Json) : Option Int :=
  j.asInt?.filter r.contains

/-- A natural number of a range. -/
def natIn? (r : Range) (j : Json) : Option Nat :=
  (j.inRange? r).map Int.toNat

/-- An instant. -/
def instant? (j : Json) : Option Instant :=
  j.asString?.bind Instant.read?

/-- A status: its word, or an object with the word for a name and nothing for a value. -/
def status? : Json → Option Status
  | str s => Status.ofName? s
  | obj [(s, null)] => Status.ofName? s
  | _ => none

/-- A field that has to be there. -/
def required {α : Type} (read : Json → Option α) (field : Option Json) : Option α :=
  field.bind read

/-- A field that may be absent or `null`. -/
def optional {α : Type} (read : Json → Option α) : Option Json → Option (Option α)
  | none => some none
  | some null => some none
  | some j => (read j).map some

/-- A field with a value to fall back on. -/
def orElse {α : Type} (fallback : α) (read : Json → Option α) : Option Json → Option α
  | none => some fallback
  | some j => read j

/-- A list of which every item can be read. -/
def list? {α : Type} (read : Json → Option α) (j : Json) : Option (List α) :=
  j.asList?.bind fun items => items.mapM read

/-- A value that may be absent. -/
def ofOption {α : Type} (write : α → Json) : Option α → Json
  | none => null
  | some a => write a

/-- An instant. -/
def ofInstant (t : Instant) : Json :=
  str t.iso

/-- A status. -/
def ofStatus (s : Status) : Json :=
  str s.name

end EnrollmentDesk.Json
