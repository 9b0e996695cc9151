/-!
# JSON values

Records travel as JSON. A number keeps apart what a reader has to keep apart: an integer that fits
in 64 bits, signed or unsigned, and any other number, which has a fraction, an exponent or too many
digits and is kept in decimal.
-/

namespace EnrollmentDesk

/-- A decimal number: `coefficient * 10 ^ exponent`, negated if `negative`. -/
structure Decimal where
  negative : Bool
  coefficient : Nat
  exponent : Int
deriving DecidableEq

/-- A JSON value. An object keeps its members in the order of the text. -/
inductive Json where
  | null
  | bool (b : Bool)
  | int (n : Int)
  | real (d : Decimal)
  | str (s : String)
  | arr (items : List Json)
  | obj (members : List (String × Json))

namespace Json

/-- The value of a member; of two with one name the later counts. -/
def lookup (members : List (String × Json)) (name : String) : Option Json :=
  (members.reverse.find? fun m => m.1 == name).map Prod.snd

/-- The member of an object, `none` in a value that is no object or has no such member. -/
def get? (name : String) : Json → Option Json
  | obj members => lookup members name
  | _ => none

/-- A present member that is not `null`. -/
def given? (name : String) (j : Json) : Option Json :=
  match j.get? name with
  | some null => none
  | v => v

/-- The text of a string. -/
def asString? : Json → Option String
  | str s => some s
  | _ => none

/-- The value of a boolean. -/
def asBool? : Json → Option Bool
  | bool b => some b
  | _ => none

/-- The value of an integer. -/
def asInt? : Json → Option Int
  | int n => some n
  | _ => none

/-- The items of an array. -/
def asList? : Json → Option (List Json)
  | arr items => some items
  | _ => none

end Json

end EnrollmentDesk
