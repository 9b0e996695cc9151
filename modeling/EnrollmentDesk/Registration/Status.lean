import EnrollmentDesk.Text.Blank

/-!
# The status of a registration

A registration holds a seat, waits for one, or has been canceled. The first two are *active*; only
active registrations count in a class.
-/

namespace EnrollmentDesk

/-- What a registration stands for. -/
inductive Status where
  | confirmed
  | waitlisted
  | canceled
deriving DecidableEq

namespace Status

/-- The word for a status. -/
def name : Status → String
  | confirmed => "confirmed"
  | waitlisted => "waitlisted"
  | canceled => "canceled"

/-- The word for a status in capitals. -/
def capitals : Status → String
  | confirmed => "CONFIRMED"
  | waitlisted => "WAITLISTED"
  | canceled => "CANCELED"

/-- Confirmed or waitlisted. -/
def isActive : Status → Bool
  | canceled => false
  | _ => true

/-- The status whose word is exactly the text. -/
def ofName? (s : String) : Option Status :=
  if s = "confirmed" then some confirmed
  else if s = "waitlisted" then some waitlisted
  else if s = "canceled" then some canceled
  else none

/-- What a person typed for a status, without margins and in lower-case ASCII letters. -/
def typedWord (s : String) : String :=
  .ofList ((Text.trimChars s.toList).map Char.toLower)

/-- Reads a status that a person typed; "cancelled" is another spelling. The error is the word that
names no status. -/
def read (s : String) : Except String Status :=
  let word := typedWord s
  match ofName? word with
  | some status => .ok status
  | none => if word = "cancelled" then .ok canceled else .error word

/-- What is said of a word that names no status. -/
def unknownText (word : String) : String :=
  "unknown registration status: " ++ word

end Status

end EnrollmentDesk
