import EnrollmentDesk.Desk.Basic
import EnrollmentDesk.Text.Markup
import EnrollmentDesk.Url.Reader

/-!
# Notices of promotion

Whoever gets a seat from the waitlist is announced to every listener, registration by registration
and listener by listener. A listener that fails is passed over: its failure is counted, and neither
the operation nor the other listeners hear of it.

The family is told in the chat it linked last, if it has one.
-/

namespace EnrollmentDesk

namespace Notice

open Text

/-- What a family is told. -/
def text (zone : Offset) (r : Registration) (whom : Recipient) : String :=
  "🎉 <b>Promoted from Waitlist</b>\n" ++ escape whom.childName ++ " — " ++ escape whom.className ++
    " — " ++ whom.classDate.friendlyDate zone ++ "\nCode: <code>" ++ escape r.code ++ "</code>"

/-- A text without the slashes at its end. -/
def dropSlashes (s : String) : List Char :=
  (s.toList.reverse.dropWhile (· = '/')).reverse

/-- Where the picture of a code is served. -/
def pictureText (base code : String) : String :=
  .ofList (dropSlashes base ++ '/' :: percentEncode isUnreserved code.toList ++ ".png".toList)

/-- The address of the picture of a code, if pictures are served. -/
def picture (base : Option String) (code : String) : Except Error (Option Url) :=
  match base with
  | none => .ok none
  | some base =>
    match Url.read (pictureText base code) with
    | .ok url => .ok (some url)
    | .error e => .error (.badUrl e)

end Notice

namespace Service

/-- Tells the family of a promoted registration. -/
def tellFamily (office : Office) (zone : Offset) (qrBase : Option String) (r : Registration) :
    Service Unit := do
  match ← ask fun s => s.recipient? r.id with
  | none => pure ()
  | some whom =>
    send office (.message whom.chatId (Notice.text zone r whom) true)
    match ← Notice.picture qrBase r.code with
    | none => pure ()
    | some url => send office (.photo whom.chatId url.write)

/-- What a listener does when it hears of a promotion, after so many calls in all. -/
def hear (office : Office) (calls : Nat) (r : Registration) : Listener → Service Unit
  | .family zone qrBase => tellFamily office zone qrBase r
  | .watcher answer =>
    match answer calls r with
    | none => pure ()
    | some e => throw e

/-- Calls one listener. The answer is whether it did not fail. -/
def call (office : Office) (r : Registration) (position : Nat) (l : Listener) : Service Bool := do
  let calls := (← get).calls
  modify fun d => { d with calls := calls ++ [⟨position, r⟩] }
  try
    hear office calls.length r l
    return true
  catch _ =>
    return false

/-- Calls the listeners in order, the first of them at `position`. -/
def callAll (office : Office) (r : Registration) (position : Nat) :
    List Listener → Report → Service Report
  | [], report => return report
  | l :: ls, report => do
    let delivered ← call office r position l
    callAll office r (position + 1) ls (report.add delivered)

/-- Announces promoted registrations to all listeners. -/
def announceFrom (office : Office) : List Registration → Report → Service Report
  | [], report => return report
  | r :: rs, report => do
    announceFrom office rs (← callAll office r 0 office.listeners report)

/-- Announces promoted registrations to all listeners. -/
def announce (office : Office) (promoted : List Registration) : Service Report :=
  announceFrom office promoted {}

end Service

end EnrollmentDesk
