import EnrollmentDesk.Calendar.Format
import EnrollmentDesk.Enrollment.Operation
import EnrollmentDesk.Text.Markup

/-!
# Wordings of the chat

What the bot says. Names and codes that people chose are escaped wherever the text is marked up.
-/

namespace EnrollmentDesk.Wording

open Text Numeral

/-- The greeting. -/
def welcome : String :=
  "\n".intercalate
    ["👋 Welcome to SeatKeeper!",
      "",
      "You will get a message here when your child is promoted from a class waitlist.",
      "Ask the class organizer for a link code and send /link CODE to link this chat.",
      "",
      "Send /help to see what I can do."]

/-- What everyone may do. -/
def familyHelp : List String :=
  ["🤖 SeatKeeper Help",
    "",
    "/start - Start the bot",
    "/help - Show this help message",
    "/link CODE - Link this chat to your parent account",
    "/my - List your upcoming registrations",
    "/status CODE - Show a registration and its waitlist position",
    "/cancel CODE - Cancel a registration"]

/-- What admins may do besides. -/
def adminHelp : List String :=
  ["",
    "Admin:",
    "/checkin CODE - Check a child in",
    "/capacity CLASS_ID N - Change class capacity",
    "/roster CLASS_ID - Show seat usage of a class",
    "/linkcode PARENT_ID - Issue a chat link code for a parent"]

/-- What the sender may do. -/
def help (admin : Bool) : String :=
  "\n".intercalate (if admin then familyHelp ++ adminHelp else familyHelp)

/-- The chat is linked. -/
def linked (p : Parent) : String :=
  "✅ Linked to <b>" ++ escape p.name ++ "</b> (" ++ escape p.phone ++
    ")\nPromotion notices for your children will arrive here."

/-- A line of the list of registrations. The code of a registration that waits is not shown. -/
def listedLine (zone : Offset) (r : ListedRegistration) : String :=
  "• " ++ r.classDate.friendlyDate zone ++ " — " ++ escape r.className ++ " — " ++
    escape r.childName ++ " — " ++
    (if r.status = .waitlisted then "Waitlist" else "<code>" ++ escape r.code ++ "</code>") ++ "\n"

/-- The list of registrations. -/
def listing (zone : Offset) (rs : List ListedRegistration) : String :=
  if rs.isEmpty then "No upcoming registrations."
  else
    "<b>Your upcoming registrations</b>\n" ++ String.join (rs.map (listedLine zone)) ++
      "\nSend /status CODE to check a registration or /cancel CODE to cancel it."

/-- The status, with the place on the waitlist. -/
def statusWord (p : Placement) : String :=
  match p.registration.status, p.position with
  | .waitlisted, some n => "WAITLISTED (#" ++ ofNat n ++ ")"
  | status, _ => status.capitals

/-- How a registration stands. -/
def status (zone : Offset) (p : Placement) : String :=
  "🎫 Registration <code>" ++ escape p.registration.code ++ "</code>\nStatus: <b>" ++
    statusWord p ++ "</b>" ++
    (match p.registration.checkInAt with
    | some t => "\nChecked in: " ++ t.friendlyDateTime zone
    | none => "")

/-- What became of a cancellation. -/
def cancellation (c : Cancellation) : String :=
  let code := escape c.registration.code
  if c.already then "Registration <code>" ++ code ++ "</code> was already canceled."
  else "❌ Registration <code>" ++ code ++ "</code> canceled."

/-- A child has come. -/
def checkedIn (r : Registration) : String :=
  "✅ Checked in <code>" ++ escape r.code ++ "</code>"

/-- A class has another capacity. -/
def capacitySet (classId capacity : Int) (promoted : Nat) : String :=
  "Capacity of class " ++ ofInt classId ++ " set to " ++ ofInt capacity ++
    ".\nPromoted from waitlist: " ++ ofNat promoted

/-- How the seats of a class are taken. -/
def roster (o : Occupancy) : String :=
  "📋 <b>" ++ escape o.className ++ "</b>\nCapacity: " ++ ofInt o.capacity ++
    "\nConfirmed: " ++ ofInt o.confirmed ++ "\nChecked in: " ++ ofInt o.checkedIn ++
    "\nWaitlisted: " ++ ofInt o.waitlisted ++ "\nAvailable: " ++ ofInt o.available ++ " (" ++
    ofInt o.fillPercent ++ "% full)"

/-- A new link code. -/
def linkCode (zone : Offset) (c : LinkCode) : String :=
  "🔗 Link code for parent " ++ ofInt c.parentId ++ ": <code>" ++ c.code ++
    "</code>\n        Valid until " ++ c.expiresAt.friendlyDateTime zone ++
    ". The parent sends /link " ++ c.code ++ " to this bot."

/-- A code was expected after the command. -/
def codeUsage (command codeWord : String) : String :=
  "Please send a valid code, e.g. " ++ command ++ " " ++ codeWord ++ "-123456"

/-- The number of a parent was expected. -/
def linkCodeUsage : String := "Usage: /linkcode PARENT_ID"

/-- The number of a class was expected. -/
def rosterUsage : String := "Usage: /roster CLASS_ID"

/-- The number of a class and a capacity were expected. -/
def capacityUsage : String := "Usage: /capacity CLASS_ID CAPACITY"

end EnrollmentDesk.Wording
