import EnrollmentDesk.Calendar.Instant
import EnrollmentDesk.Registration.Status

/-!
# Records

What the desk keeps: classes with a number of seats, children and their parents, and a registration
for each child who asked for a seat in a class. A parent links a chat by a code of six digits that
can be used once and for a short time.

A registration that has been checked in is *anchored*: the child is in the room. The others of a
class stand in line by the time they came, and by number where that is the same.
-/

namespace EnrollmentDesk

/-- A class on one date. -/
structure Class where
  id : Int
  name : String
  date : Instant
  /-- How many registrations may be confirmed at a time. -/
  capacity : Int
  /-- Absent if signup is open. -/
  signupOpensAt : Option Instant
  createdAt : Instant
  updatedAt : Instant
deriving DecidableEq

/-- A child of a parent. -/
structure Child where
  id : Int
  parentId : Int
  name : String
  createdAt : Instant
deriving DecidableEq

/-- A registration of a child for a class. -/
structure Registration where
  id : Int
  parentId : Int
  childId : Int
  classId : Int
  status : Status
  /-- The code a family shows at the door and types into the chat. -/
  code : String
  checkInAt : Option Instant
  createdAt : Instant
  updatedAt : Instant
deriving DecidableEq

/-- A registration still to be stored. -/
structure NewRegistration where
  parentId : Int
  childId : Int
  classId : Int
  status : Status
  code : String
deriving DecidableEq

/-- A parent. -/
structure Parent where
  id : Int
  name : String
  phone : String
  email : Option String
  createdAt : Instant
  updatedAt : Instant
deriving DecidableEq

/-- A code by which a parent links a chat. -/
structure LinkCode where
  id : Int
  code : String
  parentId : Int
  expiresAt : Instant
  usedAt : Option Instant
  createdAt : Instant
deriving DecidableEq

/-- A chat that gets the notices of a parent. -/
structure ChatLink where
  parentId : Int
  chatId : Int
deriving DecidableEq

/-- A registration as its family sees it listed. -/
structure ListedRegistration where
  registrationId : Int
  code : String
  status : Status
  childName : String
  className : String
  classDate : Instant
deriving DecidableEq

/-- A registration of a child, with the date of its class. -/
structure Booking where
  registrationId : Int
  classId : Int
  classDate : Instant
  status : Status
deriving DecidableEq

/-- Where the notice of a promotion goes, and what it names. -/
structure Recipient where
  chatId : Int
  childName : String
  className : String
  classDate : Instant
deriving DecidableEq

/-- How the seats of a class are taken. -/
structure Occupancy where
  classId : Int
  className : String
  capacity : Int
  /-- Confirmed and not checked in. -/
  confirmed : Int
  waitlisted : Int
  checkedIn : Int
deriving DecidableEq

namespace Class

/-- Whether families may register at `now`. -/
def isSignupOpen (c : Class) (now : Instant) : Bool :=
  match c.signupOpensAt with
  | none => true
  | some opensAt => opensAt ≤ now

/-- The number of seats; a negative capacity is none. -/
def seats (c : Class) : Nat :=
  c.capacity.toNat

end Class

namespace Registration

/-- Checked in: the child keeps the seat whatever happens. -/
def isAnchored (r : Registration) : Bool :=
  r.checkInAt.isSome

/-- Confirmed or waitlisted. -/
def isActive (r : Registration) : Bool :=
  r.status.isActive

/-- Whether `a` stands in line no later than `b`: by time of coming, then by number. -/
def inLine (a b : Registration) : Bool :=
  a.createdAt < b.createdAt || (a.createdAt = b.createdAt && a.id ≤ b.id)

end Registration

namespace LinkCode

/-- Neither used nor expired at `now`. -/
def isRedeemable (c : LinkCode) (now : Instant) : Bool :=
  c.usedAt.isNone && now < c.expiresAt

end LinkCode

namespace Occupancy

/-- Seats still free; none if more are taken than there are. -/
def available (o : Occupancy) : Int :=
  max (o.capacity - o.confirmed - o.checkedIn) 0

/-- Seats taken in percent of the capacity, toward zero; zero for a class without seats. -/
def fillPercent (o : Occupancy) : Int :=
  if o.capacity ≤ 0 then 0 else ((o.confirmed + o.checkedIn) * 100).tdiv o.capacity

/-- No seat is free. -/
def isFull (o : Occupancy) : Bool :=
  o.available = 0

end Occupancy

end EnrollmentDesk
