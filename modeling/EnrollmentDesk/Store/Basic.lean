import EnrollmentDesk.Registration.Record
import EnrollmentDesk.Error
import EnrollmentDesk.Sorting
import EnrollmentDesk.Store.Table

/-!
# The store

The store holds a table for each kind of record, the links between chats and parents (oldest first),
and the last numbers given out, which are never given out again. It counts the transactions
committed to it, and it may be given a budget of registration writes, after which further ones fail.

Where records are kept their numbers are signed 64-bit integers; here they are counted on without a
bound. A store that has given out the greatest of these is outside what is described: there is no
next number then, but `Store.createLinkCode` and `Tx.insert` would go on with one.

Here are its questions, which read, and the changes that need no transaction: records put in from
outside, and chat links.
-/

namespace EnrollmentDesk

/-- All that is kept. -/
structure Store where
  classes : Table Class Class.id := .empty
  children : Table Child Child.id := .empty
  parents : Table Parent Parent.id := .empty
  registrations : Table Registration Registration.id := .empty
  linkCodes : Table LinkCode LinkCode.id := .empty
  /-- Oldest first. -/
  links : List ChatLink := []
  /-- Counted on without a bound. -/
  lastRegistrationId : Int := 0
  /-- Counted on without a bound. -/
  lastLinkCodeId : Int := 0
  /-- How many registration writes are left; absent if there is no limit. -/
  writeBudget : Option Nat := none
  commits : Nat := 0
deriving DecidableEq

namespace Store

/-! ### Questions -/

/-- The first registration with the code. -/
def registrationByCode (s : Store) (code : String) : Option Registration :=
  s.registrations.rows.find? fun r => r.code == code

/-- Whether a registration has the code. -/
def codeExists (s : Store) (code : String) : Bool :=
  s.registrations.rows.any fun r => r.code == code

/-- All registrations of a class, by number. -/
def registrationsOf (s : Store) (classId : Int) : List Registration :=
  s.registrations.rows.filter fun r => r.classId == classId

/-- The active registrations of a class, in line. -/
def activeOf (s : Store) (classId : Int) : List Registration :=
  sortBy Registration.inLine
    (s.registrations.rows.filter fun r => r.classId == classId && r.isActive)

/-- Whether the child has an active registration for the class. -/
def hasActive (s : Store) (childId classId : Int) : Bool :=
  s.registrations.rows.any fun r => r.childId == childId && r.classId == classId && r.isActive

/-- How many registrations of a class are confirmed. -/
def confirmedCount (s : Store) (classId : Int) : Nat :=
  s.registrations.rows.countP fun r => r.classId == classId && r.status == .confirmed

/-- A registration with the date of its class, if the class is stored. -/
def booking? (s : Store) (r : Registration) : Option Booking :=
  (s.classes.get? r.classId).map fun c => ⟨r.id, r.classId, c.date, r.status⟩

/-- Whether `a` is listed no later than `b`: by date of the class, then by number. -/
def Booking.before (a b : Booking) : Bool :=
  a.classDate < b.classDate || (a.classDate = b.classDate && a.registrationId ≤ b.registrationId)

/-- The active registrations of a child for stored classes, by date. -/
def bookingsOf (s : Store) (childId : Int) : List Booking :=
  sortBy Booking.before
    ((s.registrations.rows.filter fun r => r.childId == childId && r.isActive).filterMap s.booking?)

/-- The active registrations of a child for classes from `start` up to, not at, `stop`, by date. -/
def bookingsBetween (s : Store) (childId : Int) (start stop : Instant) : List Booking :=
  sortBy Booking.before
    (((s.registrations.rows.filter fun r => r.childId == childId && r.isActive).filterMap
      s.booking?).filter fun b => start ≤ b.classDate && b.classDate < stop)

/-- How the seats of a class are taken. -/
def occupancy? (s : Store) (classId : Int) : Option Occupancy :=
  (s.classes.get? classId).map fun c =>
    let rows := s.registrationsOf classId
    { classId := classId
      className := c.name
      capacity := c.capacity
      confirmed := rows.countP fun r => r.status == .confirmed && !r.isAnchored
      waitlisted := rows.countP fun r => r.status == .waitlisted
      checkedIn := rows.countP fun r => r.status == .confirmed && r.isAnchored }

/-- The first link code with the digits. -/
def linkCode? (s : Store) (code : String) : Option LinkCode :=
  s.linkCodes.rows.find? fun c => c.code == code

/-- The parent a chat is linked to. -/
def linkedParent (s : Store) (chatId : Int) : Option Int :=
  (s.links.reverse.find? fun l => l.chatId == chatId).map ChatLink.parentId

/-- The chat a parent linked last. -/
def chatOf (s : Store) (parentId : Int) : Option Int :=
  (s.links.reverse.find? fun l => l.parentId == parentId).map ChatLink.chatId

/-- The name of a child; empty if the child is not stored. -/
def childName (s : Store) (childId : Int) : String :=
  match s.children.get? childId with
  | some c => c.name
  | none => ""

/-- Where the notice about a registration goes: nowhere unless its parent has a chat and its class
is stored. -/
def recipient? (s : Store) (registrationId : Int) : Option Recipient := do
  let r ← s.registrations.get? registrationId
  let chatId ← s.chatOf r.parentId
  let c ← s.classes.get? r.classId
  return ⟨chatId, s.childName r.childId, c.name, c.date⟩

/-- Whether one registration with its class is listed no later than another: by date of the class,
then in line. -/
def listedBefore (a b : Registration × Class) : Bool :=
  a.2.date < b.2.date || (a.2.date = b.2.date && a.1.inLine b.1)

/-- The active registrations of a parent for stored classes at `since` or later, by date. -/
def listedOf (s : Store) (parentId : Int) (since : Instant) : List ListedRegistration :=
  let rows := s.registrations.rows.filter fun r => r.parentId == parentId && r.isActive
  let joined := rows.filterMap fun r =>
    ((s.classes.get? r.classId).filter fun c => since ≤ c.date).map fun c => (r, c)
  (sortBy listedBefore joined).map fun (r, c) =>
    ⟨r.id, r.code, r.status, s.childName r.childId, c.name, c.date⟩

/-! ### Changes -/

/-- Puts a class in. -/
def addClass (s : Store) (c : Class) : Store :=
  { s with classes := s.classes.put c }

/-- Puts a child in. -/
def addChild (s : Store) (c : Child) : Store :=
  { s with children := s.children.put c }

/-- Puts a parent in. -/
def addParent (s : Store) (p : Parent) : Store :=
  { s with parents := s.parents.put p }

/-- Puts a registration in as it is; numbers given out later are larger than its own. -/
def addRegistration (s : Store) (r : Registration) : Store :=
  { s with
    registrations := s.registrations.put r
    lastRegistrationId := max s.lastRegistrationId r.id }

/-- Puts a link code in as it is; numbers given out later are larger than its own. -/
def addLinkCode (s : Store) (c : LinkCode) : Store :=
  { s with
    linkCodes := s.linkCodes.put c
    lastLinkCodeId := max s.lastLinkCodeId c.id }

/-- Links a chat to a parent. A chat has one parent, so its older link goes. -/
def link (s : Store) (parentId chatId : Int) : Store :=
  { s with links := s.links.filter (fun l => l.chatId != chatId) ++ [⟨parentId, chatId⟩] }

/-- Stores a new link code of a stored parent, under the next number, which is not bounded. The
answer is `none` if the digits are those of another code, used or not. -/
def createLinkCode (s : Store) (parentId : Int) (code : String) (expiresAt now : Instant) :
    Except StorageFault (Option LinkCode × Store) :=
  if !s.parents.contains parentId then .error (.noParent parentId)
  else if s.linkCodes.rows.any fun c => c.code == code then .ok (none, s)
  else
    let created : LinkCode :=
      { id := s.lastLinkCodeId + 1, code, parentId, expiresAt, usedAt := none, createdAt := now }
    .ok (some created,
      { s with linkCodes := s.linkCodes.put created, lastLinkCodeId := s.lastLinkCodeId + 1 })

/-- Uses the first code with the digits that can be redeemed, and links the chat to its parent. The
answer is the parent, if stored. -/
def redeem (s : Store) (code : String) (chatId : Int) (now : Instant) : Option Parent × Store :=
  match s.linkCodes.rows.find? fun c => c.code == code && c.isRedeemable now with
  | none => (none, s)
  | some c =>
    (s.parents.get? c.parentId,
      { s with linkCodes := s.linkCodes.put { c with usedAt := some now } }.link c.parentId chatId)

end Store

end EnrollmentDesk
