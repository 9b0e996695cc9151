import EnrollmentDesk.Enrollment.Operation

/-!
# The desk

The desk carries out operations on the store and reports to the chats of families and admins. Its
state is the store, the time, the random numbers, and what it has done so far: the messages it sent,
and the calls it made to those who want to hear of promotions.

How others answer is no part of the state: whether a message is delivered, and what a listener
replies, is for the `Office` around the desk to say.
-/

namespace EnrollmentDesk

/-- What the desk asks the chat service to deliver. -/
inductive Request where
  /-- A text, plain or marked up. -/
  | message (chatId : Int) (text : String) (markup : Bool)
  /-- A picture, by its address. -/
  | photo (chatId : Int) (url : String)
deriving DecidableEq

/-- Someone who wants to hear of promotions. -/
inductive Listener where
  /-- Tells the family in its chat, with local dates and, if there is an address for them, a picture
  of the code. -/
  | family (zone : Offset) (qrBase : Option String)
  /-- Anyone else: the answer to a registration, after so many calls in all. -/
  | watcher (answer : Nat → Registration → Option Error)

/-- A call to the listener at a position about a promoted registration. -/
structure Call where
  listener : Nat
  registration : Registration
deriving DecidableEq

/-- What the desk works for and with. -/
structure Office where
  settings : Settings
  listeners : List Listener
  /-- Why the chat service refuses a request after so many requests, if it does. -/
  refusal : Nat → Request → Option ChatFault

/-- The office with one listener, which tells the families. -/
def Office.ofSettings (settings : Settings) (refusal : Nat → Request → Option ChatFault) :
    Except Error Office := do
  let zone ← settings.enrollment.zone
  return { settings, listeners := [.family zone settings.bot.qrBase], refusal }

/-- The state of the desk. -/
structure Desk where
  store : Store
  now : Instant
  draws : Draws
  /-- The database of the store can be reached. -/
  online : Bool := true
  /-- How often the question whether a code is taken is still answered with yes. -/
  clashes : Nat := 0
  /-- What another writer does in the next session before its first lock. -/
  rival : Option (Store → Store) := none
  /-- What a session wrote cannot be kept. -/
  commitFails : Bool := false
  /-- Oldest first. -/
  sent : List Request := []
  /-- Oldest first. -/
  calls : List Call := []

/-- A step of the desk: it answers or fails. What it did before it failed stays done. -/
abbrev Service (α : Type) := ExceptT Error (StateM Desk) α

/-- How a batch of calls to listeners went. -/
structure Report where
  delivered : Nat := 0
  failed : Nat := 0
deriving DecidableEq

namespace Report

/-- How many calls were made. -/
def attempted (r : Report) : Nat :=
  r.delivered + r.failed

/-- One more call. -/
def add (r : Report) (delivered : Bool) : Report :=
  if delivered then { r with delivered := r.delivered + 1 } else { r with failed := r.failed + 1 }

end Report

namespace Service

/-- Fails if the database cannot be reached. -/
def connect : Service Unit := do
  if !(← get).online then throw (.database (.socket .missing))

/-- A question to the store. -/
def ask {α : Type} (q : Store → α) : Service α := do
  connect
  return q (← get).store

/-- The time. -/
def now : Service Instant := do
  return (← get).now

/-- A random number. -/
def draw : Service Draw := do
  let (d, draws) := (← get).draws.next
  modify fun s => { s with draws := draws }
  return d

/-- Asks the chat service for a delivery. -/
def send (office : Office) (r : Request) : Service Unit := do
  let sent := (← get).sent
  modify fun d => { d with sent := sent ++ [r] }
  match office.refusal sent.length r with
  | none => pure ()
  | some fault => throw (.chat fault)

end Service

namespace Desk

/-- A session on a copy of the store. -/
def session (d : Desk) : Session :=
  { store := d.store, now := d.now, draws := d.draws, clashes := d.clashes, rival := d.rival }

/-- The desk after a session whose writes are dropped: what was drawn is drawn all the same. -/
def afterSession (d : Desk) (s : Session) : Desk :=
  { d with draws := s.draws, clashes := s.clashes, rival := s.rival }

/-- The desk with the store of a session, which counts as a commit. -/
def keep (d : Desk) (s : Session) : Desk :=
  { d with store := { s.store with commits := s.store.commits + 1 } }

end Desk

end EnrollmentDesk
