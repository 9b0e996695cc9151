import EnrollmentDesk.Registration.Code
import EnrollmentDesk.Store.Basic

/-!
# Sessions

Registrations change only within a session, which works on a copy of the store: whoever opened it
decides at its end whether the copy is kept. A step that fails leaves the copy as it is at that
point, with the write it was charged for.

A session may have a *rival*, another writer who gets at the rows just before the session locks its
class, so nothing read before the lock can be relied on after it.
-/

namespace EnrollmentDesk

/-- The random numbers of the desk. -/
structure Draws where
  value : Nat → Draw
  /-- How many have been drawn. -/
  used : Nat := 0

namespace Draws

/-- The next number, and the numbers after it. -/
def next (d : Draws) : Draw × Draws :=
  (d.value d.used, { d with used := d.used + 1 })

end Draws

/-- What a session works with. -/
structure Session where
  /-- The copy of the store. -/
  store : Store
  now : Instant
  draws : Draws
  /-- How often the question whether a code is taken is still answered with yes, whatever the store
  holds. -/
  clashes : Nat := 0
  /-- What another writer does before the first lock. -/
  rival : Option (Store → Store) := none

/-- A step of a session: it answers or fails. -/
abbrev Tx (α : Type) := ExceptT Error (StateM Session) α

namespace Tx

/-- A question to the store. -/
def ask {α : Type} (q : Store → α) : Tx α := do
  return q (← get).store

/-- A change of the copy. -/
def update (f : Store → Store) : Tx Unit :=
  modify fun s => { s with store := f s.store }

/-- The time. -/
def now : Tx Instant := do
  return (← get).now

/-- A random number. -/
def draw : Tx Draw := do
  let (d, draws) := (← get).draws.next
  modify fun s => { s with draws := draws }
  return d

/-- The rival writes, if one is waiting. -/
def admitRival : Tx Unit :=
  modify fun s =>
    match s.rival with
    | none => s
    | some write => { s with store := write s.store, rival := none }

/-- Locks a class for the rest of the session. -/
def lockClass? (classId : Int) : Tx (Option Class) := do
  admitRival
  ask fun s => s.classes.get? classId

/-- Locks a class that has to be there. -/
def lockClass (classId : Int) : Tx Class := do
  match ← lockClass? classId with
  | some c => return c
  | none => throw (.classNotFound classId)

/-- A registration that has to be there. -/
def registration (id : Int) : Tx Registration := do
  match ← ask fun s => s.registrations.get? id with
  | some r => return r
  | none => throw (.registrationNotFound id)

/-- The registration with a code, which has to be there. -/
def registrationByCode (code : String) : Tx Registration := do
  match ← ask fun s => s.registrationByCode code with
  | some r => return r
  | none => throw (.codeNotFound code)

/-- Whether a registration code is taken. -/
def codeExists (code : String) : Tx Bool := do
  match (← get).clashes with
  | 0 => ask fun s => s.codeExists code
  | n + 1 =>
    modify fun s => { s with clashes := n }
    return true

/-- Takes one write from the budget. -/
def charge : Tx Unit := do
  match ← ask Store.writeBudget with
  | none => pure ()
  | some 0 => throw (.storage .budgetExhausted)
  | some (n + 1) => update fun s => { s with writeBudget := some n }

/-- Stores a new registration under the next number, which is not bounded. Its class has to be there,
and its code has to be free. -/
def insert (new : NewRegistration) : Tx Registration := do
  charge
  if !(← ask fun s => s.classes.contains new.classId) then
    throw (.storage (.noClass new.classId))
  if ← ask fun s => s.codeExists new.code then
    throw (.storage (.codeTaken new.code))
  let time ← now
  let id := (← ask Store.lastRegistrationId) + 1
  let created : Registration :=
    { id
      parentId := new.parentId
      childId := new.childId
      classId := new.classId
      status := new.status
      code := new.code
      checkInAt := none
      createdAt := time
      updatedAt := time }
  update fun s => { s with registrations := s.registrations.put created, lastRegistrationId := id }
  return created

/-- Changes a registration that has to be there. -/
def changeRegistration (id : Int) (f : Registration → Registration) : Tx Unit := do
  charge
  let r ← registration id
  update fun s => { s with registrations := s.registrations.put (f r) }

/-- Gives a registration a status. -/
def setStatus (id : Int) (status : Status) : Tx Unit := do
  let time ← now
  changeRegistration id fun r => { r with status, updatedAt := time }

/-- Cancels a registration, which is then no longer checked in. -/
def cancel (id : Int) : Tx Unit := do
  let time ← now
  changeRegistration id fun r =>
    { r with status := .canceled, checkInAt := none, updatedAt := time }

/-- Records when a child came. -/
def setCheckIn (id : Int) (time : Instant) : Tx Unit :=
  changeRegistration id fun r => { r with checkInAt := some time, updatedAt := time }

/-- Removes a registration, if it is there. -/
def delete (id : Int) : Tx Unit := do
  charge
  update fun s => { s with registrations := s.registrations.erase id }

/-- Gives a class a capacity. This is no registration write, so nothing is charged. -/
def setCapacity (classId capacity : Int) : Tx Unit := do
  match ← ask fun s => s.classes.get? classId with
  | none => throw (.classNotFound classId)
  | some c =>
    let time ← now
    update fun s => { s with classes := s.classes.put { c with capacity, updatedAt := time } }

/-- How the seats of a class are taken. -/
def occupancy? (classId : Int) : Tx (Option Occupancy) :=
  ask fun s => s.occupancy? classId

end Tx

end EnrollmentDesk
