import EnrollmentDesk.Enrollment.Conflict
import EnrollmentDesk.Enrollment.Rebalance
import EnrollmentDesk.Settings.Basic

/-!
# Operations

What families and admins do with registrations. Each operation is one session, and its `Verdict`
says whether what it wrote is kept. An operation that changes a class locks it before it relies on
any row of it, rebalances it after the change, and names those who got a seat, to be told once the
changes are kept. A session that fails is never kept.
-/

namespace EnrollmentDesk

/-- How a session that did not fail ends. -/
inductive Verdict (α : Type) where
  /-- What was written is kept, and then the families of those promoted are told. -/
  | keep (answer : α) (promoted : List Registration)
  /-- What was written, if anything, is dropped. -/
  | drop (answer : α)

/-- A registration with its place on the waitlist. -/
structure Placement where
  registration : Registration
  /-- Counted from one; absent unless the registration waits. -/
  position : Option Nat
deriving DecidableEq

/-- What became of a cancellation. -/
structure Cancellation where
  /-- The registration as it is stored now. -/
  registration : Registration
  /-- It was canceled before, and nothing was written. -/
  already : Bool
  promoted : List Registration
deriving DecidableEq

/-- The place of a registration among the waitlisted ones of its class. -/
def Store.position? (s : Store) (r : Registration) : Option Nat :=
  if r.status = .waitlisted then
    (((s.activeOf r.classId).filter fun x => x.status = .waitlisted).findIdx? fun x =>
      x.id == r.id).map (· + 1)
  else none

namespace Enrollment

open Tx

/-- A registration code that is not taken, if one is among so many draws. -/
def freeCode? (codeWord : String) : Nat → Tx (Option String)
  | 0 => return none
  | n + 1 => do
    let code := RegistrationCode.make codeWord (← draw)
    if ← codeExists code then freeCode? codeWord n else return some code

/-- A registration code that is not taken. -/
def freeCode (s : EnrollmentSettings) : Tx String := do
  match ← freeCode? s.codeWord s.attempts with
  | some code => return code
  | none => throw (.codesExhausted s.attempts)

/-- Fails if families may not register for the class yet. -/
def requireOpen (c : Class) : Tx Unit := do
  match c.signupOpensAt with
  | some opensAt => if !c.isSignupOpen (← now) then throw (.signupNotOpen c.id opensAt)
  | none => pure ()

/-- A child that has to be there. -/
def child (childId : Int) : Tx Child := do
  match ← ask fun s => s.children.get? childId with
  | some c => return c
  | none => throw (.childNotFound childId)

/-- Registers a child for a class. The registration holds a seat if one is free and waits if not. -/
def create (s : EnrollmentSettings) (childId classId : Int) : Tx (Verdict Placement) := do
  let c ← lockClass classId
  let child ← child childId
  requireOpen c
  checkConflicts childId classId (← s.zone)
  let taken ← ask fun st => st.confirmedCount classId
  let status : Status := if (taken : Int) < c.capacity then .confirmed else .waitlisted
  let code ← freeCode s
  let created ← insert ⟨child.parentId, childId, classId, status, code⟩
  let promoted ← Tx.rebalance classId
  let r ← registration created.id
  let position ← ask fun st => st.position? r
  return .keep ⟨r, position⟩ promoted

/-- Cancels a registration that was found before its class was locked. -/
def cancelFound (found : Registration) : Tx (Verdict Cancellation) := do
  if found.status = .canceled then return .drop ⟨found, true, []⟩
  discard <| lockClass found.classId
  let current ← registration found.id
  if current.status = .canceled then return .drop ⟨current, true, []⟩
  cancel current.id
  let promoted ← Tx.rebalance current.classId
  let r ← registration current.id
  return .keep ⟨r, false, promoted⟩ promoted

/-- Cancels the registration with a code and hands its seat on. -/
def cancelByCode (code : String) : Tx (Verdict Cancellation) := do
  cancelFound (← registrationByCode (Text.trim code))

/-- Cancels a registration and hands its seat on. -/
def cancelById (id : Int) : Tx (Verdict Cancellation) := do
  cancelFound (← registration id)

/-- A capacity that can be set. -/
def checkCapacity (capacity : Int) : Except Error Unit :=
  if capacity < 0 then
    .error (.badInput ("Capacity must not be negative, got " ++ Numeral.ofInt capacity))
  else .ok ()

/-- Gives a class a capacity. -/
def setCapacity (classId capacity : Int) : Tx (Verdict (List Registration)) := do
  discard <| lockClass classId
  Tx.setCapacity classId capacity
  let promoted ← Tx.rebalance classId
  return .keep promoted promoted

/-- Records that a child with a seat has come. -/
def checkIn (code : String) : Tx (Verdict Registration) := do
  let found ← registrationByCode (Text.trim code)
  discard <| lockClass found.classId
  let current ← registration found.id
  if current.status ≠ .confirmed then throw (.badTransition current.status "checked_in")
  if current.isAnchored then throw (.alreadyCheckedIn current.code)
  let time ← now
  setCheckIn current.id time
  return .keep { current with checkInAt := some time, updatedAt := time } []

/-- Removes a registration and hands its seat on. -/
def delete (id : Int) : Tx (Verdict (List Registration)) := do
  let found ← registration id
  discard <| lockClass found.classId
  Tx.delete id
  let promoted ← Tx.rebalance found.classId
  return .keep promoted promoted

/-- Gives everyone in a class the status that is due. -/
def rebalance (classId : Int) : Tx (Verdict (List Registration)) := do
  let promoted ← Tx.rebalance classId
  return .keep promoted promoted

/-- How the seats of a class are taken. -/
def occupancy (classId : Int) : Tx (Verdict Occupancy) := do
  match ← occupancy? classId with
  | some o => return .drop o
  | none => throw (.classNotFound classId)

/-- A registration with its place on the waitlist. -/
def status (code : String) : Tx (Verdict Placement) := do
  let r ← registrationByCode (Text.trim code)
  let position ← ask fun st => st.position? r
  return .drop ⟨r, position⟩

/-- Fails if the child cannot be registered for the class. -/
def conflicts (s : EnrollmentSettings) (childId classId : Int) : Tx (Verdict Unit) := do
  checkConflicts childId classId (← s.zone)
  return .drop ()

end Enrollment

end EnrollmentDesk
