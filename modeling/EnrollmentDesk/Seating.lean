import EnrollmentDesk.Registration.Record
import EnrollmentDesk.Sorting

/-!
# Seating

Who of a class sits and who waits is a function of its active registrations and its capacity
(`Seating.plan`). Those who have been checked in are in the room and sit whatever the capacity; the
others follow in line, and sit as long as fewer than the capacity do. The plan lists everyone with
the status they ought to have, and the changes that lead there from the status they have.
-/

namespace EnrollmentDesk

/-- A change of status that a plan asks for. -/
structure Change where
  registrationId : Int
  old : Status
  new : Status
deriving DecidableEq

namespace Change

/-- From the waitlist to a seat. -/
def isPromotion (c : Change) : Bool :=
  c.old = .waitlisted && c.new = .confirmed

/-- From a seat to the waitlist. -/
def isDemotion (c : Change) : Bool :=
  c.old = .confirmed && c.new = .waitlisted

end Change

/-- The seating of a class. -/
structure Plan where
  /-- Every active registration with its status, the anchored ones first, each group in line. -/
  assignments : List (Int × Status)
  /-- The assignments that differ from the status held, in the same order. -/
  changes : List Change
  /-- How many are anchored. -/
  anchored : Nat
deriving DecidableEq

namespace Plan

/-- How many sit. -/
def confirmedCount (p : Plan) : Nat :=
  p.assignments.countP fun a => a.2 = .confirmed

/-- Who waits, in line. -/
def waitlistedIds (p : Plan) : List Int :=
  (p.assignments.filter fun a => a.2 = .waitlisted).map Prod.fst

/-- The changes that give someone a seat. -/
def promotions (p : Plan) : List Change :=
  p.changes.filter Change.isPromotion

/-- Everyone has the status the plan asks for. -/
def isNoop (p : Plan) : Bool :=
  p.changes.isEmpty

end Plan

namespace Seating

/-- Whether `a` is seated no later than `b`: anchored registrations first, then in line. -/
def before (a b : Registration) : Bool :=
  if a.isAnchored = b.isAnchored then a.inLine b else a.isAnchored

/-- The active registrations in the order in which they are seated. -/
def order (rs : List Registration) : List Registration :=
  sortBy before (rs.filter Registration.isActive)

/-- The status of the next registration when `taken` seats are taken. -/
def target (seats taken : Nat) (r : Registration) : Status :=
  if r.isAnchored || taken < seats then .confirmed else .waitlisted

/-- Everyone with their status, one after the other, when `taken` seats are taken before. -/
def assign (seats : Nat) : Nat → List Registration → List (Registration × Status)
  | _, [] => []
  | taken, r :: rs =>
    let status := target seats taken r
    (r, status) :: assign seats (if status = .confirmed then taken + 1 else taken) rs

/-- The change that gives a registration its status, if it has another. -/
def change? (r : Registration) (status : Status) : Option Change :=
  if r.status = status then none else some ⟨r.id, r.status, status⟩

/-- The seating of a class with the given capacity and registrations, in any order; canceled ones
are left out. -/
def plan (capacity : Int) (rs : List Registration) : Plan :=
  let seated := assign capacity.toNat 0 (order rs)
  { assignments := seated.map fun (r, status) => (r.id, status)
    changes := seated.filterMap fun (r, status) => change? r status
    anchored := (order rs).countP Registration.isAnchored }

end Seating

end EnrollmentDesk
