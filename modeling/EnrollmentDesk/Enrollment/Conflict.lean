import EnrollmentDesk.Store.Session

/-!
# Conflicts

A child has at most one active registration for a class, and at most one for a class on each
calendar day. `Conflict.find?` decides this from the bookings of the child; the first rule counts
before the second.

A session need not look at all bookings: one that clashes by its day lies between the bounds of the
day (`Tx.checkConflicts`).
-/

namespace EnrollmentDesk

/-- Why the child cannot be registered for the class `target`, given its bookings: of several on the
same day, the first is named. -/
def Conflict.find? (childId : Int) (target : Class) (bookings : List Booking) (zone : Offset) :
    Option Error :=
  let active := bookings.filter fun b => b.status.isActive
  if active.any fun b => b.classId == target.id then some (.duplicate childId target.id)
  else
    ((active.filter fun b => b.classId != target.id).find? fun b =>
      b.classDate.sameDay target.date zone).map fun b => .sameDay childId target.id b.classId

/-- Fails if the child cannot be registered for the class. -/
def Tx.checkConflicts (childId classId : Int) (zone : Offset) : Tx Unit := do
  match ← ask fun s => s.classes.get? classId with
  | none => throw (.classNotFound classId)
  | some target =>
    if ← ask fun s => s.hasActive childId classId then throw (.duplicate childId classId)
    if !target.date.hasDayBounds zone then throw .outOfRange
    let (start, stop) := target.date.dayBounds zone
    let bookings ← ask fun s => s.bookingsBetween childId start stop
    match Conflict.find? childId target bookings zone with
    | some conflict => throw conflict
    | none => pure ()

end EnrollmentDesk
