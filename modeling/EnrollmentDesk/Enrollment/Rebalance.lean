import EnrollmentDesk.Seating
import EnrollmentDesk.Store.Session

/-!
# Rebalancing

Whatever changes who is in a class, or how many seats it has, is followed by a rebalance in the same
session: the seating of the class is planned anew and the changes of the plan are written, in its
order. The answer is who got a seat, as the registrations were before but for their status.
-/

namespace EnrollmentDesk.Tx

/-- The registration that a change gives a seat, out of those the plan was made from. -/
def promoted? (active : List Registration) (c : Change) : Option Registration :=
  if c.isPromotion then
    (active.find? fun r => r.id == c.registrationId).map fun r => { r with status := c.new }
  else none

/-- Writes changes, and answers who got a seat. -/
def applyChanges (active : List Registration) : List Change → Tx (List Registration)
  | [] => return []
  | c :: cs => do
    setStatus c.registrationId c.new
    let rest ← applyChanges active cs
    return (promoted? active c).toList ++ rest

/-- Gives everyone in a class the status that is due, and answers who got a seat. -/
def rebalance (classId : Int) : Tx (List Registration) := do
  let c ← lockClass classId
  let active ← ask fun s => s.activeOf classId
  applyChanges active (Seating.plan c.capacity active).changes

end EnrollmentDesk.Tx
