import EnrollmentDesk.Desk.Notice

/-!
# Registering at the desk

Each operation runs as one session (`Service.perform`). If it is kept, its store replaces the store
of the desk as a whole, and only then are promotions announced; if it is not, the desk keeps the
store it had.
-/

namespace EnrollmentDesk.Service

/-- Runs an operation as one session. -/
def perform {α : Type} (office : Office) (work : Tx (Verdict α)) : Service α := do
  connect
  let d ← get
  let (result, s) := (ExceptT.run work).run d.session
  set (d.afterSession s)
  match result with
  | .error e => throw e
  | .ok (.drop answer) => return answer
  | .ok (.keep answer promoted) =>
    if d.commitFails then throw (.storage .commitFailed)
    modify fun d => d.keep s
    discard <| announce office promoted
    return answer

variable (office : Office)

/-- Registers a child for a class. -/
def create (childId classId : Int) : Service Placement :=
  perform office (Enrollment.create office.settings.enrollment childId classId)

/-- Cancels the registration with a code. -/
def cancelByCode (code : String) : Service Cancellation :=
  perform office (Enrollment.cancelByCode code)

/-- Cancels a registration. -/
def cancelById (id : Int) : Service Cancellation :=
  perform office (Enrollment.cancelById id)

/-- Gives a class a capacity. -/
def setCapacity (classId capacity : Int) : Service (List Registration) := do
  Enrollment.checkCapacity capacity
  perform office (Enrollment.setCapacity classId capacity)

/-- Records that a child with a seat has come. -/
def checkIn (code : String) : Service Registration :=
  perform office (Enrollment.checkIn code)

/-- Removes a registration. -/
def delete (id : Int) : Service (List Registration) :=
  perform office (Enrollment.delete id)

/-- Gives everyone in a class the status that is due. -/
def rebalance (classId : Int) : Service (List Registration) :=
  perform office (Enrollment.rebalance classId)

/-- How the seats of a class are taken. -/
def occupancy (classId : Int) : Service Occupancy :=
  perform office (Enrollment.occupancy classId)

/-- A registration with its place on the waitlist. -/
def status (code : String) : Service Placement :=
  perform office (Enrollment.status code)

/-- Fails if the child cannot be registered for the class. -/
def conflicts (childId classId : Int) : Service Unit :=
  perform office (Enrollment.conflicts office.settings.enrollment childId classId)

end EnrollmentDesk.Service
