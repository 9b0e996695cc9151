import EnrollmentDesk.Json.Field
import EnrollmentDesk.Registration.Record

/-!
# Records as data

How each record is written as JSON and read from it. Every field is written, an absent one as
`null`, and what is written can be read again.
-/

namespace EnrollmentDesk

open Json

/-- A request for a seat. -/
structure RegistrationRequest where
  childId : Int
  classId : Int
deriving DecidableEq

namespace Class

/-- The names of the fields, in order. -/
def fieldNames : List String :=
  ["id", "name", "class_date", "capacity", "signup_opens_at", "created_at", "updated_at"]

/-- Reads a class. -/
def ofJson? (j : Json) : Option Class := do
  match ← j.fields? fieldNames false with
  | [id, name, date, capacity, signupOpensAt, createdAt, updatedAt] =>
    return {
      id := ← required (inRange? .signed64) id
      name := ← required asString? name
      date := ← required instant? date
      capacity := ← required (inRange? .signed32) capacity
      signupOpensAt := ← optional instant? signupOpensAt
      createdAt := ← required instant? createdAt
      updatedAt := ← required instant? updatedAt }
  | _ => none

/-- A class as data. -/
def toJson (c : Class) : Json :=
  .obj <| fieldNames.zip [
    .int c.id,
    .str c.name,
    ofInstant c.date,
    .int c.capacity,
    ofOption ofInstant c.signupOpensAt,
    ofInstant c.createdAt,
    ofInstant c.updatedAt]

end Class

namespace Child

/-- The names of the fields, in order. -/
def fieldNames : List String :=
  ["id", "parent_id", "name", "created_at"]

/-- Reads a child. -/
def ofJson? (j : Json) : Option Child := do
  match ← j.fields? fieldNames false with
  | [id, parentId, name, createdAt] =>
    return {
      id := ← required (inRange? .signed64) id
      parentId := ← required (inRange? .signed64) parentId
      name := ← required asString? name
      createdAt := ← required instant? createdAt }
  | _ => none

/-- A child as data. -/
def toJson (c : Child) : Json :=
  .obj <| fieldNames.zip [
    .int c.id,
    .int c.parentId,
    .str c.name,
    ofInstant c.createdAt]

end Child

namespace Registration

/-- The names of the fields, in order. -/
def fieldNames : List String :=
  ["id", "parent_id", "child_id", "class_id", "status", "code", "check_in_at", "created_at",
   "updated_at"]

/-- Reads a registration. -/
def ofJson? (j : Json) : Option Registration := do
  match ← j.fields? fieldNames false with
  | [id, parentId, childId, classId, status, code, checkInAt, createdAt, updatedAt] =>
    return {
      id := ← required (inRange? .signed64) id
      parentId := ← required (inRange? .signed64) parentId
      childId := ← required (inRange? .signed64) childId
      classId := ← required (inRange? .signed64) classId
      status := ← required status? status
      code := ← required asString? code
      checkInAt := ← optional instant? checkInAt
      createdAt := ← required instant? createdAt
      updatedAt := ← required instant? updatedAt }
  | _ => none

/-- A registration as data. -/
def toJson (r : Registration) : Json :=
  .obj <| fieldNames.zip [
    .int r.id,
    .int r.parentId,
    .int r.childId,
    .int r.classId,
    ofStatus r.status,
    .str r.code,
    ofOption ofInstant r.checkInAt,
    ofInstant r.createdAt,
    ofInstant r.updatedAt]

end Registration

namespace NewRegistration

/-- The names of the fields, in order. -/
def fieldNames : List String :=
  ["parent_id", "child_id", "class_id", "status", "code"]

/-- Reads a registration still to be stored. -/
def ofJson? (j : Json) : Option NewRegistration := do
  match ← j.fields? fieldNames false with
  | [parentId, childId, classId, status, code] =>
    return {
      parentId := ← required (inRange? .signed64) parentId
      childId := ← required (inRange? .signed64) childId
      classId := ← required (inRange? .signed64) classId
      status := ← required status? status
      code := ← required asString? code }
  | _ => none

/-- A registration still to be stored as data. -/
def toJson (r : NewRegistration) : Json :=
  .obj <| fieldNames.zip [
    .int r.parentId,
    .int r.childId,
    .int r.classId,
    ofStatus r.status,
    .str r.code]

end NewRegistration

namespace Parent

/-- The names of the fields, in order. -/
def fieldNames : List String :=
  ["id", "name", "phone", "email", "created_at", "updated_at"]

/-- Reads a parent. -/
def ofJson? (j : Json) : Option Parent := do
  match ← j.fields? fieldNames false with
  | [id, name, phone, email, createdAt, updatedAt] =>
    return {
      id := ← required (inRange? .signed64) id
      name := ← required asString? name
      phone := ← required asString? phone
      email := ← optional asString? email
      createdAt := ← required instant? createdAt
      updatedAt := ← required instant? updatedAt }
  | _ => none

/-- A parent as data. -/
def toJson (p : Parent) : Json :=
  .obj <| fieldNames.zip [
    .int p.id,
    .str p.name,
    .str p.phone,
    ofOption .str p.email,
    ofInstant p.createdAt,
    ofInstant p.updatedAt]

end Parent

namespace LinkCode

/-- The names of the fields, in order. -/
def fieldNames : List String :=
  ["id", "code", "parent_id", "expires_at", "used_at", "created_at"]

/-- Reads a link code. -/
def ofJson? (j : Json) : Option LinkCode := do
  match ← j.fields? fieldNames false with
  | [id, code, parentId, expiresAt, usedAt, createdAt] =>
    return {
      id := ← required (inRange? .signed64) id
      code := ← required asString? code
      parentId := ← required (inRange? .signed64) parentId
      expiresAt := ← required instant? expiresAt
      usedAt := ← optional instant? usedAt
      createdAt := ← required instant? createdAt }
  | _ => none

/-- A link code as data. -/
def toJson (c : LinkCode) : Json :=
  .obj <| fieldNames.zip [
    .int c.id,
    .str c.code,
    .int c.parentId,
    ofInstant c.expiresAt,
    ofOption ofInstant c.usedAt,
    ofInstant c.createdAt]

end LinkCode

namespace ListedRegistration

/-- The names of the fields, in order. -/
def fieldNames : List String :=
  ["registration_id", "code", "status", "child_name", "class_name", "class_date"]

/-- Reads a listed registration. -/
def ofJson? (j : Json) : Option ListedRegistration := do
  match ← j.fields? fieldNames false with
  | [registrationId, code, status, childName, className, classDate] =>
    return {
      registrationId := ← required (inRange? .signed64) registrationId
      code := ← required asString? code
      status := ← required status? status
      childName := ← required asString? childName
      className := ← required asString? className
      classDate := ← required instant? classDate }
  | _ => none

/-- A listed registration as data. -/
def toJson (r : ListedRegistration) : Json :=
  .obj <| fieldNames.zip [
    .int r.registrationId,
    .str r.code,
    ofStatus r.status,
    .str r.childName,
    .str r.className,
    ofInstant r.classDate]

end ListedRegistration

namespace Occupancy

/-- The names of the fields, in order. -/
def fieldNames : List String :=
  ["class_id", "class_name", "capacity", "confirmed", "waitlisted", "checked_in"]

/-- Reads an occupancy. -/
def ofJson? (j : Json) : Option Occupancy := do
  match ← j.fields? fieldNames false with
  | [classId, className, capacity, confirmed, waitlisted, checkedIn] =>
    return {
      classId := ← required (inRange? .signed64) classId
      className := ← required asString? className
      capacity := ← required (inRange? .signed32) capacity
      confirmed := ← required (inRange? .signed64) confirmed
      waitlisted := ← required (inRange? .signed64) waitlisted
      checkedIn := ← required (inRange? .signed64) checkedIn }
  | _ => none

/-- An occupancy as data. -/
def toJson (o : Occupancy) : Json :=
  .obj <| fieldNames.zip [
    .int o.classId,
    .str o.className,
    .int o.capacity,
    .int o.confirmed,
    .int o.waitlisted,
    .int o.checkedIn]

end Occupancy

namespace RegistrationRequest

/-- The names of the fields, in order. -/
def fieldNames : List String :=
  ["child_id", "class_id"]

/-- Reads a request for a seat. -/
def ofJson? (j : Json) : Option RegistrationRequest := do
  match ← j.fields? fieldNames false with
  | [childId, classId] =>
    return {
      childId := ← required (inRange? .signed64) childId
      classId := ← required (inRange? .signed64) classId }
  | _ => none

/-- A request for a seat as data. -/
def toJson (r : RegistrationRequest) : Json :=
  .obj <| fieldNames.zip [
    .int r.childId,
    .int r.classId]

end RegistrationRequest

end EnrollmentDesk
