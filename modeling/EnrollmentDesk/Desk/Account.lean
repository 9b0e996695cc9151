import EnrollmentDesk.Desk.Basic

/-!
# Accounts

An admin issues a link code for a parent, and the parent types it into the chat that shall get the
notices. From then on the chat can list the registrations of the parent. None of this takes a
session.
-/

namespace EnrollmentDesk.Service

/-- What a family is told that typed no link code. -/
def linkUsage : String :=
  "Use: /link 123456 with the code from the class organizer."

/-- How long a class that has begun is still listed, in seconds. -/
def listedSeconds : Int := 7200

/-- Stores a link code of a parent. The answer is `none` if the code is taken. -/
def createLinkCode (parentId : Int) (code : String) (expiresAt : Instant) :
    Service (Option LinkCode) := do
  match (← get).clashes with
  | n + 1 =>
    modify fun d => { d with clashes := n }
    return none
  | 0 =>
    connect
    match (← get).store.createLinkCode parentId code expiresAt (← now) with
    | .error fault => throw (.storage fault)
    | .ok (created, store) =>
      modify fun d => { d with store }
      return created

/-- Uses a link code and links the chat to its parent. -/
def redeem (code : String) (chatId : Int) (time : Instant) : Service (Option Parent) := do
  connect
  let (parent, store) := (← get).store.redeem code chatId time
  modify fun d => { d with store }
  return parent

/-- A link code that is stored with the first draw that is not taken, if one is among so many. -/
def issueFree? (parentId : Int) (expiresAt : Instant) : Nat → Service (Option LinkCode)
  | 0 => return none
  | n + 1 => do
    let code := (← draw).digits
    match ← createLinkCode parentId code expiresAt with
    | some created => return some created
    | none => issueFree? parentId expiresAt n

/-- Issues a link code for a parent. -/
def issueLinkCode (office : Office) (parentId : Int) : Service LinkCode := do
  let rules := office.settings.enrollment
  if !(← ask fun s => s.parents.contains parentId) then throw (.parentNotFound parentId)
  match (← now).afterMinutes? rules.linkCodeMinutes with
  | none => throw .outOfRange
  | some expiresAt =>
    match ← issueFree? parentId expiresAt rules.attempts with
    | some created => return created
    | none => throw (.codesExhausted rules.attempts)

/-- Links the chat to the parent whose link code was typed. -/
def linkChat (typed : String) (chatId : Int) : Service Parent := do
  match LinkCode.normalize typed with
  | none => throw (.badInput linkUsage)
  | some code =>
    match ← redeem code chatId (← now) with
    | some parent => return parent
    | none => throw .linkCodeInvalid

/-- The registrations of the parent that the chat is linked to. -/
def listOwn (chatId : Int) : Service (List ListedRegistration) := do
  match ← ask fun s => s.linkedParent chatId with
  | none => throw (.chatNotLinked chatId)
  | some parentId =>
    let since := (← now).plusSeconds (-listedSeconds)
    ask fun s => s.listedOf parentId since

end EnrollmentDesk.Service
