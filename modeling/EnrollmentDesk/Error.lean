import EnrollmentDesk.Calendar.Format
import EnrollmentDesk.Registration.Status
import EnrollmentDesk.Text.Quoted
import EnrollmentDesk.Text.Utf8
import EnrollmentDesk.Url.Error

/-!
# Errors

An error says why an operation was refused or failed. It has a wording for the log (`Error.message`)
and one for the chat (`Error.userMessage`): a refusal is explained to the family, a failure of the
machinery is not, so nothing of the inside reaches a chat. The severity decides whether the caller
hears of it at all.
-/

namespace EnrollmentDesk

/-- Why the socket of a server cannot be opened. -/
inductive SocketFault where
  | missing
  /-- The path leads through a file. -/
  | notDirectory
  | nulInPath
  | pathTooLong
deriving DecidableEq

/-- Why the database cannot be used. -/
inductive DatabaseFault where
  | badUrl (e : UrlError)
  /-- A part of the address is percent-encoded, but not from UTF-8. -/
  | badText (fault : Text.Utf8Fault)
  | badIpAddress
  | noNumber
  | badNumber
  | numberTooLarge
  | badSslMode (word : String)
  | socket (fault : SocketFault)
  | rowNotFound
  | poolTimedOut
  | poolClosed
  | workerCrashed
  | badData (detail : String)
deriving DecidableEq

/-- Why the tables cannot be brought up to date. -/
inductive MigrationFault where
  /-- A step was taken once that is no longer known. -/
  | unknownStep (version : Int)
  | database (fault : DatabaseFault)
deriving DecidableEq

/-- Why the store refuses a write. -/
inductive StorageFault where
  /-- The budget of writes is used up. -/
  | budgetExhausted
  | commitFailed
  | noClass (id : Int)
  | noParent (id : Int)
  | codeTaken (code : String)
  | other (text : String)
deriving DecidableEq

/-- Why a message was not delivered. -/
inductive ChatFault where
  | unreachable
  | chatNotFound
  | blocked
  | other (text : String)
deriving DecidableEq

/-- Why settings are refused. -/
inductive SettingsFault where
  | noToken
  | noAdmin
  | badQrBase (base : String) (e : UrlError)
  | noDatabaseUrl
  | noConnections
  | moreIdleThanOpen
  | offsetOutOfRange (minutes : Int)
  | badCodePrefix
  | noCodeAttempts
  | noLinkCodeLifetime
  | noLogLevel
  | badLogLevel (level : String)
  /-- The process writes a log already. -/
  | logInstalled
  | other (text : String)
deriving DecidableEq

/-- Why no settings could be read. -/
inductive SourceFault where
  | frozen
  | noProperty (name : String)
  | other (text : String)
deriving DecidableEq

/-- Why an operation was refused or failed. -/
inductive Error where
  | database (fault : DatabaseFault)
  | migration (fault : MigrationFault)
  | storage (fault : StorageFault)
  | chat (fault : ChatFault)
  | settings (fault : SettingsFault)
  | source (fault : SourceFault)
  | permissionDenied (text : String)
  | classNotFound (classId : Int)
  | childNotFound (childId : Int)
  | codeNotFound (code : String)
  | registrationNotFound (id : Int)
  | parentNotFound (parentId : Int)
  | linkCodeInvalid
  | chatNotLinked (chatId : Int)
  | duplicate (childId classId : Int)
  | sameDay (childId classId conflictingClassId : Int)
  | signupNotOpen (classId : Int) (opensAt : Instant)
  | badTransition (status : Status) (goal : String)
  | alreadyCheckedIn (code : String)
  | codesExhausted (attempts : Nat)
  | badUrl (e : UrlError)
  | badInput (text : String)
  /-- A time or a duration left the range that can be stored. The operation ends there, and nobody
  is told. -/
  | outOfRange
deriving DecidableEq

/-- How grave an error is. -/
inductive Severity where
  | info
  | warning
  | error
  | critical
deriving DecidableEq

/-- The word for a severity. -/
def Severity.name : Severity → String
  | info => "INFO"
  | warning => "WARN"
  | error => "ERROR"
  | critical => "CRITICAL"

/-- The wording of a fault. -/
def SocketFault.message : SocketFault → String
  | missing => "No such file or directory (os error 2)"
  | notDirectory => "Not a directory (os error 20)"
  | nulInPath => "paths must not contain interior null bytes"
  | pathTooLong => "path must be shorter than SUN_LEN"

namespace DatabaseFault

/-- The wordings of a fault in the address, and of its cause. -/
def configuration (text : String) : List String :=
  ["error with configuration: " ++ text, text]

/-- The wordings of a fault and of what caused it, from the outside in. -/
def causes : DatabaseFault → List String
  | badUrl e => configuration e.message
  | badText fault => configuration fault.message
  | badIpAddress => configuration "invalid IP address syntax"
  | noNumber => configuration "cannot parse integer from empty string"
  | badNumber => configuration "invalid digit found in string"
  | numberTooLarge => configuration "number too large to fit in target type"
  | badSslMode word =>
    let causes := configuration ("unknown value " ++ Text.quoted word ++ " for `ssl_mode`")
    ("error with configuration: " ++ causes.headD "") :: causes
  | socket fault => ["error communicating with database: " ++ fault.message, fault.message]
  | rowNotFound =>
    ["no rows returned by a query that expected to return at least one row"]
  | poolTimedOut => ["pool timed out while waiting for an open connection"]
  | poolClosed => ["attempted to acquire a connection on a closed pool"]
  | workerCrashed => ["attempted to communicate with a crashed background worker"]
  | badData detail => ["encountered unexpected or invalid data: " ++ detail]

/-- The wording of a fault. -/
def message (f : DatabaseFault) : String :=
  f.causes.headD ""

end DatabaseFault

/-- The wording of a fault. -/
def MigrationFault.message : MigrationFault → String
  | unknownStep version =>
    "migration " ++ Numeral.ofInt version ++
      " was previously applied but is missing in the resolved migrations"
  | database fault => "while executing migrations: " ++ fault.message

/-- The wording of a fault. -/
def StorageFault.message : StorageFault → String
  | budgetExhausted => "injected write failure"
  | commitFailed => "injected commit failure"
  | noClass id => "foreign key violation: class " ++ Numeral.ofInt id ++ " does not exist"
  | noParent id => "foreign key violation: parent " ++ Numeral.ofInt id ++ " does not exist"
  | codeTaken code => "unique violation: code " ++ code ++ " already exists"
  | other text => text

/-- The wording of a fault. -/
def ChatFault.message : ChatFault → String
  | unreachable => "A network error: error sending request"
  | chatNotFound => "A Telegram's error: Bad Request: chat not found"
  | blocked => "A Telegram's error: Forbidden: bot was blocked by the user"
  | other text => "A Telegram's error: Unknown error: " ++ Text.quoted text

/-- The wording of a fault. -/
def SettingsFault.message : SettingsFault → String
  | noToken => "Bot token is required"
  | noAdmin => "At least one admin ID must be configured"
  | badQrBase base e => "Invalid QR base URL " ++ base ++ ": " ++ e.message
  | noDatabaseUrl => "Database URL is required"
  | noConnections => "Max connections must be greater than 0"
  | moreIdleThanOpen => "Min connections cannot be greater than max connections"
  | offsetOutOfRange minutes => "UTC offset out of range: " ++ Numeral.ofInt minutes ++ " minutes"
  | badCodePrefix => "Code prefix must be non-empty and alphanumeric"
  | noCodeAttempts => "Code attempts must be greater than 0"
  | noLinkCodeLifetime => "Link code lifetime must be greater than 0"
  | noLogLevel => "Log level is required"
  | badLogLevel level =>
    "Invalid log level: " ++ level ++
      ". Valid levels: [\"trace\", \"debug\", \"info\", \"warn\", \"error\"]"
  | logInstalled =>
    "Failed to install logger: a global default trace dispatcher has already been set"
  | other text => text

/-- The wording of a fault. -/
def SourceFault.message : SourceFault → String
  | frozen => "configuration is frozen"
  | noProperty name => "configuration property " ++ Text.quoted name ++ " not found"
  | other text => text

namespace Error

open Numeral

/-- The wording of an error in the log. -/
def message : Error → String
  | database fault => "Database error: " ++ fault.message
  | migration fault => "Database migration error: " ++ fault.message
  | storage fault => "Storage error: " ++ fault.message
  | chat fault => "Telegram API error: " ++ fault.message
  | settings fault => "Configuration error: " ++ fault.message
  | source fault => "Configuration source error: " ++ fault.message
  | permissionDenied text => "Permission denied: " ++ text
  | classNotFound classId => "Class not found: " ++ ofInt classId
  | childNotFound childId => "Child not found: " ++ ofInt childId
  | codeNotFound code => "Registration not found: " ++ code
  | registrationNotFound id => "Registration not found: #" ++ ofInt id
  | parentNotFound parentId => "Parent not found: " ++ ofInt parentId
  | linkCodeInvalid => "Link code is invalid, expired or already used"
  | chatNotLinked chatId => "Chat " ++ ofInt chatId ++ " is not linked to a parent"
  | duplicate childId classId =>
    "Child " ++ ofInt childId ++ " is already registered for class " ++ ofInt classId
  | sameDay childId classId conflictingClassId =>
    "Child " ++ ofInt childId ++ " already has class " ++ ofInt conflictingClassId ++
      " on the same day as class " ++ ofInt classId
  | signupNotOpen classId opensAt =>
    "Signup for class " ++ ofInt classId ++ " opens at " ++ opensAt.spelledOut
  | badTransition status goal =>
    "Invalid state transition: " ++ status.name ++ " -> " ++ goal
  | alreadyCheckedIn code => "Registration " ++ code ++ " is already checked in"
  | codesExhausted attempts =>
    "Could not generate a unique code after " ++ ofNat attempts ++ " attempts"
  | badUrl e => "URL parsing error: " ++ e.message
  | badInput text => "Invalid input: " ++ text
  | outOfRange => "out of range"

/-- How grave an error is: refusals are expected, failures of the machinery are not. -/
def severity : Error → Severity
  | database _ | migration _ | storage _ | settings _ | source _ | outOfRange => .critical
  | chat _ | codesExhausted _ | badUrl _ => .error
  | permissionDenied _ => .warning
  | _ => .info

/-- An error that may not come again when the operation is repeated. -/
def isRecoverable : Error → Bool
  | database _ | storage _ | chat _ | codesExhausted _ => true
  | _ => false

/-- The operation names something that is not there. -/
def isNotFound : Error → Bool
  | classNotFound _ | childNotFound _ | codeNotFound _ | registrationNotFound _
  | parentNotFound _ => true
  | _ => false

/-- The child is booked already. -/
def isConflict : Error → Bool
  | duplicate _ _ | sameDay _ _ _ => true
  | _ => false

/-- The wording of an error in a chat. -/
def userMessage : Error → String
  | duplicate _ _ => "This child is already registered for this class."
  | sameDay _ _ _ => "This child already has a registration on that day."
  | signupNotOpen _ _ => "Registration for this class is not open yet."
  | codeNotFound _ | registrationNotFound _ => "Code not found."
  | classNotFound _ => "Class not found."
  | childNotFound _ => "Child not found."
  | parentNotFound _ => "Parent not found."
  | linkCodeInvalid => "Code invalid or expired."
  | chatNotLinked _ => "Not linked yet. Use /link CODE with the code from the class organizer."
  | badTransition _ _ => "Only CONFIRMED registrations can be checked in."
  | alreadyCheckedIn _ => "Already checked in."
  | permissionDenied _ => "You are not allowed to do that."
  | badInput text => text
  | _ => "Something went wrong, please try again later."

end Error

end EnrollmentDesk
