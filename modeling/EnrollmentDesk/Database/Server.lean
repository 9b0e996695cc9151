import EnrollmentDesk.Settings.Basic
import EnrollmentDesk.Settings.DotEnv
import EnrollmentDesk.Url.Reader

/-!
# The database server

The address of the database names its server and, in the query, how to connect to it; variables of
the environment say what the address leaves open. Its parts are read in order: the host, the name of
the user, the password, the query; and the first that is wrong is the fault. A host that is a
directory stands for a socket in it.
-/

namespace EnrollmentDesk

/-- Where the server of a database is. -/
structure Server where
  /-- A name or a number, or a directory that has the socket. -/
  host : String
  /-- The directory that the address gives, which counts more than the host. -/
  directory : Option String := none
  port : Nat
deriving DecidableEq

namespace Server

open Text

/-- Reads a number up to `most`, digit by digit. -/
def readNumber (most : Nat) (s : List Char) : Except DatabaseFault Nat :=
  let digits :=
    match s with
    | ['+'] => s
    | '+' :: rest => rest
    | _ => s
  if s.isEmpty then .error .noNumber
  else
    digits.foldlM
      (fun n c =>
        if !c.isDigit then .error .badNumber
        else if most < 10 * n + (c.toNat - 0x30) then .error .numberTooLarge
        else .ok (10 * n + (c.toNat - 0x30)))
      0

/-- The words for how far a connection is encrypted. -/
def sslModes : List String :=
  ["disable", "allow", "prefer", "require", "verify-ca", "verify-full"]

/-- A part of a query, in which a plus sign stands for a space. -/
def decodePart (s : List Char) : String :=
  .ofList (percentDecode (s.map fun c => if c = '+' then ' ' else c))

/-- The names and values of a query. -/
def pairs (query : List Char) : List (String × String) :=
  ((parts (· = '&') query).filter fun p => !p.isEmpty).map fun p =>
    match cutAt (· = '=') p with
    | some (name, value) => (decodePart name, decodePart value)
    | none => (decodePart p, "")

/-- A number of four bytes, or of eight pieces. -/
def isIpAddress (s : List Char) : Bool :=
  (((parts (· = '.') s).mapM Ipv6.readByte).filter fun bytes => bytes.length = 4).isSome ||
    (Ipv6.read? s).isSome

/-- Takes a host or, if it begins with a slash, a directory. -/
def withHost (server : Server) (host : String) : Server :=
  if host.toList.head? = some '/' then { server with directory := some host }
  else { server with host }

/-- One name and value of the query; the server known so far. -/
def read (server : Server) (name value : String) : Except DatabaseFault Server := do
  if name = "sslmode" || name = "ssl-mode" then
    if sslModes.contains (.ofList (value.toList.map Char.toLower)) then return server
    else throw (.badSslMode value)
  else if name = "port" then
    return { server with port := ← readNumber 65535 value.toList }
  else if name = "statement-cache-capacity" then
    discard <| readNumber 18446744073709551615 value.toList
    return server
  else if name = "host" then return server.withHost value
  else if name = "hostaddr" then
    if isIpAddress value.toList then return server.withHost value else throw .badIpAddress
  else return server

/-- The text of a percent-encoded part, which must be UTF-8. -/
def decodeText (s : List Char) : Except DatabaseFault String :=
  match utf8Fault? (percentBytes s) with
  | some fault => .error (.badText fault)
  | none => .ok (.ofList (percentDecode s))

/-- The host that an address names, over the one of the environment. -/
def readHost (server : Server) : Option Host → Except DatabaseFault Server
  | none | some (.name []) => .ok server
  | some (.name text) =>
    if (percentBytes text).head? = some '/'.toNat then
      (decodeText text).map fun directory => { server with directory := some directory }
    else .ok { server with host := .ofList text }
  | some host => .ok { server with host := .ofList host.write }

/-- The variables that say where the server is, unless the address does. -/
def variableNames : List String := ["PGHOSTADDR", "PGHOST", "PGPORT"]

/-- The server that the environment names. -/
def ofVariables (vars : Variables) : Server :=
  let value := DotEnv.lookup vars
  let port := (value "PGPORT").bind fun text => (readNumber 65535 text.toList).toOption
  { host := (value "PGHOSTADDR" <|> value "PGHOST").getD "localhost"
    port := port.getD 5432 }

/-- The server that an address names. -/
def ofUrl (vars : Variables) (url : String) : Except DatabaseFault Server := do
  match Url.read url with
  | .error e => throw (.badUrl e)
  | .ok u =>
    let server ← (ofVariables vars).readHost u.host
    discard <| decodeText u.user
    discard <| decodeText u.password
    (pairs (u.query.getD [])).foldlM (fun server (name, value) => server.read name value)
      { server with port := u.port.getD server.port }

/-- The path of the socket, if the server has one. -/
def socketPath? (server : Server) : Option String :=
  let inside := fun directory => directory ++ "/.s.PGSQL." ++ Numeral.ofNat server.port
  match server.directory with
  | some directory => some (inside directory)
  | none => if server.host.toList.head? = some '/' then some (inside server.host) else none

/-- Files that every machine has. -/
def commonFiles : List (List String) :=
  ["null", "zero", "full", "random", "urandom", "tty", "ptmx", "stdin", "stdout", "stderr"].map
      (["dev", ·]) ++
    ["passwd", "group", "shadow", "hosts", "hostname", "resolv.conf", "os-release"].map
      (["etc", ·]) ++
    ["version", "cpuinfo", "meminfo", "uptime", "mounts"].map (["proc", ·]) ++
    [["bin", "sh"], ["usr", "bin", "env"]]

/-- Whether a path, given in steps, leads through one of the files; `place` is reached so far. -/
def meetsFile (place : List String) : List String → Bool
  | [] => false
  | step :: rest =>
    if step = "" || step = "." then meetsFile place rest
    else if step = ".." then
      commonFiles.any (fun file => place.isPrefixOf file && place ≠ file) &&
        meetsFile place.dropLast rest
    else
      let place := place ++ [step]
      (commonFiles.contains place && !rest.isEmpty) || meetsFile place rest

/-- The longest path of a socket, in bytes. -/
def maxSocketPath : Nat := 107

/-- Why the socket at a path cannot be opened, where no server runs. -/
def socketFault (path : String) : SocketFault :=
  if path.toList.contains '\x00' then .nulInPath
  else if maxSocketPath < path.utf8ByteSize then .pathTooLong
  else if meetsFile [] ((parts (· = '/') path.toList).map String.ofList) then .notDirectory
  else .missing

end Server

/-- Why the database cannot be reached where no server runs. Nobody answers a connection in time,
and without time none is tried. -/
def DatabaseSettings.failure (s : DatabaseSettings) (vars : Variables) : DatabaseFault :=
  match Server.ofUrl vars s.url with
  | .error fault => fault
  | .ok server =>
    match server.socketPath? with
    | some path => if s.acquireSeconds = 0 then .poolTimedOut else .socket (Server.socketFault path)
    | none => .poolTimedOut

end EnrollmentDesk
