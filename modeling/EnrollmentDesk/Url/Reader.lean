import EnrollmentDesk.Text.Parts
import EnrollmentDesk.Url.Address
import EnrollmentDesk.Url.Domain

/-!
# Reading addresses

A text is read as an absolute address in the way of web browsers, which accept much: margins and
line breaks are dropped, characters that may not stand where they do are percent-encoded, and dot
segments of the path are carried out. A few *special* schemes, those of the web, have domain names
for hosts, take a backslash for a slash and do not care how many slashes come before the host.

What is refused is a text without a scheme, and a bad host or port.
-/

namespace EnrollmentDesk.UrlReader

open Text

/-! ### Which characters stay as they are -/

/-- An ASCII character that is no control. -/
def staysInText (c : Char) : Bool :=
  0x20 ≤ c.toNat && c.toNat < 0x7F

/-- A character that stays in a fragment. -/
def staysInFragment (c : Char) : Bool :=
  staysInText c && !([' ', '\x22', '<', '>', '\x60'].contains c)

/-- A character that stays in a segment of a path. -/
def staysInPath (c : Char) : Bool :=
  staysInFragment c && !(['#', '?', '\x7b', '\x7d'].contains c)

/-- A character that stays in the name or the password of a user. -/
def staysInUser (c : Char) : Bool :=
  staysInPath c && !(['/', ':', ';', '=', '@', '[', '\\', ']', '^', '|'].contains c)

/-- A character that stays in a query. -/
def staysInQuery (special : Bool) (c : Char) : Bool :=
  staysInText c && !([' ', '\x22', '#', '<', '>'].contains c) && !(special && c = '\x27')

/-! ### Schemes -/

/-- The usual port of a special scheme; `none` if the scheme is not special. -/
def usualPort? (scheme : List Char) : Option Nat :=
  if scheme = "http".toList || scheme = "ws".toList then some 80
  else if scheme = "https".toList || scheme = "wss".toList then some 443
  else if scheme = "ftp".toList then some 21
  else none

/-- The scheme of files, which is special but has no port. -/
def fileScheme : List Char := ['f', 'i', 'l', 'e']

/-- A character a scheme may have after its first letter. -/
def isSchemeChar (c : Char) : Bool :=
  c.isAlphanum || c = '+' || c = '-' || c = '.'

/-- The scheme in lower case, and the text after its colon. -/
def scheme? (s : List Char) : Option (List Char × List Char) :=
  match s.span isSchemeChar with
  | (c :: cs, ':' :: rest) => if c.isAlpha then some ((c :: cs).map Char.toLower, rest) else none
  | _ => none

/-! ### The authority -/

/-- Whether a character ends a segment of a path. -/
def isSlash (special : Bool) (c : Char) : Bool :=
  c = '/' || (special && c = '\\')

/-- Whether a character ends the authority. -/
def endsAuthority (special : Bool) (c : Char) : Bool :=
  isSlash special c || c = '?' || c = '#'

/-- The text before the colon of the port, and the text from it on. A colon within brackets is not
the one. -/
def splitHost : (inside : Bool) → List Char → List Char × List Char
  | _, [] => ([], [])
  | inside, c :: s =>
    if c = ':' && !inside then ([], c :: s)
    else
      let (a, b) := splitHost (if c = '[' then true else if c = ']' then false else inside) s
      (c :: a, b)

/-- The address between brackets, if the host begins with one. -/
def readBracketed (host : List Char) : Except UrlError Host :=
  match host.getLast?, Ipv6.read? (host.drop 1).dropLast with
  | some ']', some pieces => .ok (.ipv6 pieces)
  | _, _ => .error .badIpv6

/-- Reads a host of a special scheme. -/
def readHost (host : List Char) : Except UrlError Host :=
  if host.head? = some '[' then readBracketed host
  else do
    let name ← Domain.read host
    if Ipv4.endsInNumber name then return .ipv4 (← Ipv4.read name)
    else return .name name

/-- A character that no host has in a scheme without domain names. -/
def isForbiddenInHost (c : Char) : Bool :=
  ['\x00', '\t', '\n', '\r', ' ', '#', '/', ':', '<', '>', '?', '@', '[', '\\', ']', '^',
    '|'].contains c

/-- Reads a host of a scheme that is not special. -/
def readPlainHost (host : List Char) : Except UrlError Host :=
  if host.head? = some '[' then readBracketed host
  else if host.any isForbiddenInHost then .error .badHostCharacter
  else .ok (.name (percentEncode staysInText host))

/-- Reads a port after its colon: `none` if it is empty or the usual one. A backslash ends it. -/
def readPort (scheme s : List Char) : Except UrlError (Option Nat × List Char) :=
  let (ds, rest) := s.span Char.isDigit
  let n := Numeral.natOfDigits ds
  if !(rest.isEmpty || rest.head? = some '\\') || 65535 < n then .error .badPort
  else .ok (if ds.isEmpty || usualPort? scheme = some n then none else some n, rest)

/-- The name and the password of a user. -/
def readUser (s : List Char) : List Char × List Char :=
  match cutAt (· = ':') s with
  | some (name, password) => (percentEncode staysInUser name, percentEncode staysInUser password)
  | none => (percentEncode staysInUser s, [])

/-- A host with what stands around it. -/
structure Authority where
  user : List Char
  password : List Char
  host : Host
  port : Option Nat
  /-- What of the text is left to the path. -/
  rest : List Char

/-- Reads the text between the slashes and the path. -/
def readAuthority (scheme s : List Char) (more : Bool) : Except UrlError Authority := do
  let special := (usualPort? scheme).isSome
  let (credentials, place) := (cutAtLast (· = '@') s).getD ([], s)
  if credentials.isEmpty && place.length < s.length && place.isEmpty && more then
    throw .emptyHost
  let (user, password) := readUser credentials
  let (typed, port) := splitHost false place
  if special && typed.isEmpty then throw .emptyHost
  let host ← if special then readHost typed else readPlainHost typed
  match port with
  | [] =>
    if typed.isEmpty && !(user.isEmpty && password.isEmpty) then throw .emptyHost
    return ⟨user, password, host, none, []⟩
  | _ :: digits =>
    if typed.isEmpty then throw .emptyHost
    let (port, rest) ← readPort scheme digits
    return ⟨user, password, host, port, rest⟩

/-! ### The path -/

/-- A segment for the directory itself. -/
def isDot (segment : List Char) : Bool :=
  let w := segment.map Char.toLower
  w = ['.'] || w = "%2e".toList

/-- A segment for the directory above. -/
def isDoubleDot (segment : List Char) : Bool :=
  let w := segment.map Char.toLower
  w = "..".toList || w = "%2e.".toList || w = ".%2e".toList || w = "%2e%2e".toList

/-- A letter and a colon: a disk. -/
def isDrive (segment : List Char) : Bool :=
  match segment with
  | [c, ':'] => c.isAlpha
  | _ => false

/-- A letter and a colon or a bar. -/
def isTypedDrive (segment : List Char) : Bool :=
  match segment with
  | [c, d] => c.isAlpha && (d = ':' || d = '|')
  | _ => false

/-- The path above, its segments in reverse. A disk has nothing above it. -/
def shorten : List (List Char) → List (List Char)
  | [] => []
  | segment :: above => if isTypedDrive segment then segment :: above else above

/-- A segment as it is kept. -/
def keepSegment (file : Bool) (above : List (List Char)) (segment : List Char) : List Char :=
  match segment with
  | [c, _] =>
    if file && above.isEmpty && isTypedDrive segment then [c, ':']
    else percentEncode staysInPath segment
  | _ => percentEncode staysInPath segment

/-- Carries out the dot segments, after the segments `above`, which are in reverse. -/
def walk (file : Bool) (above : List (List Char)) : List (List Char) → List (List Char)
  | [] => above.reverse
  | segment :: rest =>
    let stay := fun path => if rest.isEmpty then [] :: path else path
    if isDoubleDot segment then walk file (stay (shorten above)) rest
    else if isDot segment then walk file (stay above) rest
    else walk file (keepSegment file above segment :: above) rest

/-- The text without one slash in front. -/
def dropSlash (special : Bool) : List Char → List Char
  | c :: s => if isSlash special c then s else c :: s
  | [] => []

/-- The segments of a path that follows a host. -/
def readPath (special file : Bool) (s : List Char) : UrlPath :=
  if s.isEmpty && !special then .segments []
  else .segments (walk file [] (parts (isSlash special) (dropSlash special s)))

/-- The segments of a file's path, in which dot segments have been carried out. -/
def fileSegments (s : List Char) : List (List Char) :=
  walk true [] (parts (isSlash true) s)

/-- The path of a file: empty segments in front are dropped. -/
def filePath (segments : List (List Char)) : UrlPath :=
  let rest := segments.dropWhile List.isEmpty
  .segments (if rest.isEmpty then [[]] else rest)

/-! ### The address -/

/-- The text before the query and the fragment, and these two. -/
def splitTail (special : Bool) (s : List Char) :
    List Char × Option (List Char) × Option (List Char) :=
  let (front, fragment) :=
    match cutAt (· = '#') s with
    | some (a, b) => (a, some (percentEncode staysInFragment b))
    | none => (s, none)
  match cutAt (· = '?') front with
  | some (a, b) => (a, some (percentEncode (staysInQuery special) b), fragment)
  | none => (front, none, fragment)

/-- Reads an address with a host. -/
def readWithHost (scheme s : List Char) : Except UrlError Url := do
  let special := (usualPort? scheme).isSome
  let (authority, rest) := s.span fun c => !endsAuthority special c
  let a ← readAuthority scheme authority !rest.isEmpty
  let (path, query, fragment) := splitTail special (a.rest ++ rest)
  let path := readPath special false path
  return ⟨scheme, a.user, a.password, some a.host, a.port, path, query, fragment⟩

/-- Reads the host of a file; a disk is none, and neither is this machine. -/
def readFileHost (host : List Char) : Except UrlError Host := do
  if host.isEmpty then return .name []
  let h ← readHost host
  return if h = .name "localhost".toList then .name [] else h

/-- Reads the host and the path of a file after two slashes. A disk may stand where the host does,
and a path on a disk has no host; after an empty host the slash of the path ends an empty segment,
which a disk does not follow. -/
def readFilePlace (s : List Char) : Except UrlError (Host × UrlPath) := do
  let (typed, path) := s.span fun c => !isSlash true c
  if isTypedDrive typed then return (.name [], filePath (fileSegments s))
  let host ← readFileHost typed
  if host = .name [] then return (host, filePath (fileSegments path))
  let segments := fileSegments (dropSlash true path)
  return (if segments.head?.any isDrive then .name [] else host, filePath segments)

/-- Reads the address of a file. -/
def readFile (s : List Char) : Except UrlError Url := do
  let (front, query, fragment) := splitTail true s
  let (host, path) ←
    match front with
    | a :: b :: rest =>
      if isSlash true a && isSlash true b then readFilePlace rest
      else .ok (.name [], filePath (fileSegments (dropSlash true front)))
    | _ => .ok (.name [], filePath (fileSegments (dropSlash true front)))
  return ⟨fileScheme, [], [], some host, none, path, query, fragment⟩

/-- Reads an address of a scheme that is not special and that names no host. -/
def readWithoutHost (scheme s : List Char) : Url :=
  let (front, query, fragment) := splitTail false s
  let path :=
    match front with
    | '/' :: rest => .segments (walk false [] (parts (isSlash false) rest))
    | text => .text (percentEncode staysInText text)
  ⟨scheme, [], [], none, none, path, query, fragment⟩

/-- A control character or a space. -/
def isMargin (c : Char) : Bool :=
  c.toNat ≤ 0x20

/-- The text without margins, tabs and line breaks. -/
def clean (s : List Char) : List Char :=
  ((s.dropWhile isMargin).reverse.dropWhile isMargin).reverse.filter fun c =>
    c ≠ '\t' && c ≠ '\n' && c ≠ '\r'

/-- Reads an address. -/
def read (s : List Char) : Except UrlError Url :=
  match scheme? (clean s) with
  | none => .error .noScheme
  | some (scheme, rest) =>
    if scheme = fileScheme then readFile rest
    else if (usualPort? scheme).isSome then readWithHost scheme (rest.dropWhile (isSlash true))
    else
      match rest with
      | '/' :: '/' :: s => readWithHost scheme s
      | s => .ok (readWithoutHost scheme s)

end EnrollmentDesk.UrlReader

namespace EnrollmentDesk

/-- Reads an absolute address. -/
def Url.read (s : String) : Except UrlError Url :=
  UrlReader.read s.toList

end EnrollmentDesk
