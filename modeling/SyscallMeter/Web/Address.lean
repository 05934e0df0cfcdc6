import SyscallMeter.Web.Host

/-! Addresses of the web: reading them in all their spellings, writing them in one, and adding
segments to their path. -/
namespace SyscallMeter.Web

/-- The parts of an `http` or `https` address, each in its written form. -/
structure Address where
  scheme : String
  /-- User name and password, or nothing. -/
  userinfo : List Char
  host : List Char
  /-- The port, unless it is the usual one of the scheme. -/
  port : Option Nat
  /-- The path between its slashes. There is always one segment. -/
  segments : List (List Char)
  query : Option (List Char)
  fragment : Option (List Char)
  deriving Repr

/-- How the rest of an address is read. -/
inductive SchemeClass
  | web (usualPort : Nat)
  | file
  | other
  deriving DecidableEq, Repr

def SchemeClass.of (scheme : String) : SchemeClass :=
  match scheme with
  | "http" | "ws" => .web 80
  | "https" | "wss" => .web 443
  | "ftp" => .web 21
  | "file" => .file
  | _ => .other

namespace Address

/-! ### Reading -/

def isSchemeChar (c : Char) : Bool := c.isAlphanum || c == '+' || c == '-' || c == '.'

/-- The scheme in lower case, and what stands behind its colon. -/
def splitScheme? (s : List Char) : Option (String × List Char) :=
  let name := s.takeWhile isSchemeChar
  match name.head?, s.drop name.length with
  | some first, ':' :: rest =>
    if first.isAlpha then some (String.ofList (name.map Char.toLower), rest) else none
  | _, _ => none

/-- Without the spaces and control characters around, and the tabs and line ends inside. -/
def clean (s : List Char) : List Char :=
  let outside := fun (c : Char) => c.toNat ≤ 0x20
  let trimmed := ((s.dropWhile outside).reverse.dropWhile outside).reverse
  trimmed.filter fun c => c != '\t' && c != '\n' && c != '\r'

/-- Whether a character ends the part with user and host. -/
def endsAuthority (web : Bool) (c : Char) : Bool :=
  c == '/' || c == '?' || c == '#' || (web && c == '\\')

/-- The host ends at a colon outside brackets. -/
def splitHost (inside : Bool) : List Char → List Char × List Char
  | [] => ([], [])
  | c :: rest =>
    if c = ':' ∧ ¬ inside then ([], c :: rest)
    else
      let (host, rest) := splitHost (c = '[' ∨ (inside ∧ c ≠ ']')) rest
      (c :: host, rest)

/-- User and password in their written form, with the colon only before a password. -/
def writeUserinfo (user : List Char) : List Char :=
  let name := user.takeWhile (· ≠ ':')
  let password := user.drop (name.length + 1)
  let encode := percentEncode escapedInUserinfo
  encode name ++ (if password.isEmpty then [] else ':' :: encode password)

/-- A port of at most 16 bits: digits only, or nothing. -/
def parsePort (s : List Char) : Except AddressError (Option Nat) :=
  let port := s.foldl (fun n c => n * 10 + (c.toNat - 48)) 0
  if ¬ s.all Char.isDigit ∨ port > 65535 then .error .invalidPort
  else .ok (if s.isEmpty then none else some port)

/-- User, host and port. -/
structure Authority where
  userinfo : List Char
  host : List Char
  port : Option Nat

/-- Reads the part between the slashes and the path. `more` tells whether anything follows it. -/
def parseAuthority (web more : Bool) (authority : List Char) : Except AddressError Authority := do
  let (user, hostPort) := (Text.splitLast? '@' authority).getD ([], authority)
  if more ∧ authority = ['@'] then .error .emptyHost
  let userinfo := writeUserinfo user
  let (host, rest) := splitHost false hostPort
  if web ∧ host.isEmpty then .error .emptyHost
  let written ← if web then Host.parse host else (Host.check host).map fun _ => host
  if host.isEmpty ∧ ¬ rest.isEmpty then .error .emptyHost
  let port ← parsePort (rest.drop 1)
  if host.isEmpty ∧ ¬ userinfo.isEmpty then .error .emptyHost
  return ⟨userinfo, written, port⟩

def isDot (segment : List Char) : Bool :=
  let s := segment.map Char.toLower
  s == ['.'] || s == "%2e".toList

def isDoubleDot (segment : List Char) : Bool :=
  let s := segment.map Char.toLower
  ["..", ".%2e", "%2e.", "%2e%2e"].any fun spelling => s == spelling.toList

/-- A letter and a colon or bar: a drive, which no step upwards leaves. -/
def isDrive : List Char → Bool
  | [letter, mark] => letter.isAlpha && (mark == ':' || mark == '|')
  | _ => false

/-- One step upwards, on the segments in reverse. -/
def stepUp : List (List Char) → List (List Char)
  | [] => []
  | last :: before => if isDrive last then last :: before else before

/-- Adds the segments of a path to those before, which are in reverse. A dot stays where it is and
two dots step upwards; at the end both leave an empty segment. -/
def addSegments (before : List (List Char)) : List (List Char) → List (List Char)
  | [] => before.reverse
  | [last] =>
    if isDoubleDot last then ([] :: stepUp before).reverse
    else if isDot last then ([] :: before).reverse
    else (last :: before).reverse
  | segment :: rest =>
    if isDoubleDot segment then addSegments (stepUp before) rest
    else if isDot segment then addSegments before rest
    else addSegments (segment :: before) rest

/-- The segments of a path. The slash at its start is not needed. -/
def parsePath (path : List Char) : List (List Char) :=
  let slashed := path.map fun c => if c = '\\' then '/' else c
  let inner := if slashed.head? = some '/' then slashed.drop 1 else slashed
  addSegments [] ((Text.splitOn '/' inner).map (percentEncode escapedInPath))

/-- What stands before a mark, and what behind it if it is there. -/
def splitAtMark (mark : Char) (s : List Char) : List Char × Option (List Char) :=
  let before := s.takeWhile (· ≠ mark)
  (before, if before.length < s.length then some (s.drop (before.length + 1)) else none)

def parseWeb (scheme : String) (usualPort : Nat) (s : List Char) :
    Except AddressError Address := do
  let s := s.dropWhile fun c => c == '/' || c == '\\'
  let authority := s.takeWhile fun c => ! endsAuthority true c
  let rest := s.drop authority.length
  let a ← parseAuthority true (! rest.isEmpty) authority
  let (beforeFragment, fragment) := splitAtMark '#' rest
  let (path, query) := splitAtMark '?' beforeFragment
  return {
    scheme
    userinfo := a.userinfo
    host := a.host
    port := a.port.filter (· ≠ usualPort)
    segments := parsePath path
    query := query.map (percentEncode escapedInQuery)
    fragment := fragment.map (percentEncode escapedInFragment) }

def isSlash (c : Char) : Bool := c == '/' || c == '\\'

/-- The host of a file address is checked, unless it is missing or a drive. -/
def checkFile (s : List Char) : Except AddressError Unit :=
  match s with
  | a :: b :: rest =>
    if isSlash a ∧ isSlash b then
      let host := rest.takeWhile fun c => ! endsAuthority true c
      if host.isEmpty ∨ isDrive host then .ok () else (Host.parse host).map fun _ => ()
    else .ok ()
  | _ => .ok ()

/-- The authority of another address is checked, if it has one. -/
def checkOther (s : List Char) : Except AddressError Unit :=
  match s with
  | '/' :: '/' :: rest =>
    let authority := rest.takeWhile fun c => ! endsAuthority false c
    (parseAuthority false (authority.length < rest.length) authority).map fun _ => ()
  | _ => .ok ()

/-- Reads an address of the web. Errors in other addresses come before their being others. -/
def parse (text : String) : Except AddressError Address := do
  match splitScheme? (clean text.toList) with
  | none => .error .noScheme
  | some (scheme, rest) =>
    match SchemeClass.of scheme with
    | .web usualPort =>
      let address ← parseWeb scheme usualPort rest
      if scheme = "http" ∨ scheme = "https" then .ok address else .error .otherScheme
    | .file => do
      checkFile rest
      .error .otherScheme
    | .other => do
      checkOther rest
      .error .otherScheme

/-! ### Adding segments -/

/-- Without an empty segment at the end, unless it is the only one. -/
def popIfEmpty (a : Address) : Address :=
  if a.segments.length > 1 ∧ a.segments.getLast? = some [] then
    { a with segments := a.segments.dropLast }
  else a

/-- Adds a segment, in place of a path that is empty. Segments that are dots are left out; tabs
and line ends do not count, also where a segment is dots only without them. -/
def push (a : Address) (segment : String) : Address :=
  if segment = "." ∨ segment = ".." then a
  else
    let kept := segment.toList.filter fun c => c != '\t' && c != '\n' && c != '\r'
    let before := if a.segments = [[]] then [] else a.segments
    { a with segments := addSegments before.reverse [percentEncode escapedInSegment kept] }

/-! ### Writing -/

def joinSegments (segments : List (List Char)) : List Char :=
  segments.flatMap fun segment => '/' :: segment

/-- Host and port. -/
def site (a : Address) : List Char :=
  a.host ++ match a.port with
    | some port => ':' :: Nat.toDigits 10 port
    | none => []

def path (a : Address) : List Char := joinSegments a.segments

/-- Path and query, as a request names them. -/
def target (a : Address) : List Char :=
  a.path ++ match a.query with
    | some query => '?' :: query
    | none => []

/-- The address without user and fragment. -/
def publicText (a : Address) : String :=
  String.ofList (a.scheme.toList ++ "://".toList ++ a.site ++ a.target)

def text (a : Address) : String :=
  let user := if a.userinfo.isEmpty then [] else a.userinfo ++ ['@']
  let fragment := match a.fragment with
    | some fragment => '#' :: fragment
    | none => []
  String.ofList (a.scheme.toList ++ "://".toList ++ user ++ a.site ++ a.target ++ fragment)

end Address

end SyscallMeter.Web
