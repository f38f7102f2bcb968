import Detour.Failure
import Detour.Host.Name
import Detour.Number.Reader
import Detour.Table
import Detour.Http.Octets
import Detour.International.Encoder

/-!
# URLs

A URL has a scheme, an authority (user, host and port), a path, a query and a fragment, all of which
may be missing. It is brought to a canonical form as it is read: scheme and host in lower case, the
host in ASCII, dots in the path resolved, the port left out where it is the usual one, and percent
signs for what may not stand in its place.

## Main definitions

* `Url.ofText` — the URL that a text spells, or why it spells none.
* `Url.text` — the canonical spelling.
-/
namespace Detour

open Text

structure Url where
  scheme : Text := []
  userinfo : Text := []
  host : Text := []
  port : Option Int := none
  path : Text := []
  query : Option Text := none
  fragment : Option Text := none
  deriving DecidableEq, Repr

namespace Url

/-- Why a text is no URL. -/
inductive Fault
  | tooLong
  | invisible (c : CodePoint) (position : Nat)
  | badDottedHost (host : Text)
  | badColonHost (host : Text)
  | badName (host : Text)
  | badPort (port : Text)
  | leadingSlashes
  | leadingColon
  | partTooLong (part : Text)
  | unencodable (cause : Utf8.EncodeError)
  deriving DecidableEq, Repr

def Fault.message : Fault → Text
  | .tooLong => "URL too long"
  | .invisible c position =>
    "Invalid non-printable ASCII character in URL, " ++ quoted [c] ++ " at position " ++
      ofNat position ++ "."
  | .badDottedHost host => "Invalid IPv4 address: " ++ quoted host
  | .badColonHost host => "Invalid IPv6 address: " ++ quoted host
  | .badName host => "Invalid IDNA hostname: " ++ quoted host
  | .badPort port => "Invalid port: " ++ quoted port
  | .leadingSlashes => "Relative URLs cannot have a path starting with '//'"
  | .leadingColon => "Relative URLs cannot have a path starting with ':'"
  | .partTooLong part => "URL component '" ++ part ++ "' too long"
  | .unencodable cause => cause.message

def Fault.toFailure : Fault → Failure
  | .unencodable cause => .simple "UnicodeEncodeError" cause.message
  | f => .simple "InvalidURL" f.message

/-! ## Spelling -/

/-- The host in the form in which a port may follow it. -/
def location (u : Url) : Text :=
  (if u.host.contains 58 then "[" ++ u.host ++ "]" else u.host) ++
  (match u.port with
    | none => []
    | some p => 58 :: ofInt p)

def authority (u : Url) : Text :=
  (if u.userinfo.isEmpty then [] else u.userinfo ++ [64]) ++ u.location

def text (u : Url) : Text :=
  (if u.scheme.isEmpty then [] else u.scheme ++ [58]) ++
  (if u.authority.isEmpty then [] else [47, 47] ++ u.authority) ++ u.path ++
  (match u.query with
    | none => []
    | some q => 63 :: q) ++
  (match u.fragment with
    | none => []
    | some f => 35 :: f)

/-! ## Printable characters that do not stand as they are -/

def fragmentEscapes : List CodePoint := [0x20, 0x22, 0x3C, 0x3E, 0x60]

def queryEscapes : List CodePoint := [0x20, 0x22, 0x23, 0x3C, 0x3E]

def pathEscapes : List CodePoint := queryEscapes ++ [0x3F, 0x60, 0x7B, 0x7D]

def userinfoEscapes : List CodePoint :=
  pathEscapes ++ [0x2F, 0x3B, 0x3D, 0x40, 0x5B, 0x5C, 0x5D, 0x5E, 0x7C]

def hostEscapes : List CodePoint :=
  [0x20, 0x23, 0x2F, 0x3A, 0x3C, 0x3E, 0x3F, 0x40, 0x5B, 0x5D, 0x5E]

def escape (escapes : List CodePoint) (t : Text) : Except Fault Text :=
  (Percent.encode escapes t).mapError .unencodable

def escape? (escapes : List CodePoint) : Option Text → Except Fault (Option Text)
  | none => .ok none
  | some t => (escape escapes t).map some

/-! ## Parts -/

def isLetter (c : CodePoint) : Bool := (65 ≤ c && c ≤ 90) || (97 ≤ c && c ≤ 122)

def isSchemeChar (c : CodePoint) : Bool :=
  isLetter c || Host.isAsciiDigit c || c == 43 || c == 45 || c == 46

/-- A scheme with its colon, and the rest; the scheme may be empty. -/
def cutScheme (t : Text) : Text × Text :=
  let name := if t.head?.any isLetter then t.takeWhile isSchemeChar else []
  match t.drop name.length with
  | 58 :: rest => (name, rest)
  | _ => ([], t)

/-- The text before the first of some delimiters, and the rest from there. -/
def cutAt (delimiters : List CodePoint) (t : Text) : Text × Text :=
  (t.takeWhile fun c => !delimiters.contains c, t.dropWhile fun c => !delimiters.contains c)

/-- An authority behind two slashes, and the rest. -/
def cutAuthority (t : Text) : Text × Text :=
  match t with
  | 47 :: 47 :: rest => cutAt [47, 63, 35] rest
  | _ => ([], t)

/-- The host is everything up to a colon unless it stands in brackets. -/
def cutHost (t : Text) : Text × Text :=
  match t with
  | 91 :: inner =>
    match cutLast? 93 inner with
    | some (host, rest) => (91 :: host ++ [93], rest)
    | none => cutAt [58] t
  | _ => cutAt [58] t

/-- The text of the user, the host and the port. -/
def cutUser (authority : Text) : Text × Text × Text :=
  let (userinfo, rest) := (cutLast? 64 authority).getD ([], authority)
  let (host, port) := cutHost rest
  (userinfo, host, match port with
    | 58 :: port => port
    | port => port)

/-! ## Hosts and ports -/

/-- Whether a host can be seen as four runs of digits with one character, which may be a digit,
between each two. A run of `n` digits has room for `(n - 1) / 2` such characters. -/
def looksDotted (host : Text) : Bool :=
  let runs := splitOn 46 (host.map fun c => if Host.isAsciiDigit c then c else 46)
  let room := runs.foldl (fun n run => n + (run.length - 1) / 2) 0
  runs.all (!·.isEmpty) && runs.length ≤ 4 && 4 ≤ runs.length + room

/-- What stands in brackets. -/
def bracketed? (host : Text) : Option Text :=
  match host with
  | 91 :: rest => if rest.getLast? = some 93 then some rest.dropLast else none
  | _ => none

def nameOf (host : Text) : Except Fault Text :=
  if isAscii host then escape hostEscapes (host.map asciiLower)
  else if 1024 < (lower host).length then .error (.badName host)
  else (International.encodeMapped (lower host)).mapError fun _ => .badName host

def readHost (host : Text) : Except Fault Text :=
  if looksDotted host then
    if Host.isDottedAddress host then .ok host else .error (.badDottedHost host)
  else match bracketed? host with
    | some address =>
      if Host.isScopedAddress address && !address.contains 47 then .ok address
      else .error (.badColonHost host)
    | none => nameOf host

def usualPorts : Table Text Int :=
  [("ftp", 21), ("http", 80), ("https", 443), ("ws", 80), ("wss", 443)]

/-- The usual port of a scheme is left out. -/
def readPort (scheme port : Text) : Except Fault (Option Int) :=
  if port.isEmpty then .ok none
  else match Number.wholeOfText? port with
    | none => .error (.badPort port)
    | some n => .ok (if usualPorts.get? scheme = some n then none else some n)

/-! ## Paths -/

/-- The parts of a path, latest first, with one more. Two dots take away the part before them, but
not the empty one before the leading slash. -/
def addPart (done : List Text) (part : Text) : List Text :=
  if part = [46] then done
  else if part = [46, 46] then (if done = [[]] then done else done.tail)
  else part :: done

/-- Resolves dots. -/
def resolve (path : Text) : Text := joinWith [47] ((splitOn 47 path).foldl addPart []).reverse

def hasDots (path : Text) : Bool := (splitOn 47 path).any fun part => part = [46] || part = [46, 46]

/-- The path of a URL that has a scheme or an authority, or that has none of them. -/
def readPath (anchored : Bool) (path : Text) : Except Fault Text :=
  if anchored then escape pathEscapes (if hasDots path then resolve path else path)
  else match path with
    | 47 :: 47 :: _ => .error .leadingSlashes
    | 58 :: _ => .error .leadingColon
    | path => escape pathEscapes path

/-! ## The whole -/

/-- The greatest length of a URL and of its parts. -/
def lengthLimit : Nat := 65536

def isInvisible (c : CodePoint) : Bool := c < 32 || c == 127

def ofParts (scheme authority path : Text) (query fragment : Option Text) : Except Fault Url := do
  let (userinfo, host, port) := cutUser authority
  let userinfo ← escape userinfoEscapes userinfo
  let host ← readHost host
  let port ← readPort scheme port
  let anchored := !scheme.isEmpty || !userinfo.isEmpty || !host.isEmpty || port.isSome
  let path ← readPath anchored path
  let query ← escape? queryEscapes query
  let fragment ← escape? fragmentEscapes fragment
  return { scheme := scheme.map asciiLower, userinfo, host, port, path, query, fragment }

def ofText (t : Text) : Except Fault Url :=
  if lengthLimit < t.length then .error .tooLong
  else match t.findIdx? isInvisible with
    | some position => .error (.invisible (t.getD position 0) position)
    | none =>
      let (scheme, rest) := cutScheme t
      let (authority, rest) := cutAuthority rest
      let (path, rest) := cutAt [63, 35] rest
      let (query, rest) := match rest with
        | 63 :: rest =>
          let (query, rest) := cutAt [35] rest
          (some query, rest)
        | rest => (none, rest)
      ofParts scheme authority path query (match rest with
        | 35 :: fragment => some fragment
        | _ => none)

/-- A URL that says where to send a request. -/
def isAbsolute (u : Url) : Bool := !u.scheme.isEmpty && !u.host.isEmpty

/-- A URL that is not absolute names a path below the root, and nothing else of it counts. -/
def rooted (u : Url) : Except Fault Url :=
  if u.isAbsolute then .ok u
  else
    let path := 47 :: u.path.dropWhile (· = 47)
    if lengthLimit < path.length then .error (.partTooLong "path")
    else if u.query.any fun q => lengthLimit < q.length then .error (.partTooLong "query")
    else .ok { path, query := u.query }

/-- The name and the password of the user, unless both are empty. -/
def credentials? (u : Url) : Option (Text × Text) :=
  let (name, password) := (cut? 58 u.userinfo).getD (u.userinfo, [])
  if name.isEmpty && password.isEmpty then none
  else some (Percent.decode name, Percent.decode password)

end Url
end Detour
