import Detour.Http.Url
import Detour.Json.Printer
import Detour.Notification.Webhook

/-!
# A client for requests

The client that the program is run with: what it is asked to post becomes a POST request, or fails
for its URL, its headers or its body. The request is answered by whatever the network is.

## Main definitions

* `Request.ofPost` — the request, or why there is none.
* `Request.reply` — how the client answers.
-/
namespace Detour

open Text

/-- A POST request; header names are in lower case. -/
structure Request where
  url : Url
  headers : Table Text Text
  body : Text
  deriving DecidableEq, Repr

namespace Request

/-! ## Headers -/

def asciiFailure (t : Text) : Failure :=
  let position := (t.takeWhile (· < 128)).length
  let run := (t.drop position).takeWhile (128 ≤ ·)
  .simple "UnicodeEncodeError" ("'ascii' codec can't encode " ++
    (match run with
      | [c] => "character '" ++ escapeNumber c ++ "'"
      | _ => ofString "characters") ++
    " in position " ++ Utf8.positions position run.length ++ ": ordinal not in range(128)")

def asciiText (t : Text) : Except Failure Text :=
  if isAscii t then .ok t else .error (asciiFailure t)

def headerName : HeaderKey → Except Failure Text
  | .name t => (asciiText t).map (·.map asciiLower)
  | .other kindName => .error (.simple "AttributeError"
      ("'" ++ kindName ++ "' object has no attribute 'encode'"))

def headerValue (v : Json) : Except Failure Text :=
  match v with
  | .string t => asciiText t
  | v => .error (.simple "TypeError"
      ("Header value must be str or bytes, not <class '" ++ v.kindName ++ "'>"))

def plainHeaders : Table HeaderKey Json → Except Failure (Table Text Text)
  | [] => .ok []
  | (k, v) :: r => do
    let name ← headerName k
    let value ← headerValue v
    let rest ← plainHeaders r
    return (name, value) :: rest

/-- Headers whose names differ in case only are sent as one. -/
def combine (headers : Table Text Text) : Table Text Text :=
  headers.foldl (fun t (k, v) =>
    t.put k (match t.get? k with
      | none => v
      | some before => before ++ ", " ++ v)) []

def contentLength : Text := "content-length"

/-- The length of the body is told unless a header tells it. -/
def withLength (body : Text) (headers : Table Text Text) : Table Text Text :=
  match headers.get? contentLength with
  | some _ => headers
  | none => headers.put contentLength (ofNat (Utf8.size body))

/-- The user of the URL is told in place of any configured authorization. -/
def withCredentials (url : Url) (headers : Table Text Text) : Table Text Text :=
  match url.credentials? with
  | none => headers
  | some (name, password) =>
    let octets := (name ++ ":" ++ password).flatMap Utf8.encodeChar
    headers.put "authorization" ("Basic " ++ Base64.encode octets)

/-- Without a configured host the host of the URL is told, so it has to be one that can be read. -/
def checkHost (url : Url) (headers : Table Text Text) : Except Failure Unit :=
  if url.host.isEmpty || (Table.get? (ofString "host") headers).isSome then .ok ()
  else do
    if International.encodedMark.isPrefixOf url.host then
      (International.checkAsciiName url.host).mapError fun f => .simple f.kind f.message
    discard (asciiText url.location)

/-! ## Requests -/

def urlOf (url : Json) : Except Failure Url :=
  match url with
  | .string t => (Url.ofText t >>= Url.rooted).mapError (·.toFailure)
  | v => .error (.simple "TypeError"
      ("Invalid type for url.  Expected str or httpx.URL, got <class '" ++ v.kindName ++ "'>: " ++
        v.display))

def isDefinite : Json → Bool
  | .number (.float x) => x.isFinite
  | _ => true

def members : Json → List (Text × Json)
  | .object members => members
  | _ => []

def bodyOf (v : Json) : Except Failure Text :=
  if (members v).all fun m => isDefinite m.2 then
    let body := v.render Json.compact
    match Utf8.encode body with
    | .ok _ => .ok body
    | .error f => .error (.simple "UnicodeEncodeError" f.message)
  else .error (.simple "ValueError" "Out of range float values are not JSON compliant")

def ofPost (p : Post) : Except Failure Request := do
  let url ← urlOf p.url
  let headers ← plainHeaders p.headers
  let body ← bodyOf p.body
  checkHost url headers
  return { url, headers := withCredentials url (withLength body (combine headers)), body }

/-- An answer to a request that went nowhere in particular cannot be used. -/
def accept (url : Url) : Reply → Reply
  | .status code =>
    if url.isAbsolute then .status code
    else .failed (.simple "ValueError" ("unknown url type: " ++ quoted url.text))
  | reply => reply

/-- How a client answers, from what the network says to requests. -/
def reply (answer : Request → Reply) (p : Post) : Reply :=
  match ofPost p with
  | .error f => .failed f
  | .ok r => accept r.url (answer r)

end Request
end Detour
