import Detour.Notification.Router

/-!
# Webhooks

A webhook has a client post each event as a JSON document. The client is made when it is first
needed, and again after it was closed. What clients do is not part of the program: a network tells
how they answer. Settings are of any type, for they are only looked at when they are used.

## Main definitions

* `Network` — how clients answer.
* `Webhook.create` — from settings whose headers can be copied.
* `Webhook.send` — one event, over a network.
-/
namespace Detour

open Text

structure WebhookSettings where
  url : Json
  headers : Json := .object []
  timeout : Json := .number (.float (.ofInt 5))
  deriving Repr, BEq

/-- The key of a header. One that is no text is only known by its kind. -/
inductive HeaderKey
  | name (text : Text)
  | other (kindName : Text)
  deriving DecidableEq, Repr

/-- What a client is asked to post. -/
structure Post where
  url : Json
  headers : Table HeaderKey Json
  body : Json
  deriving Repr

/-- How a client answers: with the status of a response, by telling that there is none, or by a
failure of any other kind. -/
inductive Reply
  | status (code : Int)
  | unanswered (message : Text)
  | failed (failure : Failure)
  deriving Repr

/-- How clients answer what they are asked to post, which may depend on all that was posted before.
What was posted is kept. -/
structure Network where
  answer : List Post → Post → Reply
  posts : List Post := []
  /-- The timeouts of the clients that were made. -/
  clients : List Json := []

structure Webhook where
  settings : WebhookSettings
  simulation : Bool
  connected : Bool := false
  deriving Repr

namespace Webhook

def name : Text := "webhook"

/-- Only containers can be copied. -/
def create (settings : WebhookSettings) (simulation : Bool) : Except Failure Webhook :=
  match settings.headers with
  | .object _ | .array _ => .ok { settings, simulation }
  | v => .error (.simple "AttributeError"
      ("'" ++ v.kindName ++ "' object has no attribute 'copy'"))

/-! ## Headers -/

def unhashable (v : Json) : Failure :=
  .simple "TypeError" ("unhashable type: '" ++ v.kindName ++ "'")

/-- A name and a value from an element that holds just these. -/
def pairOf (index : Nat) (element : Json) : Except Failure (Json × Json) :=
  let wrongLength (n : Nat) : Failure :=
    .simple "ValueError" ("dictionary update sequence element #" ++ ofNat index ++ " has length " ++
      ofNat n ++ "; 2 is required")
  match element with
  | .string [a, b] => .ok (.string [a], .string [b])
  | .array [a, b] => .ok (a, b)
  | .object [(a, _), (b, _)] => .ok (.string a, .string b)
  | .string t => .error (wrongLength t.length)
  | .array xs => .error (wrongLength xs.length)
  | .object ms => .error (wrongLength ms.length)
  | _ => .error (.simple "TypeError" ("cannot convert dictionary update sequence element #" ++
      ofNat index ++ " to a sequence"))

def keyOf : Json → Except Failure HeaderKey
  | .string t => .ok (.name t)
  | .array items => .error (unhashable (.array items))
  | .object members => .error (unhashable (.object members))
  | v => .ok (.other v.kindName)

def pairsFrom (index : Nat) : List Json → Except Failure (Table HeaderKey Json)
  | [] => .ok []
  | x :: xs => do
    let (key, value) ← pairOf index x
    let key ← keyOf key
    let rest ← pairsFrom (index + 1) xs
    return (key, value) :: rest

/-- The configured headers. -/
def configured (headers : Json) : Except Failure (Table HeaderKey Json) :=
  match headers with
  | .object members => .ok (members.map fun (k, v) => (.name k, v))
  | .array elements => pairsFrom 0 elements
  | _ => .ok []

/-- The headers of every request that are not configured otherwise. -/
def standard : Table HeaderKey Json := [(.name "Content-Type", .string "application/json")]

/-! ## Sending -/

def networkFailure (url : Json) (message : Text) : Failure :=
  .own (.make .notification (.string "network_error")
    (.string ("Webhook request failed: " ++ message)) (.object [("url", url)]))

/-- A response counts as success if its status says so. -/
def isSuccess (code : Int) : Bool := 200 ≤ code && code < 300

/-- What a reply means for an event that was posted to `url`. -/
def outcome (url : Json) : Reply → Except Failure Bool
  | .status code => .ok (isSuccess code)
  | .unanswered message => .error (networkFailure url message)
  | .failed failure => .error failure

/-- Makes a client unless there is one. -/
def connect (w : Webhook) (n : Network) : Webhook × Network :=
  if w.connected then (w, n)
  else ({ w with connected := true }, { n with clients := n.clients ++ [w.settings.timeout] })

def post (w : Webhook) (headers : Table HeaderKey Json) (e : Event) (n : Network) :
    Except Failure Bool × Network :=
  let p : Post := { url := w.settings.url, headers, body := e.toJson }
  (outcome p.url (n.answer n.posts p), { n with posts := n.posts ++ [p] })

def send (e : Event) (w : Webhook) (n : Network) : Except Failure Bool × Webhook × Network :=
  if w.simulation then (.ok true, w, n)
  else match configured w.settings.headers with
    | .error f => (.error f, w, n)
    | .ok own =>
      let (w, n) := w.connect n
      let (r, n) := w.post (Table.merge standard own) e n
      (r, w, n)

def close (w : Webhook) : Webhook := { w with connected := false }

/-- A webhook as a channel; the state holds it together with the network. -/
def channel : Channel (Webhook × Network) where
  name
  send e s := send e s.1 s.2
  close := some fun s => (s.1.close, s.2)

end Webhook
end Detour
