import Detour.Host.Name
import Detour.Text.Numeral

/-!
# Targets

A target is the destination of a connection: a host, an optional port and the registered domain of
the host. It is written `host`, `host:port` or `[host]:port`.
-/
namespace Detour

open Text

structure Target where
  host : Text
  port : Option Int := none
  domain : Text := []
  deriving DecidableEq, Repr

namespace Target

def hostPort (t : Target) : Text :=
  match t.port with
  | none => t.host
  | some p =>
    if t.host.contains 58 then "[" ++ t.host ++ "]:" ++ ofInt p else t.host ++ ":" ++ ofInt p

def hostIsAddress (t : Target) : Bool := Host.isAddress t.host

/-- Why a text names no target. -/
inductive Fault
  | unterminatedLiteral (input : Text)
  | invalidPort (port input : Text)
  | badHost (fault : Host.Fault)
  deriving DecidableEq, Repr

def Fault.code : Fault → Text
  | .unterminatedLiteral _ => "invalid_host"
  | .invalidPort _ _ => "invalid_port"
  | .badHost .empty => "empty_input"
  | .badHost (.forbidden _) => "forbidden_chars"
  | .badHost (.unencodable _ _) => "idna_error"

def Fault.message : Fault → Text
  | .unterminatedLiteral _ => "Unterminated IPv6 literal"
  | .invalidPort port _ => "Invalid port '" ++ port ++ "'"
  | .badHost .empty => "Host is empty"
  | .badHost (.forbidden _) => "Host contains forbidden characters"
  | .badHost (.unencodable _ reason) => "IDNA encoding failed: " ++ reason

def Fault.details : Fault → List (Text × Text)
  | .unterminatedLiteral input => [("raw_input", input)]
  | .invalidPort _ input => [("raw_input", input)]
  | .badHost .empty => []
  | .badHost (.forbidden host) => [("host", host)]
  | .badHost (.unencodable host reason) => [("host", host), ("idna_error", reason)]

/-- A text is rejected for a documented cause, its port is no number that can be read, or the
encoder fails on its host. -/
inductive ParseError
  | rejected (fault : Fault)
  | numeral (fault : NumeralFault)
  | failed (failure : Failure)
  deriving Repr

def ParseError.toFailure : ParseError → Failure
  | .rejected f => .own (.ofTexts .validation f.code f.message f.details)
  | .numeral f => .simple "ValueError" f.message
  | .failed f => f

def ParseError.ofHost : Host.Refusal → ParseError
  | .rejected fault => .rejected (.badHost fault)
  | .failed failure => .failed failure

/-- The host and the text of the port, empty if there is none. -/
def splitParts (input : Text) : Except Fault (Text × Text) :=
  let value := strip input
  match value with
  | 91 :: inner =>
    match cut? 93 inner with
    | none => .error (.unterminatedLiteral input)
    | some (host, 58 :: port) => .ok (host, port)
    | some (host, _) => .ok (host, [])
  | _ =>
    if value.count 58 = 1 then .ok ((cut? 58 value).getD (value, [])) else .ok (value, [])

def readPort (input port : Text) : Except ParseError (Option Nat) :=
  if port.isEmpty then .ok none
  else if !port.all isDigit then .error (.rejected (.invalidPort port input))
  else match readNumeral port with
    | .error fault => .error (.numeral fault)
    | .ok n =>
      if 0 < n && n < 65536 then .ok (some n) else .error (.rejected (.invalidPort port input))

def splitHostPort (input : Text) : Except ParseError (Text × Option Nat) := do
  let (host, port) ← (splitParts input).mapError .rejected
  let port ← readPort input port
  return (host, port)

def parse (encode : Host.Encoder) (input : Text) : Except ParseError Target := do
  let (host, port) ← splitHostPort input
  let host ← (Host.normalize encode host).mapError .ofHost
  return { host, port := port.map Int.ofNat, domain := Host.registeredDomain host }

end Target
end Detour
