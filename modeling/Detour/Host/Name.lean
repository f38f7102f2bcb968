import Detour.Failure
import Detour.Host.Address
import Detour.Text.LowerCase

/-!
# Host names

The canonical form of a host: lower case, no outer blanks, no trailing dots, ASCII. A name with
characters beyond ASCII is written in ASCII by an encoder of international names, which is not part
of the program: what is said here of hosts is said for any encoder. The registered domain of a host
is the name that outcomes are learned under.

## Main definitions

* `Host.normalize` — the canonical form, with an encoder.
* `Host.registeredDomain`.
-/
namespace Detour.Host

open Text

/-! ## Encoders -/

/-- Why an encoder gives no name: it refuses the host for a reason, or fails in another way. -/
inductive EncodeFault
  | refused (reason : Text)
  | failed (failure : Failure)
  deriving Repr

/-- The ASCII form of an international name. -/
abbrev Encoder := Text → Except EncodeFault Text

/-! ## Canonical form -/

/-- Control characters, blanks and special signs never stand in a host name. -/
def isForbidden (c : CodePoint) : Bool :=
  c < 32 || c == 127 || isBlank c ||
  (ofString "!@#$%^&*()+=[]\x7b\x7d|\\;\"'<>,?/`~").contains c

inductive Fault
  | empty
  | forbidden (host : Text)
  | unencodable (host reason : Text)
  deriving DecidableEq, Repr

/-- Why a host has no canonical form: for a fault of its own, or because the encoder fails. -/
inductive Refusal
  | rejected (fault : Fault)
  | failed (failure : Failure)
  deriving Repr

/-- A reason of the encoder is a fault of the host. -/
def Refusal.ofEncoding (host : Text) : EncodeFault → Refusal
  | .refused reason => .rejected (.unencodable host reason)
  | .failed failure => .failed failure

def normalize (encode : Encoder) (host : Text) : Except Refusal Text :=
  let host := lower (dropEnd (· == 46) (strip host))
  if host.isEmpty then .error (.rejected .empty)
  else if isAddress host then .ok host
  else if host.any isForbidden || host.contains 58 then .error (.rejected (.forbidden host))
  else if isAscii host then .ok host
  else (encode host).mapError (.ofEncoding host)

/-! ## Registered domain -/

/-- Labels that act as a second-level registry below a two-letter country domain. -/
def registryLabels : List Text := ["co", "com", "net", "org", "gov", "edu", "ac"]

/-- The number of labels in a registered domain. -/
def registeredLength (labels : List Text) : Nat :=
  match labels.reverse with
  | top :: second :: _ :: _ => if top.length = 2 && registryLabels.contains second then 3 else 2
  | _ => 2

/-- Empty for addresses and bare host names. -/
def registeredDomain (host : Text) : Text :=
  let labels := splitOn 46 host
  if host.isEmpty || isAddress host || labels.length < 2 then []
  else joinWith [46] (labels.drop (labels.length - registeredLength labels))

end Detour.Host
