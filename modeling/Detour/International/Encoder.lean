import Detour.Host.Name
import Detour.International.Label
import Detour.International.Punycode

/-!
# An encoder of international names

The encoder that the program is run with. A host name with characters beyond ASCII is mapped,
composed and written label by label in ASCII; labels that are ASCII already are checked and kept.
The characters are those of a selection (`International.property`), and names with others are
refused.

## Main definitions

* `International.encoder`.
-/
namespace Detour.International

open Text

inductive NameFault
  | domainTooLong
  | refused (c : CodePoint) (position : Nat) (host : Text)
  | emptyDomain
  | labelTooLong
  | noEncodedContent
  | trailingHyphen
  | undecodable
  | notCanonical
  | label (fault : LabelFault)
  deriving DecidableEq, Repr

def NameFault.message : NameFault → Text
  | .domainTooLong => "Domain too long"
  | .refused c p host =>
    "Codepoint " ++ codePointName c ++ " not allowed at position " ++ ofNat p ++ " in " ++
      quoted host
  | .emptyDomain => "Empty domain"
  | .labelTooLong => "Label too long"
  | .noEncodedContent => "Malformed A-label, no Punycode eligible content found"
  | .trailingHyphen => "A-label must not end with a hyphen"
  | .undecodable => "Invalid A-label"
  | .notCanonical => "A-label is not the canonical Punycode encoding of its U-label"
  | .label fault => fault.message

def NameFault.kind : NameFault → Text
  | .refused .. => "InvalidCodepoint"
  | .label fault => fault.kind
  | _ => "IDNAError"

/-- Maps the characters of `host` from a position on; ASCII is kept as it is. -/
def mapFrom (host : Text) (position : Nat) : Text → Except NameFault Text
  | [] => .ok []
  | c :: r =>
    if c < 128 then (mapFrom host (position + 1) r).map (c :: ·)
    else match (property c).admission with
      | .kept => (mapFrom host (position + 1) r).map (c :: ·)
      | .replaced t => (mapFrom host (position + 1) r).map (t ++ ·)
      | .dropped => mapFrom host (position + 1) r
      | .refused => .error (.refused c position host)

def mapHost (host : Text) : Except NameFault Text := (mapFrom host 1 host).map composedForm

/-- The ideographic full stops count as dots. -/
def isDot (c : CodePoint) : Bool := c == 46 || c == 0x3002 || c == 0xFF0E || c == 0xFF61

def labels (host : Text) : List Text :=
  splitOn 46 (host.map fun c => if isDot c then 46 else c)

/-- The mark of a label in its encoded form. -/
def encodedMark : Text := "xn--"

def check (label : Text) : Except NameFault Unit := (checkLabel label).mapError .label

def checkEncoded (content : Text) : Except NameFault Unit :=
  if content.isEmpty then .error .noEncodedContent
  else if content.getLast? = some 45 then .error .trailingHyphen
  else match Punycode.decode? content with
    | none => .error .undecodable
    | some label =>
      if Punycode.encode label ≠ content then .error .notCanonical
      else check label

/-- Checks a label that is ASCII already. -/
def checkAscii (label : Text) : Except NameFault Unit :=
  if encodedMark.isPrefixOf label then checkEncoded (label.drop 4) else check label

def encodeLabel (label : Text) : Except NameFault Text :=
  if 1024 < label.length then .error .labelTooLong
  else if isAscii label then do
    checkAscii label
    if 63 < label.length then .error .labelTooLong else .ok label
  else do
    check label
    let encoded := encodedMark ++ Punycode.encode label
    if 63 < encoded.length then .error .labelTooLong else .ok encoded

/-- The labels of a host name, and whether a dot ends it. -/
def nameLabels (host : Text) : Except NameFault (List Text × Bool) :=
  if 254 < host.length then .error .domainTooLong
  else
    let parts := labels host
    if parts = [[]] then .error .emptyDomain
    else if parts.getLast? = some [] then .ok (parts.dropLast, true)
    else .ok (parts, false)

def encodeMapped (host : Text) : Except NameFault Text := do
  let (parts, trailing) ← nameLabels host
  let encoded ← parts.mapM encodeLabel
  let name := joinWith [46] (if trailing then encoded ++ [[]] else encoded)
  if (if trailing then 254 else 253) < name.length then .error .domainTooLong
  else .ok name

/-- Checks a name that is ASCII already. -/
def checkAsciiName (host : Text) : Except NameFault Unit := do
  let (parts, _) ← nameLabels host
  parts.forM fun label => checkAscii (label.map asciiLower)

/-- The ASCII form of a host name. -/
def toAscii (host : Text) : Except NameFault Text :=
  if 1024 < host.length then .error .domainTooLong
  else do
    let mapped ← mapHost host
    encodeMapped mapped

def encoder : Host.Encoder := fun host => (toAscii host).mapError fun f => .refused f.message

end Detour.International
