import Detour.Text.Utf8

/-!
# Octets in ASCII

Two ways to write octets with printable characters.

A character that may not stand as it is in a part of a URL is written as its UTF-8 octets, each a
percent sign and two hexadecimal digits. The percent sign itself always stands, so what is written
already is not written again.

In base 64, three octets are written as four characters of six bits each. One or two octets at the
end are filled up with zero bits, and equals signs stand for the characters that are missing.

## Main definitions

* `Percent.encode` — a text with some printable characters, and all that are not, written so.
* `Percent.decode` — the text behind such a text.
* `Base64.encode`.
-/
namespace Detour.Percent

open Text

def isPrintable (c : CodePoint) : Bool := 0x20 ≤ c && c ≤ 0x7E

def octetText (b : UInt8) : Text := 37 :: hexDigits true 2 b.toNat

def encodeChar (escaped : List CodePoint) (c : CodePoint) : Except Utf8.EncodeError Text :=
  if isPrintable c && !escaped.contains c then .ok [c]
  else (Utf8.encode [c]).map fun octets => octets.flatMap octetText

def encode (escaped : List CodePoint) (t : Text) : Except Utf8.EncodeError Text :=
  (t.mapM (encodeChar escaped)).map List.flatten

/-- The octets of an ASCII text; a percent sign without two digits stands for itself. -/
def octets : Text → Octets
  | [] => []
  | c :: r =>
    match c, r with
    | 37, a :: b :: rest =>
      match hexValue? a, hexValue? b with
      | some x, some y => UInt8.ofNat (16 * x + y) :: octets rest
      | _, _ => 37 :: octets (a :: b :: rest)
    | c, r => UInt8.ofNat c :: octets r

def decode (t : Text) : Text := Utf8.decodeReplacing (octets t)

end Detour.Percent

namespace Detour.Base64

open Text

def sixBits (n : Nat) : CodePoint :=
  if n < 26 then n + 65
  else if n < 52 then n + 71
  else if n < 62 then n - 4
  else if n = 62 then 43
  else 47

def encode : Octets → Text
  | [] => []
  | [a] => [sixBits (a.toNat / 4), sixBits (a.toNat % 4 * 16), 61, 61]
  | [a, b] =>
    [sixBits (a.toNat / 4), sixBits (a.toNat % 4 * 16 + b.toNat / 16),
      sixBits (b.toNat % 16 * 4), 61]
  | a :: b :: c :: rest =>
    sixBits (a.toNat / 4) :: sixBits (a.toNat % 4 * 16 + b.toNat / 16) ::
      sixBits (b.toNat % 16 * 4 + c.toNat / 64) :: sixBits (c.toNat % 64) :: encode rest

end Detour.Base64
