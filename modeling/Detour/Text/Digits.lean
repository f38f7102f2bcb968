import Detour.Text.Basic

/-!
# Digits

A decimal digit has a value in the positional system of its script. Other digit-like characters
(superscripts, circled digits) count as digits in a text but have no decimal value. Numbers are
written with the digits of ASCII.
-/
namespace Detour.Text

/-- The zeros of the decimal digit ranges; each range has ten members in order. -/
def decimalZeros : List CodePoint :=
  [0x30, 0x660, 0x6F0, 0x7C0, 0x966, 0x9E6, 0xA66, 0xAE6, 0xB66, 0xBE6, 0xC66, 0xCE6, 0xD66, 0xDE6,
   0xE50, 0xED0, 0xF20, 0x1040, 0x1090, 0x17E0, 0x1810, 0x1946, 0x19D0, 0x1A80, 0x1A90, 0x1B50,
   0x1BB0, 0x1C40, 0x1C50, 0xA620, 0xA8D0, 0xA900, 0xA9D0, 0xA9F0, 0xAA50, 0xABF0, 0xFF10, 0x104A0,
   0x10D30, 0x11066, 0x110F0, 0x11136, 0x111D0, 0x112F0, 0x11450, 0x114D0, 0x11650, 0x116C0,
   0x11730, 0x118E0, 0x11950, 0x11C50, 0x11D50, 0x11DA0, 0x16A60, 0x16AC0, 0x16B50, 0x1D7CE,
   0x1D7D8, 0x1D7E2, 0x1D7EC, 0x1D7F6, 0x1E140, 0x1E2F0, 0x1E950, 0x1FBF0]

def decimalValue? (c : CodePoint) : Option Nat :=
  (decimalZeros.find? fun z => z ≤ c && c < z + 10).map (c - ·)

/-- Digit-like characters outside the decimal ranges, as closed intervals. -/
def otherDigits : List (CodePoint × CodePoint) :=
  [(0xB2, 0xB3), (0xB9, 0xB9), (0x1369, 0x1371), (0x19DA, 0x19DA), (0x2070, 0x2070),
   (0x2074, 0x2079), (0x2080, 0x2089), (0x2460, 0x2468), (0x2474, 0x247C), (0x2488, 0x2490),
   (0x24EA, 0x24EA), (0x24F5, 0x24FD), (0x24FF, 0x24FF), (0x2776, 0x277E), (0x2780, 0x2788),
   (0x278A, 0x2792), (0x10A40, 0x10A43), (0x10E60, 0x10E68), (0x11052, 0x1105A),
   (0x1F100, 0x1F10A)]

def isDigit (c : CodePoint) : Bool :=
  (decimalValue? c).isSome || isWithin otherDigits c

/-- The value of decimal digits read left to right. -/
def digitsValue (digits : List Nat) : Nat := digits.foldl (fun n d => 10 * n + d) 0

def ofNat (n : Nat) : Text := (Nat.toDigits 10 n).map Char.toNat

def ofInt (n : Int) : Text := if n < 0 then 45 :: ofNat n.natAbs else ofNat n.natAbs

/-- Hexadecimal digits, at least `width` of them. -/
def hexDigits (upper : Bool) (width n : Nat) : Text :=
  let digits := (Nat.toDigits 16 n).map fun d => if upper then asciiUpper d.toNat else d.toNat
  repeated (width - digits.length) 48 ++ digits

def hexValue? (c : CodePoint) : Option Nat :=
  if 48 ≤ c && c ≤ 57 then some (c - 48)
  else if 97 ≤ c && c ≤ 102 then some (c - 87)
  else if 65 ≤ c && c ≤ 70 then some (c - 55)
  else none

end Detour.Text
