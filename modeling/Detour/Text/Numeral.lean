import Detour.Text.Quoted

/-!
# Reading whole numbers

A numeral is a text of decimal digits of any script. Very long ones are refused before they are
converted.
-/
namespace Detour.Text

def numeralLimit : Nat := 4300

inductive NumeralFault
  | tooLong (digits : Nat)
  | notDecimal (text : Text)
  deriving DecidableEq, Repr

def NumeralFault.message : NumeralFault → Text
  | .tooLong digits =>
    "Exceeds the limit (4300 digits) for integer string conversion: value has " ++ ofNat digits ++
      " digits; use sys.set_int_max_str_digits() to increase the limit"
  | .notDecimal text => "invalid literal for int() with base 10: " ++ (quoted text).take 200

def readNumeral (t : Text) : Except NumeralFault Nat :=
  let leading := (t.map decimalValue?).takeWhile Option.isSome
  if numeralLimit < leading.length then .error (.tooLong leading.length)
  else match t.mapM decimalValue? with
    | some digits => .ok (digitsValue digits)
    | none => .error (.notDecimal t)

end Detour.Text
