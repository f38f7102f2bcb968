import Detour.Json.Value
import Detour.Text.LowerCase

/-!
# Masking

The value under a sensitive key is hidden, whatever it is. A key is sensitive if its lower-case form
contains one of the sensitive words. Objects are followed through other objects and through the
arrays that stand in them; an array inside an array is left as it is.
-/
namespace Detour.Log

open Text

def sensitiveWords : List Text :=
  ["token", "secret", "password", "api_key", "auth", "authorization", "credential", "credentials",
   "private_key", "access_token", "cookie"]

def isSensitive (key : Text) : Bool :=
  let key := lower key
  sensitiveWords.any fun w => containsText w key

def maskText : Text := "***MASKED***"

mutual

def mask : Json → Json
  | .object members => .object (maskMembers members)
  | v => v

def maskMembers : List (Text × Json) → List (Text × Json)
  | [] => []
  | (key, v) :: r =>
    (key, if isSensitive key then .string maskText else maskValue v) :: maskMembers r

def maskValue : Json → Json
  | .object members => .object (maskMembers members)
  | .array items => .array (maskItems items)
  | v => v

def maskItems : List Json → List Json
  | [] => []
  | x :: xs => mask x :: maskItems xs

end

end Detour.Log
