import Detour.Failure
import Detour.Text.Utf8

/-!
# Faults of file operations

An operation fails for a cause that the file system has a number for, because it is refused, or
because its path cannot be handed to the file system at all.
-/
namespace Detour.Files

inductive Cause
  | noEntry
  | busy
  | alreadyExists
  | notDirectory
  | isDirectory
  | nameTooLong
  deriving DecidableEq, Repr

def Cause.number : Cause → Nat
  | .noEntry => 2
  | .busy => 16
  | .alreadyExists => 17
  | .notDirectory => 20
  | .isDirectory => 21
  | .nameTooLong => 36

def Cause.reason : Cause → Text
  | .noEntry => "No such file or directory"
  | .busy => "Device or resource busy"
  | .alreadyExists => "File exists"
  | .notDirectory => "Not a directory"
  | .isDirectory => "Is a directory"
  | .nameTooLong => "File name too long"

/-- An operation that was not allowed to happen, for lack of permission or for another reason. -/
structure Refusal where
  permission : Bool
  message : Text
  deriving DecidableEq, Repr

def Refusal.kind (r : Refusal) : Text :=
  match r.permission with
  | true => "PermissionError"
  | false => "OSError"

inductive Fault
  /-- The path, and the target of a renaming. -/
  | system (cause : Cause) (path : Text) (target : Option Text)
  | refused (refusal : Refusal)
  | nullOctet
  | unencodable (error : Utf8.EncodeError)
  deriving DecidableEq, Repr

namespace Fault

/-- Faults of the file system itself, as opposed to paths that never reach it. -/
def isSystem : Fault → Bool
  | .system .. | .refused _ => true
  | _ => false

def isPermission : Fault → Bool
  | .refused r => r.permission
  | _ => false

def toFailure : Fault → Failure
  | .system cause path target =>
    let numbered : List Json :=
      [.ofInt cause.number, .string cause.reason, .string path]
    .other "OSError" (match target with
      | none => numbered
      | some t => numbered ++ [.null, .string t])
  | .refused r => .simple r.kind r.message
  | .nullOctet => .simple "ValueError" "embedded null byte"
  | .unencodable e => .simple "UnicodeEncodeError" e.message

def message (f : Fault) : Text := f.toFailure.text

end Fault

/-- The octets of a path text. -/
def pathOctets (t : Text) : Except Fault Octets :=
  match Utf8.encodeEscaping t with
  | .error e => .error (.unencodable e)
  | .ok octets => if octets.contains 0 then .error .nullOctet else .ok octets

end Detour.Files
