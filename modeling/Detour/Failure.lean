import Detour.Json.Display

/-!
# Failures

A failure of this library belongs to a family and has a code, a message and details. Any other
failure is known by its kind and its arguments; its text follows from these.
-/
namespace Detour

open Text

inductive Family
  | general
  | validation
  | persistence
  | config
  | notification
  deriving DecidableEq, Repr

def Family.name : Family → Text
  | .general => "DomainClassifierError"
  | .validation => "ValidationError"
  | .persistence => "PersistenceError"
  | .config => "ConfigError"
  | .notification => "NotificationError"

def Family.all : List Family := [.general, .validation, .persistence, .config, .notification]

def Family.ofName? (name : Text) : Option Family := Family.all.find? fun f => f.name = name

/-- A failure of this library. -/
structure Report where
  family : Family
  code : Json
  message : Json
  details : Json
  deriving Repr

namespace Report

/-- Empty details of any type become an empty object. -/
def make (family : Family) (code message details : Json) : Report :=
  ⟨family, code, message, if details.isTruthy then details else .object []⟩

/-- A failure with texts for its code, message and details. -/
def ofTexts (family : Family) (code message : Text) (details : Table Text Text) : Report :=
  ⟨family, .string code, .string message, .object (details.map fun (k, v) => (k, .string v))⟩

def display (r : Report) : Text :=
  r.family.name ++ "(code=" ++ r.code.display ++ ", message=" ++ r.message.display ++ ")"

def toJson (r : Report) : Json :=
  .object [("error_type", .string r.family.name), ("code", r.code), ("message", r.message),
    ("details", r.details)]

end Report

inductive Failure
  | own (report : Report)
  | other (kind : Text) (arguments : List Json)
  deriving Repr

namespace Failure

/-- A failure with a single text. -/
def simple (kind message : Text) : Failure := .other kind [.string message]

/-- The kinds of system failures; each may carry an error number, a reason and file names. -/
def systemKinds : List Text :=
  ["OSError", "BlockingIOError", "ChildProcessError", "ConnectionError", "BrokenPipeError",
   "ConnectionAbortedError", "ConnectionRefusedError", "ConnectionResetError", "FileExistsError",
   "FileNotFoundError", "InterruptedError", "IsADirectoryError", "NotADirectoryError",
   "PermissionError", "ProcessLookupError", "TimeoutError"]

/-- The error numbers that have a kind of their own. -/
def numberedKinds : Table Int Text :=
  [(1, "PermissionError"), (2, "FileNotFoundError"), (3, "ProcessLookupError"),
   (4, "InterruptedError"), (10, "ChildProcessError"), (11, "BlockingIOError"),
   (13, "PermissionError"), (17, "FileExistsError"), (20, "NotADirectoryError"),
   (21, "IsADirectoryError"), (32, "BrokenPipeError"), (103, "ConnectionAbortedError"),
   (104, "ConnectionResetError"), (108, "BrokenPipeError"), (110, "TimeoutError"),
   (111, "ConnectionRefusedError"), (114, "BlockingIOError"), (115, "BlockingIOError")]

def hasSystemForm (arguments : List Json) : Bool := 2 ≤ arguments.length && arguments.length ≤ 5

def errorNumber? : Json → Option Int
  | .number (.int n) => some n
  | .bool b => some (if b then 1 else 0)
  | _ => none

/-- The plain system kind becomes the kind of its error number. -/
def kindOf (kind : Text) (arguments : List Json) : Text :=
  if kind = "OSError" && hasSystemForm arguments then
    match arguments.head?.bind errorNumber? with
    | some n => (numberedKinds.get? n).getD kind
    | none => kind
  else kind

def kind : Failure → Text
  | .own r => r.family.name
  | .other kind arguments => kindOf kind arguments

/-- Whether a failure tells how much was done before it would have had to wait. -/
def tellsProgress (kind : Text) (arguments : List Json) : Bool :=
  hasSystemForm arguments && kindOf kind arguments = "BlockingIOError" &&
  (match arguments.drop 2 with
    | .number _ :: _ | .bool _ :: _ => true
    | _ => false)

/-- Whether a whole number fits into a signed machine word. -/
def isWord (n : Int) : Bool := -9223372036854775808 ≤ n && n < 9223372036854775808

/-- The plain system kind has three names. -/
def canonicalKind (name : Text) : Text :=
  if name = "IOError" || name = "EnvironmentError" then "OSError" else name

/-- A failure from its arguments. Progress has to be a whole number of moderate size. -/
def ofArguments (name : Text) (arguments : List Json) : Except Failure Failure :=
  let kind := canonicalKind name
  if tellsProgress kind arguments then
    match arguments.drop 2 with
    | .number (.float _) :: _ =>
      .error (.simple "TypeError" "'float' object cannot be interpreted as an integer")
    | .number (.int n) :: _ =>
      if isWord n then .ok (.other kind arguments)
      else .error (.simple "ValueError" "cannot fit 'int' into an index-sized integer")
    | _ => .ok (.other kind arguments)
  else .ok (.other kind arguments)

def argumentList : List Json → Text
  | [] => "()"
  | [x] => "(" ++ x.display ++ ",)"
  | xs => "(" ++ Json.displayItems xs ++ ")"

def argumentsText : List Json → Text
  | [] => []
  | [x] => x.plain
  | xs => argumentList xs

/-- The file names of a system failure, absent ones skipped. -/
def fileNames : List Json → Text
  | first :: more =>
    match first, more with
    | .null, _ => []
    | first, [_, .null] => ": " ++ first.display
    | first, [_, second] => ": " ++ first.display ++ " -> " ++ second.display
    | first, _ => ": " ++ first.display
  | [] => []

def systemText (named : Bool) : List Json → Text
  | number :: reason :: names =>
    "[Errno " ++ number.plain ++ "] " ++ reason.plain ++ (if named then fileNames names else [])
  | arguments => argumentsText arguments

def text : Failure → Text
  | .own r => r.message.plain
  | .other kind arguments =>
    if systemKinds.contains kind && hasSystemForm arguments then
      systemText (!tellsProgress kind arguments) arguments
    else match arguments with
      | [x] => if kind = "KeyError" then x.display else x.plain
      | _ => argumentsText arguments

/-- The code that goes into a log: only the library's own failures and exits have one, and only a
text. -/
def code? : Failure → Option Text
  | .own r => match r.code with
    | .string code => some code
    | _ => none
  | .other kind [.string code] => if kind = "SystemExit" then some code else none
  | .other _ _ => none

end Failure
end Detour
