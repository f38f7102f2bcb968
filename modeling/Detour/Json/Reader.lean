import Detour.Failure
import Detour.Number.Reader

/-!
# Reading JSON

A document is one value between white space. Infinity and not-a-number are admitted. A fault is
reported with its line, column and offset; it is kept here as the text that was left to read where
the fault was found. A numeral that is too long and nesting that is too deep are failures of other
kinds.

## Main definitions

* `Json.value` — one value at the front of a text.
* `Json.document` — a whole document.
-/
namespace Detour.Json

open Text

inductive Cause
  | value
  | name
  | colon
  | comma
  | extra
  | unterminated
  | control
  | escape
  | codeUnit
  | byteOrderMark
  deriving DecidableEq, Repr

inductive Fault
  /-- A syntax fault with the text left to read. -/
  | found (cause : Cause) (rest : Text)
  | numeral (fault : NumeralFault)
  | tooDeep (inObject : Bool)
  deriving DecidableEq, Repr

def skipSpace (t : Text) : Text := t.dropWhile fun c => c == 32 || c == 9 || c == 10 || c == 13

/-! ## Strings -/

/-- The code unit of four hexadecimal digits. -/
def codeUnit? (t : Text) : Option Nat :=
  let digits := t.take 4
  if digits.length < 4 then none
  else (digits.mapM hexValue?).map fun ds => ds.foldl (fun n d => 16 * n + d) 0

def simpleEscape? (c : CodePoint) : Option CodePoint :=
  if c = 34 || c = 92 || c = 47 then some c
  else if c = 98 then some 8
  else if c = 102 then some 12
  else if c = 110 then some 10
  else if c = 114 then some 13
  else if c = 116 then some 9
  else none

def isHighSurrogate (c : CodePoint) : Bool := 0xD800 ≤ c && c ≤ 0xDBFF

def isLowSurrogate (c : CodePoint) : Bool := 0xDC00 ≤ c && c ≤ 0xDFFF

/-- The character after `\u`, which two code units may make up together, and the rest. `after` is
the text from the `u` on. -/
def unicodeEscape (after : Text) : Except Fault (CodePoint × Text) :=
  let digits := after.drop 1
  match if (digits.take 5).length < 5 then none else codeUnit? digits with
  | none => .error (.found .codeUnit after)
  | some high =>
    let rest := digits.drop 4
    match rest with
    | 92 :: 117 :: second =>
      if isHighSurrogate high && (second.take 5).length = 5 then
        match codeUnit? second with
        | none => .error (.found .codeUnit (117 :: second))
        | some low =>
          if isLowSurrogate low then
            .ok (0x10000 + (high - 0xD800) * 1024 + (low - 0xDC00), second.drop 4)
          else .ok (high, rest)
      else .ok (high, rest)
    | _ => .ok (high, rest)

/-- The characters up to the closing quote; `start` is the text from the opening quote on and `done`
what was read, backwards. A round takes at least one character, so the length of the text bounds
their number. -/
def stringRounds (start done : Text) : Nat → Text → Except Fault (Text × Text)
  | 0, _ => .error (.found .unterminated start)
  | rounds + 1, t =>
    match t with
    | [] => .error (.found .unterminated start)
    | 34 :: r => .ok (done.reverse, r)
    | [92] => .error (.found .unterminated start)
    | 92 :: 117 :: r =>
      match unicodeEscape (117 :: r) with
      | .error f => .error f
      | .ok (c, rest) => stringRounds start (c :: done) rounds rest
    | 92 :: c :: r =>
      match simpleEscape? c with
      | none => .error (.found .escape t)
      | some c => stringRounds start (c :: done) rounds r
    | c :: r =>
      if c < 32 then .error (.found .control t) else stringRounds start (c :: done) rounds r

/-- The string whose opening quote has been read. -/
def stringBody (t : Text) : Except Fault (Text × Text) :=
  stringRounds (34 :: t) [] (t.length + 1) t

/-! ## Numbers -/

def isAsciiDigit (c : CodePoint) : Bool := 48 ≤ c && c ≤ 57

/-- The digits before the point: a zero, or digits that do not start with one. -/
def wholeDigits : Text → Text
  | [] => []
  | c :: r => if c = 48 then [c] else if isAsciiDigit c then c :: r.takeWhile isAsciiDigit else []

/-- A point with at least one digit. -/
def fractionPart : Text → Text
  | 46 :: r =>
    let ds := r.takeWhile isAsciiDigit
    if ds.isEmpty then [] else 46 :: ds
  | _ => []

/-- An exponent mark, an optional sign and at least one digit. -/
def exponentPart : Text → Text
  | c :: r =>
    if c = 101 || c = 69 then
      let sign := (r.take 1).filter fun s => s == 43 || s == 45
      let ds := (r.drop sign.length).takeWhile isAsciiDigit
      if ds.isEmpty then [] else c :: sign ++ ds
    else []
  | [] => []

/-- A number at the front of a text; without a fraction and an exponent it is whole. -/
def readNumber (t : Text) : Except Fault (Json × Text) :=
  let sign := (t.take 1).filter (· == 45)
  let whole := wholeDigits (t.drop sign.length)
  if whole.isEmpty then .error (.found .value t)
  else
    let rest := t.drop (sign.length + whole.length)
    let fraction := fractionPart rest
    let rest := rest.drop fraction.length
    let exponent := exponentPart rest
    let rest := rest.drop exponent.length
    if fraction.isEmpty && exponent.isEmpty then
      match readNumeral whole with
      | .error f => .error (.numeral f)
      | .ok n => .ok (ofInt (if sign.isEmpty then n else -(n : Int)), rest)
    else
      match Binary64.ofText? (sign ++ whole ++ fraction ++ exponent) with
      | some x => .ok (.number (.float x), rest)
      | none => .error (.found .value t)

/-! ## Values -/

/-- The values that are spelled by a word. -/
def words : List (Text × Json) :=
  [("null", .null), ("true", .bool true), ("false", .bool false), ("NaN", .number (.float .nan)),
   ("Infinity", .number (.float (.infinite false))),
   ("-Infinity", .number (.float (.infinite true)))]

def word? (t : Text) : Option (Json × Text) :=
  (words.find? fun (w, _) => w.isPrefixOf t).map fun (w, v) => (v, t.drop w.length)

/-- The items of an array up to its closing bracket, each read by `item`. -/
def arrayRounds (item : Text → Except Fault (Json × Text)) (done : List Json) :
    Nat → Text → Except Fault (Json × Text)
  | 0, t => .error (.found .value t)
  | rounds + 1, t =>
    match item t with
    | .error f => .error f
    | .ok (v, rest) =>
      match skipSpace rest with
      | 93 :: r => .ok (.array (v :: done).reverse, r)
      | 44 :: r => arrayRounds item (v :: done) rounds (skipSpace r)
      | r => .error (.found .comma r)

/-- The members of an object up to its closing brace, each value read by `item`. -/
def objectRounds (item : Text → Except Fault (Json × Text)) (done : List (Text × Json)) :
    Nat → Text → Except Fault (Json × Text)
  | 0, t => .error (.found .name t)
  | rounds + 1, t =>
    match t with
    | 34 :: r =>
      match stringBody r with
      | .error f => .error f
      | .ok (name, rest) =>
        match skipSpace rest with
        | 58 :: r =>
          match item (skipSpace r) with
          | .error f => .error f
          | .ok (v, rest) =>
            let done := Table.put name v done
            match skipSpace rest with
            | 125 :: r => .ok (.object done, r)
            | 44 :: r => objectRounds item done rounds (skipSpace r)
            | r => .error (.found .comma r)
        | r => .error (.found .colon r)
    | r => .error (.found .name r)

/-- One value; `depth` levels of containers may be open inside it. -/
def value : (depth : Nat) → Text → Except Fault (Json × Text)
  | depth, t =>
    match t with
    | 34 :: r => (stringBody r).map fun (s, rest) => (.string s, rest)
    | 123 :: r =>
      match depth with
      | 0 => .error (.tooDeep true)
      | depth + 1 =>
        match skipSpace r with
        | 125 :: r => .ok (.object [], r)
        | r => objectRounds (value depth) [] (r.length + 1) r
    | 91 :: r =>
      match depth with
      | 0 => .error (.tooDeep false)
      | depth + 1 =>
        match skipSpace r with
        | 93 :: r => .ok (.array [], r)
        | r => arrayRounds (value depth) [] (r.length + 1) r
    | t =>
      match word? t with
      | some result => .ok result
      | none => readNumber t

/-- The number of containers that may be open at once. -/
def nestingLimit : Nat := 988

def document (t : Text) : Except Fault Json :=
  if t.head? = some 0xFEFF then .error (.found .byteOrderMark t)
  else
    match value nestingLimit (skipSpace t) with
    | .error f => .error f
    | .ok (v, rest) =>
      match skipSpace rest with
      | [] => .ok v
      | r => .error (.found .extra r)

/-! ## Faults in messages -/

def Cause.message : Cause → Text
  | .value => "Expecting value"
  | .name => "Expecting property name enclosed in double quotes"
  | .colon => "Expecting ':' delimiter"
  | .comma => "Expecting ',' delimiter"
  | .extra => "Extra data"
  | .unterminated => "Unterminated string starting at"
  | .control => "Invalid control character at"
  | .escape => "Invalid \\escape"
  | .codeUnit => "Invalid \\uXXXX escape"
  | .byteOrderMark => "Unexpected UTF-8 BOM (decode using utf-8-sig)"

/-- Lines and columns count from one, offsets from zero. -/
def positionText (read : Text) : Text :=
  let line := read.count 10 + 1
  let column := (read.reverse.takeWhile (· != 10)).length + 1
  ": line " ++ ofNat line ++ " column " ++ ofNat column ++ " (char " ++ ofNat read.length ++ ")"

def Fault.message (document : Text) : Fault → Text
  | .found cause rest =>
    cause.message ++ positionText (document.take (document.length - rest.length))
  | .numeral fault => fault.message
  | .tooDeep inObject =>
    "maximum recursion depth exceeded while decoding a JSON " ++
      (if inObject then ofString "object" else ofString "array") ++ " from a unicode string"

def Fault.kind : Fault → Text
  | .found .. => "JSONDecodeError"
  | .numeral _ => "ValueError"
  | .tooDeep _ => "RecursionError"

def Fault.toFailure (document : Text) (f : Fault) : Failure := .simple f.kind (f.message document)

end Detour.Json
