import Detour.Text.Quoted

/-!
# UTF-8

Octets are read and written in two ways. Strictly, anything ill-formed is an error with its
position. With escapes, every octet that belongs to no well-formed sequence is carried as the
surrogate `U+DC00` plus the octet, and is written back as that octet.
-/
namespace Detour

abbrev Octets := List UInt8

namespace Utf8

inductive DecodeCause
  | badStart | badContinuation | truncated
  deriving DecidableEq, Repr

/-- What stands at the front of some octets: a character or a fault, each with the number of octets
it takes after the first. -/
inductive Front
  | character (c : CodePoint) (more : Nat)
  | fault (cause : DecodeCause) (more : Nat)
  deriving DecidableEq, Repr

def isContinuation (b : UInt8) : Bool := 0x80 ≤ b && b ≤ 0xBF

def low6 (b : UInt8) : Nat := b.toNat % 64

/-- The bounds of the second octet rule out overlong forms, surrogates and what lies beyond
`U+10FFFF`. -/
def secondBounds (lead : UInt8) : UInt8 × UInt8 :=
  if lead = 0xE0 then (0xA0, 0xBF)
  else if lead = 0xED then (0x80, 0x9F)
  else if lead = 0xF0 then (0x90, 0xBF)
  else if lead = 0xF4 then (0x80, 0x8F)
  else (0x80, 0xBF)

def isSecond (lead b : UInt8) : Bool :=
  let (lo, hi) := secondBounds lead
  lo ≤ b && b ≤ hi

def front (a : UInt8) (rest : Octets) : Front :=
  if a < 0x80 then .character a.toNat 0
  else if a < 0xC2 || 0xF4 < a then .fault .badStart 0
  else match rest with
    | [] => .fault .truncated 0
    | b :: rest =>
      if !isSecond a b then .fault .badContinuation 0
      else if a < 0xE0 then .character (a.toNat % 32 * 64 + low6 b) 1
      else match rest with
        | [] => .fault .truncated 1
        | c :: rest =>
          if !isContinuation c then .fault .badContinuation 1
          else if a < 0xF0 then .character ((a.toNat % 16 * 64 + low6 b) * 64 + low6 c) 2
          else match rest with
            | [] => .fault .truncated 2
            | d :: _ =>
              if !isContinuation d then .fault .badContinuation 2
              else .character (((a.toNat % 8 * 64 + low6 b) * 64 + low6 c) * 64 + low6 d) 3

def escapeOctet (b : UInt8) : CodePoint := 0xDC00 + b.toNat

/-- Reads octets, with a text in place of every fault. -/
def decodeWith (replacement : Octets → Text) : Octets → Text
  | [] => []
  | a :: rest =>
    match front a rest with
    | .character c more => c :: decodeWith replacement (rest.drop more)
    | .fault _ more =>
      replacement (a :: rest.take more) ++ decodeWith replacement (rest.drop more)
termination_by b => b.length
decreasing_by all_goals rw [List.length_drop, List.length_cons]; omega

def decodeEscaping (octets : Octets) : Text := decodeWith (List.map escapeOctet) octets

/-- A fault becomes one replacement character. -/
def decodeReplacing (octets : Octets) : Text := decodeWith (fun _ => [0xFFFD]) octets

structure DecodeError where
  cause : DecodeCause
  octets : Octets
  position : Nat
  deriving DecidableEq, Repr

def DecodeCause.message : DecodeCause → Text
  | .badStart => "invalid start byte"
  | .badContinuation => "invalid continuation byte"
  | .truncated => "unexpected end of data"

/-- A position, or the closed range of several. -/
def positions (start count : Nat) : Text :=
  Text.ofNat start ++ (if count ≤ 1 then [] else 45 :: Text.ofNat (start + count - 1))

def DecodeError.message (e : DecodeError) : Text :=
  "'utf-8' codec can't decode " ++
  (match e.octets with
    | [b] => "byte 0x" ++ Text.hexDigits false 2 b.toNat
    | _ => ("bytes" : Text)) ++
  " in position " ++ positions e.position e.octets.length ++ ": " ++ e.cause.message

/-- Strict reading; `position` counts the octets already read. -/
def decodeFrom (position : Nat) : Octets → Except DecodeError Text
  | [] => .ok []
  | a :: rest =>
    match front a rest with
    | .character c more => (decodeFrom (position + more + 1) (rest.drop more)).map (c :: ·)
    | .fault cause more => .error ⟨cause, a :: rest.take more, position⟩
termination_by b => b.length
decreasing_by all_goals rw [List.length_drop, List.length_cons]; omega

def decode (octets : Octets) : Except DecodeError Text := decodeFrom 0 octets

def isSurrogate (c : CodePoint) : Bool := 0xD800 ≤ c && c ≤ 0xDFFF

def isEscape (c : CodePoint) : Bool := 0xDC80 ≤ c && c ≤ 0xDCFF

def encodeChar (c : CodePoint) : Octets :=
  let tail (n : Nat) : UInt8 := UInt8.ofNat (0x80 + n % 64)
  if c < 0x80 then [UInt8.ofNat c]
  else if c < 0x800 then [UInt8.ofNat (0xC0 + c / 64), tail c]
  else if c < 0x10000 then [UInt8.ofNat (0xE0 + c / 4096), tail (c / 64), tail c]
  else [UInt8.ofNat (0xF0 + c / 262144), tail (c / 4096), tail (c / 64), tail c]

/-- A run of surrogates that cannot be written. -/
structure EncodeError where
  position : Nat
  run : Text
  deriving DecidableEq, Repr

def EncodeError.message (e : EncodeError) : Text :=
  "'utf-8' codec can't encode " ++
  (match e.run with
    | [c] => "character '" ++ Text.escapeChar 39 c ++ "'"
    | _ => ("characters" : Text)) ++
  " in position " ++ positions e.position e.run.length ++ ": surrogates not allowed"

def encodeFrom (escapes : Bool) (position : Nat) : Text → Except EncodeError Octets
  | [] => .ok []
  | c :: r =>
    if isSurrogate c then
      if escapes && isEscape c then
        (encodeFrom escapes (position + 1) r).map (UInt8.ofNat (c - 0xDC00) :: ·)
      else .error ⟨position, c :: r.takeWhile isSurrogate⟩
    else (encodeFrom escapes (position + 1) r).map (encodeChar c ++ ·)

/-- Strict writing. -/
def encode (t : Text) : Except EncodeError Octets := encodeFrom false 0 t

def encodeEscaping (t : Text) : Except EncodeError Octets := encodeFrom true 0 t

/-- The number of octets a text takes, surrogates counted as three each. -/
def size (t : Text) : Nat := (t.flatMap encodeChar).length

end Utf8
end Detour
