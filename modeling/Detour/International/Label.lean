import Detour.International.Composition
import Detour.Text.Quoted

/-!
# Labels of a host name

What a label may contain: characters of the valid class, a joiner or contextual character where its
neighbours allow it, and directions that make sense together. Every refusal is a cause of its own;
positions count from one.
-/
namespace Detour.International

open Text

inductive LabelFault
  | empty
  | tooLong
  | notComposed
  | misplacedHyphens
  | outerHyphen
  | leadingMark
  | joiner (c : CodePoint) (position : Nat) (label : Text)
  | contextual (c : CodePoint) (position : Nat) (label : Text)
  | invalid (c : CodePoint) (position : Nat) (label : Text)
  | unknownDirection (position : Nat) (label : Text)
  | firstDirection (label : Text)
  | direction (rightToLeft : Bool) (position : Nat)
  | mixedNumerals
  | lastDirection
  deriving DecidableEq, Repr

def codePointName (c : CodePoint) : Text := "U+" ++ hexDigits true 4 c

def sideName (rightToLeft : Bool) : Text :=
  if rightToLeft then "right-to-left" else "left-to-right"

def LabelFault.message : LabelFault → Text
  | .empty => "Empty Label"
  | .tooLong => "Label too long"
  | .notComposed => "Label must be in Normalization Form C"
  | .misplacedHyphens => "Label has disallowed hyphens in 3rd and 4th position"
  | .outerHyphen => "Label must not start or end with a hyphen"
  | .leadingMark => "Label begins with an illegal combining character"
  | .joiner c p l =>
    "Joiner " ++ codePointName c ++ " not allowed at position " ++ ofNat p ++ " in " ++ quoted l
  | .contextual c p l =>
    "Codepoint " ++ codePointName c ++ " not allowed at position " ++ ofNat p ++ " in " ++ quoted l
  | .invalid c p l =>
    "Codepoint " ++ codePointName c ++ " at position " ++ ofNat p ++ " of " ++ quoted l ++
      " not allowed"
  | .unknownDirection p l =>
    "Unknown directionality in label " ++ quoted l ++ " at position " ++ ofNat p
  | .firstDirection l =>
    "First codepoint in label " ++ quoted l ++ " must be directionality L, R or AL"
  | .direction rightToLeft p =>
    "Invalid direction for codepoint at position " ++ ofNat p ++ " in a " ++ sideName rightToLeft ++
      " label"
  | .mixedNumerals => "Can not mix numeral types in a right-to-left label"
  | .lastDirection => "Label ends with illegal codepoint directionality"

/-- The class of a refusal. -/
def LabelFault.kind : LabelFault → Text
  | .joiner .. | .contextual .. => "InvalidCodepointContext"
  | .invalid .. => "InvalidCodepoint"
  | .unknownDirection .. | .firstDirection .. | .direction .. | .mixedNumerals | .lastDirection =>
    "IDNABidiError"
  | _ => "IDNAError"

/-! ## Characters that depend on their neighbours -/

/-- The first joining type that is not transparent. -/
def joinsWith (types : List Joining) : Text → Bool
  | [] => false
  | c :: r =>
    let j := (property c).joining
    if j = .transparent then joinsWith types r else types.contains j

/-- A joiner stands after a virama; a non-joiner also between letters that would join. `before` is
read backwards. -/
def joinerAllowed (c : CodePoint) (before after : Text) : Bool :=
  (match before with
    | d :: _ => combiningClass d == 9
    | [] => false) ||
  (c == 0x200C && joinsWith [.left, .dual] before && joinsWith [.right, .dual] after)

def hasScript (scripts : List Script) (c : CodePoint) : Bool := scripts.contains (property c).script

def isArabicDigit (c : CodePoint) : Bool := 0x660 ≤ c && c ≤ 0x669

def isExtendedArabicDigit (c : CodePoint) : Bool := 0x6F0 ≤ c && c ≤ 0x6F9

def contextAllowed (c : CodePoint) (before after : Text) : Bool :=
  if c = 0xB7 then before.head? == some 0x6C && after.head? == some 0x6C
  else if c = 0x375 then after.head?.any (hasScript [.greek])
  else if c = 0x5F3 || c = 0x5F4 then before.head?.any (hasScript [.hebrew])
  else if c = 0x30FB then
    (before ++ after).any fun d => d ≠ 0x30FB && hasScript [.hiragana, .katakana, .han] d
  else if isArabicDigit c then !(before ++ after).any isExtendedArabicDigit
  else if isExtendedArabicDigit c then !(before ++ after).any isArabicDigit
  else false

/-- Checks each character of `label`, of which `before` has been passed, latest first. -/
def checkCharacters (label before : Text) : Text → Except LabelFault Unit
  | [] => .ok ()
  | c :: after =>
    let position := before.length + 1
    match (property c).labelClass with
    | .valid => checkCharacters label (c :: before) after
    | .joiner =>
      if joinerAllowed c before after then checkCharacters label (c :: before) after
      else .error (.joiner c position label)
    | .contextual =>
      if contextAllowed c before after then checkCharacters label (c :: before) after
      else .error (.contextual c position label)
    | .other => .error (.invalid c position label)

/-! ## Directions -/

def direction (c : CodePoint) : Direction := (property c).direction

def rightward : List Direction := [.l, .en, .es, .cs, .et, .on, .bn, .nsm]

def leftward : List Direction := [.r, .al, .an, .en, .es, .cs, .et, .on, .bn, .nsm]

/-- Checks directions from a position on; `numeral` is the first kind of digit seen. -/
def checkDirections (rightToLeft : Bool) (position : Nat) (numeral : Option Direction) :
    List Direction → Except LabelFault Unit
  | [] => .ok ()
  | d :: r =>
    if !(if rightToLeft then leftward else rightward).contains d then
      .error (.direction rightToLeft position)
    else if rightToLeft && (d == .an || d == .en) then
      if numeral.any (· != d) then .error .mixedNumerals
      else checkDirections rightToLeft (position + 1) (some d) r
    else checkDirections rightToLeft (position + 1) numeral r

def endsWell (rightToLeft : Bool) (directions : List Direction) : Bool :=
  match directions.reverse.dropWhile (· == .nsm) with
  | [] => false
  | d :: _ => (if rightToLeft then [.r, .al, .en, .an] else [.l, .en]).contains d

/-- The rules of direction bind only labels with a right-to-left character or numeral. -/
def checkBidirectional (label : Text) : Except LabelFault Unit :=
  let directions := label.map direction
  match directions.findIdx? (· == .unknown) with
  | some i => .error (.unknownDirection (i + 1) label)
  | none =>
    if !directions.any ([.r, .al, .an].contains ·) then .ok ()
    else match directions with
      | [] => .ok ()
      | d :: _ =>
        if !([.r, .al, .l].contains d) then .error (.firstDirection label)
        else do
          let rightToLeft := d != .l
          checkDirections rightToLeft 1 none directions
          if endsWell rightToLeft directions then .ok () else .error .lastDirection

def checkLabel (label : Text) : Except LabelFault Unit :=
  match label with
  | [] => .error .empty
  | first :: _ =>
    if 254 < label.length then .error .tooLong
    else if !isComposedForm label then .error .notComposed
    else if (label.drop 2).take 2 = [45, 45] then .error .misplacedHyphens
    else if first = 45 || label.getLast? = some 45 then .error .outerHyphen
    else if (property first).mark then .error .leadingMark
    else do
      checkCharacters label [] label
      checkBidirectional label

end Detour.International
