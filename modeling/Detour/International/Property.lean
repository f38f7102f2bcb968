import Detour.Text.Basic

/-!
# Characters of international names

What the encoder of this library knows about characters: the answer of compatibility mapping, the
class within a label, direction, joining, and canonical decomposition. The table is a selection:
some characters have rows of their own, and the letters of some alphabets in which they are alike
go without. All other characters are refused, those of whole scripts among them.
-/
namespace Detour.International

open Text

/-- What the mapping step does with a character. -/
inductive Admission
  | kept
  | replaced (text : Text)
  | dropped
  | refused
  deriving DecidableEq, Repr

/-- Whether a character may stand in a label: always, depending on its neighbours, or never. -/
inductive LabelClass
  | valid
  | joiner
  | contextual
  | other
  deriving DecidableEq, Repr

/-- Bidirectional character types. -/
inductive Direction
  | l | r | al | an | en | es | cs | et | on | bn | nsm | b | s | ws | unknown
  deriving DecidableEq, Repr

/-- Joining types of cursive scripts. -/
inductive Joining
  | none | transparent | causing | left | right | dual
  deriving DecidableEq, Repr

inductive Script
  | other | greek | hebrew | hiragana | katakana | han
  deriving DecidableEq, Repr

structure Property where
  admission : Admission := .kept
  labelClass : LabelClass := .valid
  direction : Direction := .l
  combining : Nat := 0
  joining : Joining := .none
  /-- The full canonical decomposition; empty if there is none. -/
  decomposition : Text := []
  /-- The decomposition composes back to the character. -/
  composed : Bool := false
  script : Script := .other
  mark : Bool := false
  deriving Repr

/-- The rows in ascending order. -/
def properties : List (CodePoint × Property) :=
  [(0x80, { admission := .refused, labelClass := .other, direction := .bn }),
   (0x85, { admission := .refused, labelClass := .other, direction := .b }),
   (0xA0, { admission := .replaced [0x20], labelClass := .other, direction := .cs }),
   (0xA8, { admission := .replaced [0x20, 0x308], labelClass := .other, direction := .on }),
   (0xAA, { admission := .replaced [0x61], labelClass := .other }),
   (0xAD, { admission := .dropped, labelClass := .other, direction := .bn,
            joining := .transparent }),
   (0xAE, { labelClass := .other, direction := .on }),
   (0xB2, { admission := .replaced [0x32], labelClass := .other, direction := .en }),
   (0xB3, { admission := .replaced [0x33], labelClass := .other, direction := .en }),
   (0xB7, { labelClass := .contextual, direction := .on }),
   (0xB9, { admission := .replaced [0x31], labelClass := .other, direction := .en }),
   (0xBD, { admission := .replaced [0x31, 0x2044, 0x32], labelClass := .other, direction := .on }),
   (0xBF, { labelClass := .other, direction := .on }),
   (0xC5, { admission := .replaced [0xE5], labelClass := .other, decomposition := [0x41, 0x30A],
            composed := true }),
   (0xC9, { admission := .replaced [0xE9], labelClass := .other, decomposition := [0x45, 0x301],
            composed := true }),
   (0xD3, { admission := .replaced [0xF3], labelClass := .other, decomposition := [0x4F, 0x301],
            composed := true }),
   (0xDC, { admission := .replaced [0xFC], labelClass := .other, decomposition := [0x55, 0x308],
            composed := true }),
   (0xDF, {}),
   (0xE0, { decomposition := [0x61, 0x300], composed := true }),
   (0xE1, { decomposition := [0x61, 0x301], composed := true }),
   (0xE3, { decomposition := [0x61, 0x303], composed := true }),
   (0xE4, { decomposition := [0x61, 0x308], composed := true }),
   (0xE5, { decomposition := [0x61, 0x30A], composed := true }),
   (0xE7, { decomposition := [0x63, 0x327], composed := true }),
   (0xE8, { decomposition := [0x65, 0x300], composed := true }),
   (0xE9, { decomposition := [0x65, 0x301], composed := true }),
   (0xEB, { decomposition := [0x65, 0x308], composed := true }),
   (0xEC, { decomposition := [0x69, 0x300], composed := true }),
   (0xED, { decomposition := [0x69, 0x301], composed := true }),
   (0xEF, { decomposition := [0x69, 0x308], composed := true }),
   (0xF1, { decomposition := [0x6E, 0x303], composed := true }),
   (0xF2, { decomposition := [0x6F, 0x300], composed := true }),
   (0xF3, { decomposition := [0x6F, 0x301], composed := true }),
   (0xF5, { decomposition := [0x6F, 0x303], composed := true }),
   (0xF6, { decomposition := [0x6F, 0x308], composed := true }),
   (0xF9, { decomposition := [0x75, 0x300], composed := true }),
   (0xFA, { decomposition := [0x75, 0x301], composed := true }),
   (0xFC, { decomposition := [0x75, 0x308], composed := true }),
   (0xFD, { decomposition := [0x79, 0x301], composed := true }),
   (0xFF, { decomposition := [0x79, 0x308], composed := true }),
   (0x103, { decomposition := [0x61, 0x306], composed := true }),
   (0x107, { decomposition := [0x63, 0x301], composed := true }),
   (0x10B, { decomposition := [0x63, 0x307], composed := true }),
   (0x10D, { decomposition := [0x63, 0x30C], composed := true }),
   (0x10F, { decomposition := [0x64, 0x30C], composed := true }),
   (0x111, {}),
   (0x115, { decomposition := [0x65, 0x306], composed := true }),
   (0x117, { decomposition := [0x65, 0x307], composed := true }),
   (0x11B, { decomposition := [0x65, 0x30C], composed := true }),
   (0x11F, { decomposition := [0x67, 0x306], composed := true }),
   (0x121, { decomposition := [0x67, 0x307], composed := true }),
   (0x123, { decomposition := [0x67, 0x327], composed := true }),
   (0x129, { decomposition := [0x69, 0x303], composed := true }),
   (0x12D, { decomposition := [0x69, 0x306], composed := true }),
   (0x130, { admission := .replaced [0x69, 0x307], labelClass := .other,
             decomposition := [0x49, 0x307], composed := true }),
   (0x131, {}),
   (0x133, { admission := .replaced [0x69, 0x6A], labelClass := .other }),
   (0x137, { decomposition := [0x6B, 0x327], composed := true }),
   (0x13A, { decomposition := [0x6C, 0x301], composed := true }),
   (0x13C, { decomposition := [0x6C, 0x327], composed := true }),
   (0x13E, { decomposition := [0x6C, 0x30C], composed := true }),
   (0x140, { admission := .replaced [0x6C, 0xB7], labelClass := .other }),
   (0x141, { admission := .replaced [0x142], labelClass := .other }),
   (0x142, {}),
   (0x144, { decomposition := [0x6E, 0x301], composed := true }),
   (0x146, { decomposition := [0x6E, 0x327], composed := true }),
   (0x148, { decomposition := [0x6E, 0x30C], composed := true }),
   (0x14F, { decomposition := [0x6F, 0x306], composed := true }),
   (0x155, { decomposition := [0x72, 0x301], composed := true }),
   (0x157, { decomposition := [0x72, 0x327], composed := true }),
   (0x159, { decomposition := [0x72, 0x30C], composed := true }),
   (0x15B, { decomposition := [0x73, 0x301], composed := true }),
   (0x15F, { decomposition := [0x73, 0x327], composed := true }),
   (0x161, { decomposition := [0x73, 0x30C], composed := true }),
   (0x163, { decomposition := [0x74, 0x327], composed := true }),
   (0x165, { decomposition := [0x74, 0x30C], composed := true }),
   (0x169, { decomposition := [0x75, 0x303], composed := true }),
   (0x16D, { decomposition := [0x75, 0x306], composed := true }),
   (0x16F, { decomposition := [0x75, 0x30A], composed := true }),
   (0x179, { admission := .replaced [0x17A], labelClass := .other, decomposition := [0x5A, 0x301],
             composed := true }),
   (0x17A, { decomposition := [0x7A, 0x301], composed := true }),
   (0x17C, { decomposition := [0x7A, 0x307], composed := true }),
   (0x17E, { decomposition := [0x7A, 0x30C], composed := true }),
   (0x17F, { admission := .replaced [0x73], labelClass := .other }),
   (0x1C6, { admission := .replaced [0x64, 0x17E], labelClass := .other }),
   (0x1CE, { decomposition := [0x61, 0x30C], composed := true }),
   (0x1D0, { decomposition := [0x69, 0x30C], composed := true }),
   (0x1D2, { decomposition := [0x6F, 0x30C], composed := true }),
   (0x1D4, { decomposition := [0x75, 0x30C], composed := true }),
   (0x1D8, { decomposition := [0x75, 0x308, 0x301], composed := true }),
   (0x1DA, { decomposition := [0x75, 0x308, 0x30C], composed := true }),
   (0x1DC, { decomposition := [0x75, 0x308, 0x300], composed := true }),
   (0x1E7, { decomposition := [0x67, 0x30C], composed := true }),
   (0x1E9, { decomposition := [0x6B, 0x30C], composed := true }),
   (0x1F0, { decomposition := [0x6A, 0x30C], composed := true }),
   (0x1F5, { decomposition := [0x67, 0x301], composed := true }),
   (0x1F9, { decomposition := [0x6E, 0x300], composed := true }),
   (0x1FB, { decomposition := [0x61, 0x30A, 0x301], composed := true }),
   (0x21F, { decomposition := [0x68, 0x30C], composed := true }),
   (0x227, { decomposition := [0x61, 0x307], composed := true }),
   (0x229, { decomposition := [0x65, 0x327], composed := true }),
   (0x22F, { decomposition := [0x6F, 0x307], composed := true }),
   (0x300, { direction := .nsm, combining := 230, joining := .transparent, mark := true }),
   (0x301, { direction := .nsm, combining := 230, joining := .transparent, mark := true }),
   (0x303, { direction := .nsm, combining := 230, joining := .transparent, mark := true }),
   (0x306, { direction := .nsm, combining := 230, joining := .transparent, mark := true }),
   (0x307, { direction := .nsm, combining := 230, joining := .transparent, mark := true }),
   (0x308, { direction := .nsm, combining := 230, joining := .transparent, mark := true }),
   (0x30A, { direction := .nsm, combining := 230, joining := .transparent, mark := true }),
   (0x30C, { direction := .nsm, combining := 230, joining := .transparent, mark := true }),
   (0x323, { direction := .nsm, combining := 220, joining := .transparent, mark := true }),
   (0x327, { direction := .nsm, combining := 202, joining := .transparent, mark := true }),
   (0x338, { direction := .nsm, combining := 1, joining := .transparent, mark := true }),
   (0x34F, { admission := .dropped, labelClass := .other, direction := .nsm,
             joining := .transparent, mark := true }),
   (0x375, { labelClass := .contextual, direction := .on, script := .greek }),
   (0x378, { admission := .refused, labelClass := .other, direction := .unknown }),
   (0x37E, { admission := .replaced [0x3B], labelClass := .other, direction := .on,
             decomposition := [0x3B] }),
   (0x385, { labelClass := .other, direction := .on, decomposition := [0xA8, 0x301],
             composed := true, script := .greek }),
   (0x390, { decomposition := [0x3B9, 0x308, 0x301], composed := true, script := .greek }),
   (0x391, { admission := .replaced [0x3B1], labelClass := .other, script := .greek }),
   (0x394, { admission := .replaced [0x3B4], labelClass := .other, script := .greek }),
   (0x39F, { admission := .replaced [0x3BF], labelClass := .other, script := .greek }),
   (0x3A3, { admission := .replaced [0x3C3], labelClass := .other, script := .greek }),
   (0x3AC, { decomposition := [0x3B1, 0x301], composed := true, script := .greek }),
   (0x3AD, { decomposition := [0x3B5, 0x301], composed := true, script := .greek }),
   (0x3AF, { decomposition := [0x3B9, 0x301], composed := true, script := .greek }),
   (0x3B1, { script := .greek }),
   (0x3B2, { script := .greek }),
   (0x3B3, { script := .greek }),
   (0x3B4, { script := .greek }),
   (0x3B5, { script := .greek }),
   (0x3B9, { script := .greek }),
   (0x3BB, { script := .greek }),
   (0x3BC, { script := .greek }),
   (0x3BF, { script := .greek }),
   (0x3C0, { script := .greek }),
   (0x3C1, { script := .greek }),
   (0x3C2, { script := .greek }),
   (0x3C3, { script := .greek }),
   (0x3CA, { decomposition := [0x3B9, 0x308], composed := true, script := .greek }),
   (0x3CC, { decomposition := [0x3BF, 0x301], composed := true, script := .greek }),
   (0x415, { admission := .replaced [0x435], labelClass := .other }),
   (0x418, { admission := .replaced [0x438], labelClass := .other }),
   (0x41C, { admission := .replaced [0x43C], labelClass := .other }),
   (0x41F, { admission := .replaced [0x43F], labelClass := .other }),
   (0x420, { admission := .replaced [0x440], labelClass := .other }),
   (0x424, { admission := .replaced [0x444], labelClass := .other }),
   (0x430, {}),
   (0x435, {}),
   (0x438, {}),
   (0x439, { decomposition := [0x438, 0x306], composed := true }),
   (0x43C, {}),
   (0x43E, {}),
   (0x43F, {}),
   (0x440, {}),
   (0x442, {}),
   (0x444, {}),
   (0x447, {}),
   (0x450, { decomposition := [0x435, 0x300], composed := true }),
   (0x451, { decomposition := [0x435, 0x308], composed := true }),
   (0x45D, { decomposition := [0x438, 0x300], composed := true }),
   (0x4D1, { decomposition := [0x430, 0x306], composed := true }),
   (0x4D3, { decomposition := [0x430, 0x308], composed := true }),
   (0x4D7, { decomposition := [0x435, 0x306], composed := true }),
   (0x4E5, { decomposition := [0x438, 0x308], composed := true }),
   (0x4E7, { decomposition := [0x43E, 0x308], composed := true }),
   (0x4F5, { decomposition := [0x447, 0x308], composed := true }),
   (0x5B9, { direction := .nsm, combining := 19, joining := .transparent, mark := true,
             script := .hebrew }),
   (0x5D0, { direction := .r, script := .hebrew }),
   (0x5D1, { direction := .r, script := .hebrew }),
   (0x5D2, { direction := .r, script := .hebrew }),
   (0x5D3, { direction := .r, script := .hebrew }),
   (0x5D5, { direction := .r, script := .hebrew }),
   (0x5DC, { direction := .r, script := .hebrew }),
   (0x5DD, { direction := .r, script := .hebrew }),
   (0x5E9, { direction := .r, script := .hebrew }),
   (0x5F3, { labelClass := .contextual, direction := .r, script := .hebrew }),
   (0x5F4, { labelClass := .contextual, direction := .r, script := .hebrew }),
   (0x625, { direction := .al, joining := .right, decomposition := [0x627, 0x655],
             composed := true }),
   (0x627, { direction := .al, joining := .right }),
   (0x628, { direction := .al, joining := .dual }),
   (0x62A, { direction := .al, joining := .dual }),
   (0x62B, { direction := .al, joining := .dual }),
   (0x62E, { direction := .al, joining := .dual }),
   (0x62F, { direction := .al, joining := .right }),
   (0x631, { direction := .al, joining := .right }),
   (0x633, { direction := .al, joining := .dual }),
   (0x635, { direction := .al, joining := .dual }),
   (0x639, { direction := .al, joining := .dual }),
   (0x644, { direction := .al, joining := .dual }),
   (0x645, { direction := .al, joining := .dual }),
   (0x647, { direction := .al, joining := .dual }),
   (0x648, { direction := .al, joining := .right }),
   (0x649, { direction := .al, joining := .dual }),
   (0x64A, { direction := .al, joining := .dual }),
   (0x64B, { direction := .nsm, combining := 27, joining := .transparent, mark := true }),
   (0x655, { direction := .nsm, combining := 220, joining := .transparent, mark := true }),
   (0x660, { labelClass := .contextual, direction := .an }),
   (0x661, { labelClass := .contextual, direction := .an }),
   (0x663, { labelClass := .contextual, direction := .an }),
   (0x664, { labelClass := .contextual, direction := .an }),
   (0x6F0, { labelClass := .contextual, direction := .en }),
   (0x915, {}),
   (0x937, {}),
   (0x94D, { direction := .nsm, combining := 9, joining := .transparent, mark := true }),
   (0x966, {}),
   (0x967, {}),
   (0x1100, { labelClass := .other }),
   (0x110B, { labelClass := .other }),
   (0x1112, { labelClass := .other }),
   (0x1161, { labelClass := .other }),
   (0x1165, { labelClass := .other }),
   (0x116E, { labelClass := .other }),
   (0x11A8, { labelClass := .other }),
   (0x11AB, { labelClass := .other }),
   (0x1E03, { decomposition := [0x62, 0x307], composed := true }),
   (0x1E05, { decomposition := [0x62, 0x323], composed := true }),
   (0x1E09, { decomposition := [0x63, 0x327, 0x301], composed := true }),
   (0x1E0B, { decomposition := [0x64, 0x307], composed := true }),
   (0x1E0D, { decomposition := [0x64, 0x323], composed := true }),
   (0x1E11, { decomposition := [0x64, 0x327], composed := true }),
   (0x1E1D, { decomposition := [0x65, 0x327, 0x306], composed := true }),
   (0x1E1F, { decomposition := [0x66, 0x307], composed := true }),
   (0x1E23, { decomposition := [0x68, 0x307], composed := true }),
   (0x1E25, { decomposition := [0x68, 0x323], composed := true }),
   (0x1E27, { decomposition := [0x68, 0x308], composed := true }),
   (0x1E29, { decomposition := [0x68, 0x327], composed := true }),
   (0x1E2F, { decomposition := [0x69, 0x308, 0x301], composed := true }),
   (0x1E31, { decomposition := [0x6B, 0x301], composed := true }),
   (0x1E33, { decomposition := [0x6B, 0x323], composed := true }),
   (0x1E37, { decomposition := [0x6C, 0x323], composed := true }),
   (0x1E3F, { decomposition := [0x6D, 0x301], composed := true }),
   (0x1E41, { decomposition := [0x6D, 0x307], composed := true }),
   (0x1E43, { decomposition := [0x6D, 0x323], composed := true }),
   (0x1E45, { decomposition := [0x6E, 0x307], composed := true }),
   (0x1E47, { decomposition := [0x6E, 0x323], composed := true }),
   (0x1E4D, { decomposition := [0x6F, 0x303, 0x301], composed := true }),
   (0x1E4F, { decomposition := [0x6F, 0x303, 0x308], composed := true }),
   (0x1E55, { decomposition := [0x70, 0x301], composed := true }),
   (0x1E57, { decomposition := [0x70, 0x307], composed := true }),
   (0x1E59, { decomposition := [0x72, 0x307], composed := true }),
   (0x1E5B, { decomposition := [0x72, 0x323], composed := true }),
   (0x1E61, { decomposition := [0x73, 0x307], composed := true }),
   (0x1E63, { decomposition := [0x73, 0x323], composed := true }),
   (0x1E65, { decomposition := [0x73, 0x301, 0x307], composed := true }),
   (0x1E67, { decomposition := [0x73, 0x30C, 0x307], composed := true }),
   (0x1E69, { decomposition := [0x73, 0x323, 0x307], composed := true }),
   (0x1E6B, { decomposition := [0x74, 0x307], composed := true }),
   (0x1E6D, { decomposition := [0x74, 0x323], composed := true }),
   (0x1E79, { decomposition := [0x75, 0x303, 0x301], composed := true }),
   (0x1E7D, { decomposition := [0x76, 0x303], composed := true }),
   (0x1E7F, { decomposition := [0x76, 0x323], composed := true }),
   (0x1E81, { decomposition := [0x77, 0x300], composed := true }),
   (0x1E83, { decomposition := [0x77, 0x301], composed := true }),
   (0x1E85, { decomposition := [0x77, 0x308], composed := true }),
   (0x1E87, { decomposition := [0x77, 0x307], composed := true }),
   (0x1E89, { decomposition := [0x77, 0x323], composed := true }),
   (0x1E8B, { decomposition := [0x78, 0x307], composed := true }),
   (0x1E8D, { decomposition := [0x78, 0x308], composed := true }),
   (0x1E8F, { decomposition := [0x79, 0x307], composed := true }),
   (0x1E93, { decomposition := [0x7A, 0x323], composed := true }),
   (0x1E97, { decomposition := [0x74, 0x308], composed := true }),
   (0x1E98, { decomposition := [0x77, 0x30A], composed := true }),
   (0x1E99, { decomposition := [0x79, 0x30A], composed := true }),
   (0x1E9B, { labelClass := .other, decomposition := [0x17F, 0x307], composed := true }),
   (0x1E9E, { admission := .replaced [0xDF], labelClass := .other }),
   (0x1EA1, { decomposition := [0x61, 0x323], composed := true }),
   (0x1EAF, { decomposition := [0x61, 0x306, 0x301], composed := true }),
   (0x1EB1, { decomposition := [0x61, 0x306, 0x300], composed := true }),
   (0x1EB5, { decomposition := [0x61, 0x306, 0x303], composed := true }),
   (0x1EB7, { decomposition := [0x61, 0x323, 0x306], composed := true }),
   (0x1EB9, { decomposition := [0x65, 0x323], composed := true }),
   (0x1EBD, { decomposition := [0x65, 0x303], composed := true }),
   (0x1ECB, { decomposition := [0x69, 0x323], composed := true }),
   (0x1ECD, { decomposition := [0x6F, 0x323], composed := true }),
   (0x1EE5, { decomposition := [0x75, 0x323], composed := true }),
   (0x1EF3, { decomposition := [0x79, 0x300], composed := true }),
   (0x1EF5, { decomposition := [0x79, 0x323], composed := true }),
   (0x1EF9, { decomposition := [0x79, 0x303], composed := true }),
   (0x1F70, { decomposition := [0x3B1, 0x300], composed := true, script := .greek }),
   (0x1F72, { decomposition := [0x3B5, 0x300], composed := true, script := .greek }),
   (0x1F76, { decomposition := [0x3B9, 0x300], composed := true, script := .greek }),
   (0x1F78, { decomposition := [0x3BF, 0x300], composed := true, script := .greek }),
   (0x1FB0, { decomposition := [0x3B1, 0x306], composed := true, script := .greek }),
   (0x1FD0, { decomposition := [0x3B9, 0x306], composed := true, script := .greek }),
   (0x1FD2, { decomposition := [0x3B9, 0x308, 0x300], composed := true, script := .greek }),
   (0x1FED, { labelClass := .other, direction := .on, decomposition := [0xA8, 0x300],
              composed := true, script := .greek }),
   (0x2003, { admission := .replaced [0x20], labelClass := .other, direction := .ws }),
   (0x200B, { admission := .dropped, labelClass := .other, direction := .bn,
              joining := .transparent }),
   (0x200C, { labelClass := .joiner, direction := .bn }),
   (0x200D, { labelClass := .joiner, direction := .bn, joining := .causing }),
   (0x2024, { admission := .refused, labelClass := .other, direction := .on }),
   (0x2025, { admission := .refused, labelClass := .other, direction := .on }),
   (0x2026, { admission := .refused, labelClass := .other, direction := .on }),
   (0x2028, { admission := .refused, labelClass := .other, direction := .ws }),
   (0x2044, { labelClass := .other, direction := .cs }),
   (0x2060, { admission := .dropped, labelClass := .other, direction := .bn,
              joining := .transparent }),
   (0x20AC, { labelClass := .other, direction := .et }),
   (0x2100, { admission := .replaced [0x61, 0x2F, 0x63], labelClass := .other, direction := .on }),
   (0x2122, { admission := .replaced [0x74, 0x6D], labelClass := .other, direction := .on }),
   (0x212A, { admission := .replaced [0x6B], labelClass := .other, decomposition := [0x4B] }),
   (0x2167, { admission := .replaced [0x76, 0x69, 0x69, 0x69], labelClass := .other }),
   (0x2177, { admission := .replaced [0x76, 0x69, 0x69, 0x69], labelClass := .other }),
   (0x2260, { labelClass := .other, direction := .on, decomposition := [0x3D, 0x338],
              composed := true }),
   (0x226E, { labelClass := .other, direction := .on, decomposition := [0x3C, 0x338],
              composed := true }),
   (0x2460, { admission := .replaced [0x31], labelClass := .other, direction := .on }),
   (0x2488, { admission := .refused, labelClass := .other, direction := .en }),
   (0x2603, { labelClass := .other, direction := .on }),
   (0x2605, { labelClass := .other, direction := .on }),
   (0x2665, { labelClass := .other, direction := .on }),
   (0x2F00, { admission := .replaced [0x4E00], labelClass := .other, direction := .on,
              script := .han }),
   (0x2FA1, { admission := .replaced [0x8FB5], labelClass := .other, direction := .on,
              script := .han }),
   (0x3000, { admission := .replaced [0x20], labelClass := .other, direction := .ws }),
   (0x3002, { admission := .replaced [0x2E], labelClass := .other, direction := .on }),
   (0x3048, { script := .hiragana }),
   (0x304B, { script := .hiragana }),
   (0x304C, { decomposition := [0x304B, 0x3099], composed := true, script := .hiragana }),
   (0x306A, { script := .hiragana }),
   (0x3072, { script := .hiragana }),
   (0x3073, { decomposition := [0x3072, 0x3099], composed := true, script := .hiragana }),
   (0x3074, { decomposition := [0x3072, 0x309A], composed := true, script := .hiragana }),
   (0x3089, { script := .hiragana }),
   (0x3099, { direction := .nsm, combining := 8, joining := .transparent, mark := true }),
   (0x309A, { direction := .nsm, combining := 8, joining := .transparent, mark := true }),
   (0x309B, { admission := .replaced [0x20, 0x3099], labelClass := .other, direction := .on }),
   (0x30A2, { script := .katakana }),
   (0x30A4, { script := .katakana }),
   (0x30AB, { script := .katakana }),
   (0x30AC, { decomposition := [0x30AB, 0x3099], composed := true, script := .katakana }),
   (0x30BF, { script := .katakana }),
   (0x30C0, { decomposition := [0x30BF, 0x3099], composed := true, script := .katakana }),
   (0x30CA, { script := .katakana }),
   (0x30CF, { script := .katakana }),
   (0x30D0, { decomposition := [0x30CF, 0x3099], composed := true, script := .katakana }),
   (0x30D1, { decomposition := [0x30CF, 0x309A], composed := true, script := .katakana }),
   (0x30FB, { labelClass := .contextual, direction := .on }),
   (0x30FC, {}),
   (0x338F, { admission := .replaced [0x6B, 0x67], labelClass := .other }),
   (0x4E00, { script := .han }),
   (0x4E2D, { script := .han }),
   (0x4F8B, { script := .han }),
   (0x56FD, { script := .han }),
   (0x65E5, { script := .han }),
   (0x672C, { script := .han }),
   (0x6F22, { script := .han }),
   (0x8A9E, { script := .han }),
   (0x8FB5, { script := .han }),
   (0xAD6D, { decomposition := [0x1100, 0x116E, 0x11A8], composed := true }),
   (0xC5B4, { decomposition := [0x110B, 0x1165], composed := true }),
   (0xD55C, { decomposition := [0x1112, 0x1161, 0x11AB], composed := true }),
   (0xD800, { admission := .refused, labelClass := .other }),
   (0xDC80, { admission := .refused, labelClass := .other }),
   (0xDCFF, { admission := .refused, labelClass := .other }),
   (0xE000, { admission := .refused, labelClass := .other }),
   (0xFB01, { admission := .replaced [0x66, 0x69], labelClass := .other }),
   (0xFDFA, { admission := .replaced [0x635, 0x644, 0x649, 0x20, 0x627, 0x644, 0x644, 0x647, 0x20,
              0x639, 0x644, 0x64A, 0x647, 0x20, 0x648, 0x633, 0x644, 0x645], labelClass := .other,
              direction := .al }),
   (0xFE0F, { admission := .dropped, labelClass := .other, direction := .nsm,
              joining := .transparent, mark := true }),
   (0xFEFF, { admission := .dropped, labelClass := .other, direction := .bn,
              joining := .transparent }),
   (0xFF01, { admission := .replaced [0x21], labelClass := .other, direction := .on }),
   (0xFF0E, { admission := .replaced [0x2E], labelClass := .other, direction := .cs }),
   (0xFF0F, { admission := .replaced [0x2F], labelClass := .other, direction := .cs }),
   (0xFF10, { admission := .replaced [0x30], labelClass := .other, direction := .en }),
   (0xFF11, { admission := .replaced [0x31], labelClass := .other, direction := .en }),
   (0xFF12, { admission := .replaced [0x32], labelClass := .other, direction := .en }),
   (0xFF13, { admission := .replaced [0x33], labelClass := .other, direction := .en }),
   (0xFF14, { admission := .replaced [0x34], labelClass := .other, direction := .en }),
   (0xFF17, { admission := .replaced [0x37], labelClass := .other, direction := .en }),
   (0xFF1A, { admission := .replaced [0x3A], labelClass := .other, direction := .cs }),
   (0xFF20, { admission := .replaced [0x40], labelClass := .other, direction := .on }),
   (0xFF21, { admission := .replaced [0x61], labelClass := .other }),
   (0xFF22, { admission := .replaced [0x62], labelClass := .other }),
   (0xFF23, { admission := .replaced [0x63], labelClass := .other }),
   (0xFF25, { admission := .replaced [0x65], labelClass := .other }),
   (0xFF2C, { admission := .replaced [0x6C], labelClass := .other }),
   (0xFF2D, { admission := .replaced [0x6D], labelClass := .other }),
   (0xFF2F, { admission := .replaced [0x6F], labelClass := .other }),
   (0xFF30, { admission := .replaced [0x70], labelClass := .other }),
   (0xFF38, { admission := .replaced [0x78], labelClass := .other }),
   (0xFF41, { admission := .replaced [0x61], labelClass := .other }),
   (0xFF42, { admission := .replaced [0x62], labelClass := .other }),
   (0xFF43, { admission := .replaced [0x63], labelClass := .other }),
   (0xFF45, { admission := .replaced [0x65], labelClass := .other }),
   (0xFF4C, { admission := .replaced [0x6C], labelClass := .other }),
   (0xFF4D, { admission := .replaced [0x6D], labelClass := .other }),
   (0xFF4F, { admission := .replaced [0x6F], labelClass := .other }),
   (0xFF50, { admission := .replaced [0x70], labelClass := .other }),
   (0xFF58, { admission := .replaced [0x78], labelClass := .other }),
   (0xFF61, { admission := .replaced [0x2E], labelClass := .other, direction := .on }),
   (0xFF8A, { admission := .replaced [0x30CF], labelClass := .other, script := .katakana }),
   (0xFF9F, { admission := .replaced [0x309A], labelClass := .other }),
   (0xFFFF, { admission := .refused, labelClass := .other, direction := .unknown }),
   (0x1D4B3, { admission := .replaced [0x78], labelClass := .other }),
   (0x1F600, { labelClass := .other, direction := .on }),
   (0x1F9FF, { labelClass := .other, direction := .on }),
   (0xE0001, { admission := .refused, labelClass := .other, direction := .bn,
               joining := .transparent })]

/-- The letters, digits and signs of ASCII. Only lower-case letters, digits and the hyphen may stand
in a label. -/
def asciiProperty (c : CodePoint) : Property :=
  let upper := decide (65 ≤ c ∧ c ≤ 90)
  let lower := decide (97 ≤ c ∧ c ≤ 122)
  let digit := decide (48 ≤ c ∧ c ≤ 57)
  { labelClass := if lower || digit || c == 45 then .valid else .other
    direction :=
      if upper || lower then .l else if digit then .en else if c == 45 then .es else .on }

/-- The properties of a character that is not known. -/
def unlisted : Property := { admission := .refused, labelClass := .other, direction := .on }

def capitalProperty (small : CodePoint) : Property :=
  { admission := .replaced [small], labelClass := .other }

/-- Capital letters, with the distance of each to its small letter. -/
def capitals : List (CodePoint × CodePoint × Nat) :=
  [(0xC0, 0xD6, 32), (0xD8, 0xDE, 32), (0x391, 0x3A1, 32), (0x3A3, 0x3AB, 32), (0x400, 0x40F, 80),
   (0x410, 0x42F, 32)]

/-- Alphabets in which each small letter follows its capital. -/
def letterPairs : List (CodePoint × CodePoint) :=
  [(0x100, 0x12F), (0x139, 0x148), (0x14A, 0x177), (0x179, 0x17E), (0x460, 0x481), (0x48A, 0x4BF),
   (0x4D0, 0x52F)]

/-- Letters that are alike. -/
def alphabets : List (CodePoint × CodePoint × Property) :=
  [(0xDF, 0xF6, {}), (0xF8, 0xFF, {}),
   (0x3AC, 0x3CE, { script := .greek }), (0x430, 0x45F, {}),
   (0x5D0, 0x5EA, { direction := .r, script := .hebrew }), (0x620, 0x63F, { direction := .al }),
   (0x641, 0x64A, { direction := .al }), (0x904, 0x939, {}), (0xE01, 0xE30, {}),
   (0x10D0, 0x10FA, {}), (0x3041, 0x3096, { script := .hiragana }),
   (0x30A1, 0x30FA, { script := .katakana }), (0x4E00, 0x9FFC, { script := .han })]

/-- The syllables of Hangul are all alike. -/
def isHangulSyllable (c : CodePoint) : Bool := 0xAC00 ≤ c && c < 0xAC00 + 11172

/-- The properties of a letter that has no row. -/
def letter? (c : CodePoint) : Option Property :=
  if isHangulSyllable c then some {}
  else match capitals.find? fun (first, last, _) => first ≤ c && c ≤ last with
  | some (_, _, distance) => some (capitalProperty (c + distance))
  | none =>
    match letterPairs.find? fun (first, last) => first ≤ c && c ≤ last with
    | some (first, _) =>
      some (if (c - first) % 2 = 0 then capitalProperty (c + 1) else {})
    | none =>
      (alphabets.find? fun (first, last, _) => first ≤ c && c ≤ last).map fun (_, _, p) => p

def property (c : CodePoint) : Property :=
  if c < 128 then asciiProperty c
  else match properties.find? (·.1 == c) with
    | some (_, p) => p
    | none => (letter? c).getD unlisted

end Detour.International
