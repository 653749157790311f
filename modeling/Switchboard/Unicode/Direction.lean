import Switchboard.Unicode.Category

/-!
# Directions of writing

What a character contributes to the direction in which a label of a domain name is written. The tables
are of version 16.0, and cover the characters that names are made of: a run goes on across characters
that no name holds, and across marks.
-/

namespace Switchboard.Unicode

/-- What a character says about the direction of writing. -/
inductive Direction
  /-- Written from left to right. -/
  | left
  /-- Written from right to left. -/
  | right
  | europeanDigit
  | arabicDigit
  /-- A mark, which goes with the character before it. -/
  | mark
  /-- A sign that goes in both directions. -/
  | neutral
  deriving DecidableEq, Repr

namespace Direction

/-- Letters and signs that are written from right to left. -/
def rightTable : Runs :=
  [(0x5BE, 0x5F4, 1), (0x608, 0x608, 1), (0x60B, 0x60B, 1), (0x60D, 0x60D, 1), (0x61B, 0x64A, 1),
   (0x66D, 0x6D5, 1), (0x6E5, 0x6E6, 1), (0x6EE, 0x6EF, 1), (0x6FA, 0x7F5, 1), (0x7FA, 0x8C9, 1),
   (0xFBB2, 0xFBC2, 1), (0xFE73, 0xFE73, 1), (0x10800, 0x1091B, 1), (0x10920, 0x10B35, 1),
   (0x10B40, 0x10D23, 1), (0x10D4A, 0x10D4F, 1), (0x10D6F, 0x10D8F, 1), (0x10E80, 0x10FF6, 1),
   (0x1E800, 0x1ED3D, 1)]

/-- Digits that are written like those of Arabic. -/
def arabicDigitTable : Runs :=
  [(0x660, 0x669, 1), (0x66B, 0x66C, 1), (0x10D30, 0x10D49, 1), (0x10E60, 0x10E7E, 1)]

/-- Digits that are written like those of European languages. -/
def europeanDigitTable : Runs :=
  [(0x30, 0x39, 1), (0x6F0, 0x6F9, 1), (0x102E1, 0x102FB, 1)]

/-- Signs that are written in both directions. -/
def neutralTable : Runs :=
  [(0x0, 0x2F, 1), (0x3A, 0x60, 1), (0x7B, 0xD7, 1), (0xF7, 0xF7, 1), (0x2B9, 0x2BA, 1),
   (0x2C2, 0x2CF, 1), (0x2D2, 0x2ED, 1), (0x2EF, 0x2FF, 1), (0x375, 0x375, 1), (0x3F6, 0x3F6, 1),
   (0x58A, 0x58F, 1), (0x606, 0x607, 1), (0x609, 0x60A, 1), (0x60C, 0x60C, 1), (0x60E, 0x60F, 1),
   (0x66A, 0x66A, 1), (0x6DE, 0x6DE, 1), (0x6E9, 0x6E9, 1), (0x7F6, 0x7F9, 1), (0x9F2, 0x9F3, 1),
   (0x9FB, 0x9FB, 1), (0xAF1, 0xAF1, 1), (0xBF3, 0xBFA, 1), (0xC78, 0xC7E, 1), (0xE3F, 0xE3F, 1),
   (0xF3A, 0xF3D, 1), (0x1390, 0x1399, 1), (0x1400, 0x1400, 1), (0x169B, 0x169C, 1),
   (0x17DB, 0x17DB, 1), (0x17F0, 0x180A, 1), (0x1940, 0x1945, 1), (0x19DE, 0x19FF, 1),
   (0x200C, 0x214D, 1), (0x218A, 0x2335, 1), (0x237B, 0x2394, 1), (0x2396, 0x26AB, 1),
   (0x26AD, 0x27FF, 1), (0x2900, 0x2BFF, 1), (0x2CE5, 0x2CEA, 1), (0x2CF9, 0x2CFF, 1),
   (0x2E00, 0x3004, 1), (0x3008, 0x3020, 1), (0x3030, 0x3030, 1), (0x3037, 0x3037, 1),
   (0x303D, 0x303F, 1), (0x30A0, 0x30A0, 1), (0x30FB, 0x30FB, 1), (0x31C0, 0x31E5, 1),
   (0x4DC0, 0x4DFF, 1), (0xA490, 0xA4C6, 1), (0xA60D, 0xA60F, 1), (0xA673, 0xA67F, 1),
   (0xA700, 0xA721, 1), (0xA788, 0xA788, 1), (0xA828, 0xA82B, 1), (0xA838, 0xA839, 1),
   (0xA874, 0xA877, 1), (0xAB6A, 0xAB6B, 1), (0xFD3E, 0xFE46, 1), (0x10101, 0x10101, 1),
   (0x10140, 0x1018C, 1), (0x10190, 0x101A0, 1), (0x1091F, 0x1091F, 1), (0x10B39, 0x10B3F, 1),
   (0x10D6E, 0x10D6E, 1), (0x11052, 0x11065, 1), (0x11660, 0x1166C, 1), (0x11FD5, 0x11FF1, 1),
   (0x16FE2, 0x16FE2, 1), (0x1CC00, 0x1CEB3, 1), (0x1D1E9, 0x1D245, 1), (0x1D300, 0x1D356, 1),
   (0x1E2FF, 0x1E2FF, 1), (0x1EEF0, 0x1F12F, 1), (0x1F16D, 0x1F16F, 1), (0x1F1AD, 0x1F1AD, 1),
   (0x1F260, 0x1FBEF, 1)]

/-- Marks that are written from left to right, like letters. -/
def leftMarks : List Nat := [0xCBF, 0xCC6, 0x11A07, 0x11A08, 0x11C3F]

/-- The direction of a character. -/
def of (c : Char) : Direction :=
  let n := c.toNat
  if n ∈ leftMarks then left
  else if Category.anyContains [.nonspacingMark, .enclosingMark] n then mark
  else if rightTable.contains n then right
  else if arabicDigitTable.contains n then arabicDigit
  else if europeanDigitTable.contains n then europeanDigit
  else if neutralTable.contains n then neutral
  else left

/-- Whether a text needs to be written from right to left somewhere. -/
def isMixed (cs : List Char) : Bool := cs.any fun c => of c = right || of c = arabicDigit

/-- The direction at the end of a text, behind which there may be marks. -/
def atEnd (cs : List Char) : Option Direction :=
  ((cs.reverse.map of).dropWhile (· = mark)).head?

/-- Whether a label of a name that is written from right to left somewhere can be told from its
neighbours: it begins with a letter and keeps to the direction of this letter, in which digits and signs
may stand. Digits of the two kinds do not stand together. -/
def isConsistent (label : List Char) : Bool :=
  match label.map of with
  | [] => true
  | right :: rest =>
    left ∉ rest && !(arabicDigit ∈ rest && europeanDigit ∈ rest) &&
      (atEnd label).any (· ∈ [right, arabicDigit, europeanDigit])
  | left :: rest =>
    right ∉ rest && arabicDigit ∉ rest && (atEnd label).any (· ∈ [left, europeanDigit])
  | _ => false

end Direction

end Switchboard.Unicode
