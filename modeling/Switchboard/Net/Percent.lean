import Switchboard.Text.Hex
import Switchboard.Text.Utf8

/-!
# Percent encoding

A byte is written as a percent sign and two digits of base sixteen. Which ASCII characters are
written so differs from part to part of a URL; characters beyond ASCII always are.
-/

namespace Switchboard.Net.Percent

/-- A byte with a percent sign. -/
def byte (b : UInt8) : List Char := ['%', Text.Hex.capital (b.toNat / 16), Text.Hex.capital (b.toNat % 16)]

/-- Encodes the characters beyond ASCII and those that `special` names. -/
def encode (special : Char → Bool) (cs : List Char) : List Char :=
  cs.flatMap fun c =>
    if c.toNat < 0x80 && !special c then [c] else (Text.Utf8.encodeChar c).flatMap byte

/-- Decodes bytes. A percent sign without two digits stands for itself. -/
def decode : List UInt8 → List UInt8
  | [] => []
  | 0x25 :: a :: b :: rest =>
    match Text.Hex.byteValue? a, Text.Hex.byteValue? b with
    | some x, some y => .ofNat (16 * x + y) :: decode rest
    | _, _ => 0x25 :: decode (a :: b :: rest)
  | b :: rest => b :: decode rest

/-! ### The parts of a URL -/

/-- Control characters. -/
def isControl (c : Char) : Bool := c.toNat < 0x20 || c.toNat = 0x7F

/-- Encoded in fragments. -/
def inFragment (c : Char) : Bool := isControl c || c ∈ [' ', '"', '<', '>', '`']

/-- Encoded in paths. -/
def inPath (c : Char) : Bool := inFragment c || c ∈ ['#', '?', '\x7b', '\x7d']

/-- Encoded in user names and passwords. -/
def inUserInfo (c : Char) : Bool :=
  inPath c || c ∈ ['/', ':', ';', '=', '@', '[', '\\', ']', '^', '|']

/-- Encoded in queries; in those of special schemes also the apostrophe. -/
def inQuery (special : Bool) (c : Char) : Bool :=
  isControl c || c ∈ [' ', '"', '#', '<', '>'] || (special && c = '\'')

end Switchboard.Net.Percent
