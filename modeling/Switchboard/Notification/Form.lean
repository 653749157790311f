import Switchboard.Net.Percent
import Switchboard.Text.Split

/-!
# Form bodies

A form body is a list of pairs of a name and a value, in the encoding of HTML forms: pairs are
separated by ampersands, the name ends at the first equals sign, a plus sign is a space, and a
percent sign with two digits of base sixteen is a byte. Bytes that form no characters are replaced.
-/

namespace Switchboard.Notification.Form

/-- Resolves plus signs, and then percent signs. -/
def unescape (bytes : List UInt8) : List UInt8 :=
  Net.Percent.decode (bytes.map fun b => if b = 0x2B then 0x20 else b)

/-- The text that a part of a pair stands for. -/
def part (bytes : List UInt8) : String := Text.Utf8.decodeLenient (unescape bytes)

/-- The pairs of a form body, in order. -/
def decode (body : List UInt8) : List (String × String) :=
  ((Text.Split.all 0x26 body).filter fun piece => !piece.isEmpty).map fun piece =>
    let (name, value) := (Text.Split.once [0x3D] piece).getD (piece, [])
    (part name, part value)

/-! ### Writing -/

/-- Bytes that stand for themselves: letters, digits, and the signs `*-._`. -/
def isPlain (b : UInt8) : Bool :=
  (0x30 ≤ b && b ≤ 0x39) || (0x41 ≤ b && b ≤ 0x5A) || (0x61 ≤ b && b ≤ 0x7A) ||
    b == 0x2A || b == 0x2D || b == 0x2E || b == 0x5F

/-- A byte as it is written. -/
def escapeByte (b : UInt8) : List UInt8 :=
  if isPlain b then [b]
  else if b = 0x20 then [0x2B]
  else (Net.Percent.byte b).map fun c => .ofNat c.toNat

/-- A text as a part of a pair. -/
def encodePart (s : String) : List UInt8 := (Text.Utf8.encode s).flatMap escapeByte

/-- The form body of a list of pairs. -/
def encode (pairs : List (String × String)) : List UInt8 :=
  [0x26].intercalate (pairs.map fun (name, value) => encodePart name ++ 0x3D :: encodePart value)

end Switchboard.Notification.Form
