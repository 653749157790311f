import Switchboard.Text.Hex
import Switchboard.Text.Split
import Switchboard.Text.Whole

/-!
# Addresses of machines

Addresses of version 4 have four bytes, written in base ten with points between them. Addresses of
version 6 have eight pieces of two bytes, written in base sixteen with colons between them, where the
longest run of two or more zero pieces, the first of several, is left out. The last two pieces may be
given in the form of version 4.
-/

namespace Switchboard.Net

/-! ### Version 4 -/

/-- An address of version 4. -/
structure Ipv4 where
  bits : UInt32
  deriving DecidableEq, Repr

namespace Ipv4

/-- The address of four bytes. -/
def ofOctets (a b c d : Nat) : Ipv4 := ⟨.ofNat (((a * 256 + b) * 256 + c) * 256 + d)⟩

/-- The four bytes. -/
def octets (address : Ipv4) : List Nat :=
  let n := address.bits.toNat
  [n / 16777216 % 256, n / 65536 % 256, n / 256 % 256, n % 256]

/-- The four bytes with points between them. -/
def text (address : Ipv4) : List Char :=
  ['.'].intercalate (address.octets.map (Nat.toDigits 10))

/-- The byte that some digits write without leading zeros. -/
def octet? (cs : List Char) : Option Nat :=
  if cs.isEmpty || !cs.all Char.isDigit || (cs.head? = some '0' && cs ≠ ['0']) then none
  else if Text.Whole.decimal cs < 256 then some (Text.Whole.decimal cs)
  else none

/-- Reads four bytes with points between them. -/
def parse? (cs : List Char) : Option Ipv4 :=
  match (Text.Split.all '.' cs).map octet? with
  | [some a, some b, some c, some d] => some (ofOctets a b c d)
  | _ => none

end Ipv4

/-! ### Version 6 -/

/-- An address of version 6. -/
structure Ipv6 where
  pieces : List UInt16
  length_pieces : pieces.length = 8
  deriving DecidableEq, Repr

namespace Ipv6

/-- The address of some pieces, if there are eight. -/
def ofPieces? (pieces : List UInt16) : Option Ipv6 :=
  if h : pieces.length = 8 then some ⟨pieces, h⟩ else none

/-- The piece that one to four digits write. -/
def piece? (cs : List Char) : Option UInt16 :=
  if cs.isEmpty || 4 < cs.length then none else (Text.Hex.number? cs).map .ofNat

/-- The two pieces of an address of version 4. -/
def piecesOfIpv4 (address : Ipv4) : List UInt16 :=
  [.ofNat (address.bits.toNat / 65536), .ofNat (address.bits.toNat % 65536)]

/-- The pieces of some groups. The last group may be an address of version 4. -/
def groups? : List (List Char) → Option (List UInt16)
  | [] => some []
  | [last] =>
    match piece? last with
    | some piece => some [piece]
    | none => (Ipv4.parse? last).map piecesOfIpv4
  | group :: rest => do
    let piece ← piece? group
    let pieces ← groups? rest
    return piece :: pieces

/-- The pieces between colons, none for the empty text. -/
def pieces? (groups? : List (List Char) → Option (List UInt16)) (cs : List Char) :
    Option (List UInt16) :=
  if cs.isEmpty then some [] else groups? (Text.Split.all ':' cs)

/-- Reads an address. A double colon stands for one or more zero pieces. -/
def parse? (cs : List Char) : Option Ipv6 :=
  match Text.Split.once [':', ':'] cs with
  | none => (pieces? groups? cs).bind ofPieces?
  | some (front, back) => do
    let front ← pieces? (fun groups => groups.mapM piece?) front
    let back ← pieces? groups? back
    guard (front.length + back.length < 8)
    ofPieces? (front ++ List.replicate (8 - (front.length + back.length)) 0 ++ back)

/-- Where the longest run of zero pieces begins, and its length. -/
def longestZeros (pieces : List UInt16) : Nat × Nat :=
  (List.range pieces.length).foldl
    (fun best start =>
      let length := ((pieces.drop start).takeWhile (· = 0)).length
      if best.2 < length then (start, length) else best)
    (0, 0)

/-- Pieces with colons between them. -/
def groupText (pieces : List UInt16) : List Char :=
  [':'].intercalate (pieces.map fun piece => Nat.toDigits 16 piece.toNat)

/-- An address as it is written. -/
def text (address : Ipv6) : List Char :=
  let (start, length) := longestZeros address.pieces
  if length < 2 then groupText address.pieces
  else
    groupText (address.pieces.take start) ++ [':', ':'] ++
      groupText (address.pieces.drop (start + length))

/-- The address of version 4 that an address stands for. -/
def mapped? (address : Ipv6) : Option Ipv4 :=
  match address.pieces with
  | [0, 0, 0, 0, 0, 0xFFFF, high, low] => some ⟨.ofNat (high.toNat * 65536 + low.toNat)⟩
  | _ => none

end Ipv6

/-! ### Both -/

/-- An address of a machine. -/
inductive Address
  | v4 (address : Ipv4)
  | v6 (address : Ipv6)
  deriving DecidableEq, Repr

namespace Address

/-- Reads an address. -/
def parse? (cs : List Char) : Option Address :=
  match Ipv4.parse? cs with
  | some address => some (v4 address)
  | none => (Ipv6.parse? cs).map v6

/-- The address that stands for all addresses of a machine. -/
def any : Address := v4 ⟨0⟩

/-- An address as it is written. One of version 6 that stands for one of version 4 shows it. -/
def text : Address → List Char
  | v4 address => address.text
  | v6 address =>
    match address.mapped? with
    | some inner => [':', ':', 'f', 'f', 'f', 'f', ':'] ++ inner.text
    | none => address.text

/-- An address with a port. -/
def textWithPort (address : Address) (port : Nat) : List Char :=
  match address with
  | v4 _ => address.text ++ ':' :: Nat.toDigits 10 port
  | v6 _ => '[' :: address.text ++ [']', ':'] ++ Nat.toDigits 10 port

end Address

end Switchboard.Net
