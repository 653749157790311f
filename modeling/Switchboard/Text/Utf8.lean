/-!
# Texts as bytes

The encoding of characters in one to four bytes. `units` reads any list of bytes: it yields one
entry per character and one empty entry per ill-formed piece, a piece being the longest beginning of
a character that cannot be continued, or a single byte that begins none. A strict reading refuses
ill-formed pieces, a lenient one puts the replacement character in their place.
-/

namespace Switchboard.Text.Utf8

/-- The bytes of one character. -/
def encodeChar (c : Char) : List UInt8 :=
  let n := c.toNat
  if n < 0x80 then [.ofNat n]
  else if n < 0x800 then [.ofNat (0xC0 + n / 64), .ofNat (0x80 + n % 64)]
  else if n < 0x10000 then
    [.ofNat (0xE0 + n / 4096), .ofNat (0x80 + n / 64 % 64), .ofNat (0x80 + n % 64)]
  else
    [.ofNat (0xF0 + n / 262144), .ofNat (0x80 + n / 4096 % 64), .ofNat (0x80 + n / 64 % 64),
      .ofNat (0x80 + n % 64)]

/-- The bytes of a list of characters. -/
def encodeChars (cs : List Char) : List UInt8 := cs.flatMap encodeChar

/-- The bytes of a text. -/
def encode (s : String) : List UInt8 := encodeChars s.toList

/-- The number of bytes of a character. -/
def width (c : Char) : Nat := (encodeChar c).length

/-- A byte that continues a character. -/
def continues (b : UInt8) : Bool := 0x80 ≤ b && b ≤ 0xBF

/-- The six bits that a continuing byte carries. -/
def tail (b : UInt8) : Nat := b.toNat % 64

/-- Whether `second` may follow the first byte of a character of three bytes: the shortest form is
required, and the surrogates are no characters. -/
def opensThree (first second : UInt8) : Bool :=
  continues second && (first != 0xE0 || 0xA0 ≤ second) && (first != 0xED || second ≤ 0x9F)

/-- Whether `second` may follow the first byte of a character of four bytes: the shortest form is
required, and the last character is `0x10FFFF`. -/
def opensFour (first second : UInt8) : Bool :=
  continues second && (first != 0xF0 || 0x90 ≤ second) && (first != 0xF4 || second ≤ 0x8F)

/-- The characters and ill-formed pieces of a list of bytes. -/
def units : List UInt8 → List (Option Char)
  | [] => []
  | a :: r =>
    if a < 0x80 then some (Char.ofNat a.toNat) :: units r
    else if 0xC2 ≤ a && a ≤ 0xDF then
      match r with
      | b :: r₁ =>
        if continues b then some (Char.ofNat (a.toNat % 32 * 64 + tail b)) :: units r₁
        else none :: units (b :: r₁)
      | [] => [none]
    else if 0xE0 ≤ a && a ≤ 0xEF then
      match r with
      | b :: r₁ =>
        if opensThree a b then
          match r₁ with
          | c :: r₂ =>
            if continues c then
              some (Char.ofNat (a.toNat % 16 * 4096 + tail b * 64 + tail c)) :: units r₂
            else none :: units (c :: r₂)
          | [] => [none]
        else none :: units (b :: r₁)
      | [] => [none]
    else if 0xF0 ≤ a && a ≤ 0xF4 then
      match r with
      | b :: r₁ =>
        if opensFour a b then
          match r₁ with
          | c :: r₂ =>
            if continues c then
              match r₂ with
              | d :: r₃ =>
                if continues d then
                  some (Char.ofNat
                    (a.toNat % 8 * 262144 + tail b * 4096 + tail c * 64 + tail d)) :: units r₃
                else none :: units (d :: r₃)
              | [] => [none]
            else none :: units (c :: r₂)
          | [] => [none]
        else none :: units (b :: r₁)
      | [] => [none]
    else none :: units r

/-- All values, when none is missing. -/
def sequence {α : Type} : List (Option α) → Option (List α)
  | [] => some []
  | none :: _ => none
  | some a :: rest => (sequence rest).map (a :: ·)

/-- The characters of well-formed bytes. -/
def decodeChars (bytes : List UInt8) : Option (List Char) := sequence (units bytes)

/-- The text of well-formed bytes. -/
def decode (bytes : List UInt8) : Option String := (decodeChars bytes).map String.ofList

/-- How many bytes at the start form characters. -/
def soundLength (bytes : List UInt8) : Nat :=
  (encodeChars (((units bytes).takeWhile Option.isSome).filterMap id)).length

/-- The length of the ill-formed piece that some bytes begin with; nothing when the bytes end inside
a character. -/
def pieceLength : List UInt8 → Option Nat
  | [] => none
  | a :: r =>
    if 0xC2 ≤ a && a ≤ 0xDF then if r.isEmpty then none else some 1
    else if 0xE0 ≤ a && a ≤ 0xEF then
      match r with
      | [] => none
      | b :: r₁ => if !opensThree a b then some 1 else if r₁.isEmpty then none else some 2
    else if 0xF0 ≤ a && a ≤ 0xF4 then
      match r with
      | [] => none
      | b :: r₁ =>
        if !opensFour a b then some 1
        else
          match r₁ with
          | [] => none
          | c :: r₂ => if !continues c then some 2 else if r₂.isEmpty then none else some 3
    else some 1

/-- What is wrong with bytes that are no text, in words. -/
def diagnosis (bytes : List UInt8) : String :=
  let index := soundLength bytes
  match pieceLength (bytes.drop index) with
  | some length =>
    "invalid utf-8 sequence of " ++ toString length ++ " bytes from index " ++ toString index
  | none => "incomplete utf-8 byte sequence from index " ++ toString index

/-- The characters of any bytes, with the replacement character for each ill-formed piece. -/
def decodeLenientChars (bytes : List UInt8) : List Char :=
  (units bytes).map fun unit => unit.getD '\uFFFD'

/-- The text of any bytes, with the replacement character for each ill-formed piece. -/
def decodeLenient (bytes : List UInt8) : String := String.ofList (decodeLenientChars bytes)

/-- The text of bytes received over the network: a byte order mark at the start is no part of it,
and ill-formed pieces become replacement characters. -/
def decodeBody (bytes : List UInt8) : String :=
  match bytes with
  | 0xEF :: 0xBB :: 0xBF :: rest => decodeLenient rest
  | _ => decodeLenient bytes

/-- Splits off the characters that fill exactly the first `n` bytes, if a character ends there. -/
def splitAtBytes : Nat → List Char → Option (List Char × List Char)
  | 0, cs => some ([], cs)
  | _ + 1, [] => none
  | n + 1, c :: rest =>
    if width c ≤ n + 1 then
      (splitAtBytes (n + 1 - width c) rest).map fun (front, back) => (c :: front, back)
    else none

end Switchboard.Text.Utf8
