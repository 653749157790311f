import Switchboard.Decimal.Binary
import Switchboard.Json.Fault
import Switchboard.Json.Value
import Switchboard.Text.Hex

/-!
# Reading JSON texts

A reader takes bytes and gives a result together with the bytes that it left, or a fault. Arrays and
objects may be nested in each other up to a number of levels; `Value.parse` allows 127.

## Numbers

An integer that fits into sixty-four bits, with or without sign, stays an integer. Everything else
becomes a double: the digits are collected as long as they fit into sixty-four bits, and the double
of these digits is multiplied or divided once by a power of ten. `-0` is a double too.
-/

namespace Switchboard.Json

/-- A reader takes bytes and gives a result and the bytes that are left. -/
abbrev Reader (α : Type) := List UInt8 → Except Fault (α × List UInt8)

namespace Reader

/-- The byte of an ASCII character. -/
def byte (c : Char) : UInt8 := .ofNat c.toNat

/-- Bytes between the parts of a text. -/
def isSpace (b : UInt8) : Bool := b = 0x20 || b = 0x0A || b = 0x09 || b = 0x0D

/-- The bytes from the next part of a text on. -/
def skipSpace (bytes : List UInt8) : List UInt8 := bytes.dropWhile isSpace

/-- Refuses with a cause, at the place where the given bytes are left. -/
def refuse {α : Type} (cause : Cause) (left : List UInt8) : Except Fault α := .error ⟨cause, left⟩

/-! ### Words -/

/-- Reads the rest of a word. -/
def word : List Char → List UInt8 → Except Fault (List UInt8)
  | [], bytes => .ok bytes
  | _ :: _, [] => refuse .unfinishedValue []
  | c :: cs, b :: rest => if b = byte c then word cs rest else refuse .badWord rest

/-! ### Strings -/

/-- The number written by four digits of base sixteen. -/
def hexFour (a b c d : UInt8) : Option Nat := do
  let w ← Text.Hex.byteValue? a
  let x ← Text.Hex.byteValue? b
  let y ← Text.Hex.byteValue? c
  let z ← Text.Hex.byteValue? d
  return w * 4096 + x * 256 + y * 16 + z

/-- The byte that a letter behind a backslash stands for. -/
def simpleEscape (b : UInt8) : Option UInt8 :=
  if b = byte '"' ∨ b = byte '\\' ∨ b = byte '/' then some b
  else if b = byte 'b' then some 8
  else if b = byte 'f' then some 12
  else if b = byte 'n' then some 10
  else if b = byte 'r' then some 13
  else if b = byte 't' then some 9
  else none

/-- Whether a number is the first half of a pair of sixteen-bit units. -/
def isHighSurrogate (n : Nat) : Bool := 0xD800 ≤ n && n ≤ 0xDBFF

/-- Whether a number is the second half of a pair of sixteen-bit units. -/
def isLowSurrogate (n : Nat) : Bool := 0xDC00 ≤ n && n ≤ 0xDFFF

/-- The character that a pair of sixteen-bit units stands for. -/
def pairChar (high low : Nat) : Char :=
  Char.ofNat ((high - 0xD800) * 0x400 + (low - 0xDC00) + 0x10000)

/-- Puts bytes in front of the content of a string. -/
def push (front : List UInt8) (result : Except Fault (List UInt8 × List UInt8)) :
    Except Fault (List UInt8 × List UInt8) :=
  result.map fun (content, left) => (front ++ content, left)

/-- The content of a string, from behind its opening quote, with its escapes resolved. -/
def stringBytes : Reader (List UInt8)
  | [] => refuse .unfinishedString []
  | b :: r =>
    if b = byte '"' then .ok ([], r)
    else if b = byte '\\' then
      match r with
      | [] => refuse .unfinishedString []
      | e :: r₁ =>
        if e = byte 'u' then
          match r₁ with
          | h₁ :: h₂ :: h₃ :: h₄ :: r₂ =>
            match hexFour h₁ h₂ h₃ h₄ with
            | none => refuse .badEscape r₂
            | some n =>
              if isLowSurrogate n then refuse .loneSurrogate r₂
              else if isHighSurrogate n then
                match r₂ with
                | [] => refuse .unfinishedString []
                | e₁ :: r₃ =>
                  if e₁ = byte '\\' then
                    match r₃ with
                    | [] => refuse .unfinishedString []
                    | e₂ :: r₄ =>
                      if e₂ = byte 'u' then
                        match r₄ with
                        | l₁ :: l₂ :: l₃ :: l₄ :: r₅ =>
                          match hexFour l₁ l₂ l₃ l₄ with
                          | none => refuse .badEscape r₅
                          | some m =>
                            if isLowSurrogate m then
                              push (Text.Utf8.encodeChar (pairChar n m)) (stringBytes r₅)
                            else refuse .loneSurrogate r₅
                        | _ => refuse .unfinishedString []
                      else refuse .surrogateCutOff r₄
                  else refuse .surrogateCutOff r₃
              else push (Text.Utf8.encodeChar (Char.ofNat n)) (stringBytes r₂)
          | _ => refuse .unfinishedString []
        else
          match simpleEscape e with
          | none => refuse .badEscape r₁
          | some c => push [c] (stringBytes r₁)
    else if b < 0x20 then refuse .controlCharacter r
    else push [b] (stringBytes r)

/-- A string from behind its opening quote. Content that is no text is told at its first byte that
belongs to no character. -/
def string : Reader String := fun bytes => do
  let (content, left) ← stringBytes bytes
  match Text.Utf8.decode content with
  | some s => return (s, left)
  | none => refuse .illFormedText (bytes.drop (Text.Utf8.soundLength bytes + 1))

/-! ### Numbers -/

/-- Whether a byte is a decimal digit. -/
def isDigit (b : UInt8) : Bool := 0x30 ≤ b && b ≤ 0x39

/-- Whether some bytes begin with a digit. -/
def startsWithDigit : List UInt8 → Bool
  | [] => false
  | b :: _ => isDigit b

/-- The largest integer without sign. -/
def maxUnsigned : Nat := Nat.pow 2 64 - 1

/-- Appends digits to `n` as long as the result fits into sixty-four bits. -/
def collect (n : Nat) : List UInt8 → Nat × List UInt8
  | [] => (n, [])
  | b :: r =>
    if isDigit b then
      let n' := 10 * n + (b.toNat - 0x30)
      if n' ≤ maxUnsigned then collect n' r else (n, b :: r)
    else (n, b :: r)

/-- Skips digits and counts them. -/
def countDigits : List UInt8 → Nat × List UInt8
  | [] => (0, [])
  | b :: r => if isDigit b then let (k, left) := countDigits r; (k + 1, left) else (0, b :: r)

/-- The double nearest to a power of ten. -/
def powerOfTen (k : Nat) : Nat := Binary.ofNat (Nat.pow 10 k)

/-- Multiplies or divides a double by a power of ten; nothing if the result is too large. Powers
below the least double are divided off in steps. -/
def scale : Nat → Nat → Int → Option Nat
  | 0, _, _ => some 0
  | fuel + 1, x, e =>
    if e.natAbs ≤ 308 then
      if 0 ≤ e then
        let y := Binary.product x (powerOfTen e.natAbs)
        if Binary.limit ≤ y then none else some y
      else some (Binary.quotient x (powerOfTen e.natAbs))
    else if x = 0 then some x
    else if 0 ≤ e then none
    else scale fuel (Binary.quotient x (powerOfTen 308)) (e + 308)

/-- The number with the given sign, digits and exponent, at the place where `left` is left. -/
def double (positive : Bool) (digits : Nat) (e : Int) (left : List UInt8) :
    Except Fault (Number × List UInt8) :=
  match scale 4 (Binary.ofNat digits) e with
  | none => refuse .numberOutOfRange left
  | some x =>
    .ok (.double (.ofNat (Binary.bits x + if positive then 0 else Nat.pow 2 63)), left)

/-- The largest exponent that is read as it is written. -/
def maxExponent : Nat := Nat.pow 2 31 - 1

/-- Reads the digits of an exponent as long as it is small; the flag tells that it is too large. -/
def collectExponent (n : Nat) : List UInt8 → Nat × Bool × List UInt8
  | [] => (n, false, [])
  | b :: r =>
    if isDigit b then
      let n' := 10 * n + (b.toNat - 0x30)
      if n' ≤ maxExponent then collectExponent n' r else (n, true, r)
    else (n, false, b :: r)

/-- Reads an exponent, from behind its letter, and gives the number. -/
def exponent (positive : Bool) (digits : Nat) (e : Int) (bytes : List UInt8) :
    Except Fault (Number × List UInt8) :=
  let (up, bytes) := match bytes with
    | b :: r => if b = byte '+' then (true, r) else if b = byte '-' then (false, r) else (true, b :: r)
    | [] => (true, [])
  match bytes with
  | [] => refuse .unfinishedValue []
  | b :: r =>
    if isDigit b then
      let (n, tooLarge, left) := collectExponent (b.toNat - 0x30) r
      if tooLarge then
        if digits ≠ 0 ∧ up then refuse .numberOutOfRange left
        else double positive 0 0 (countDigits left).2
      else double positive digits (if up then e + n else e - n) left
    else refuse .badNumber r

/-- Reads what follows the digits before the point, of which `dropped` were not collected. -/
def afterDigits (positive : Bool) (digits dropped : Nat) (bytes : List UInt8) :
    Except Fault (Number × List UInt8) :=
  let plain : Except Fault (Number × List UInt8) :=
    if dropped = 0 then
      if positive then .ok (.int digits, bytes)
      else if digits = 0 ∨ Nat.pow 2 63 < digits then double false digits 0 bytes
      else .ok (.int (-digits), bytes)
    else double positive digits dropped bytes
  match bytes with
  | [] => plain
  | b :: r =>
    if b = byte '.' then
      let (digits', r₁) := collect digits r
      let e : Int := dropped - (r.length - r₁.length : Nat)
      let r₂ := (countDigits r₁).2
      if startsWithDigit r then
        match r₂ with
        | [] => double positive digits' e r₂
        | c :: r₃ =>
          if c = byte 'e' ∨ c = byte 'E' then exponent positive digits' e r₃
          else double positive digits' e r₂
      else
        match r with
        | [] => refuse .unfinishedValue []
        | _ :: r' => refuse .badNumber r'
    else if b = byte 'e' ∨ b = byte 'E' then exponent positive digits dropped r
    else plain

/-- A number from behind its sign. -/
def number (positive : Bool) : Reader Number
  | [] => refuse .unfinishedValue []
  | b :: r =>
    if b = byte '0' then
      if startsWithDigit r then refuse .badNumber (r.drop 1) else afterDigits positive 0 0 r
    else if isDigit b then
      let (digits, r₁) := collect (b.toNat - 0x30) r
      let (dropped, r₂) := countDigits r₁
      afterDigits positive digits dropped r₂
    else refuse .badNumber r

/-! ### Arrays and objects -/

/-- Reads items up to the end of an array and collects them. `first` tells that no item was read
yet; the fuel exceeds the number of items. -/
def items {α : Type} (item : Reader α) : Nat → Bool → Reader (List α)
  | 0, _, bytes => refuse .unfinishedArray bytes
  | fuel + 1, first, bytes =>
    match skipSpace bytes with
    | [] => refuse .unfinishedArray []
    | b :: r =>
      if b = byte ']' then .ok ([], r)
      else if first then do
        let (x, left) ← item (b :: r)
        let (xs, left) ← items item fuel false left
        return (x :: xs, left)
      else if b = byte ',' then
        match skipSpace r with
        | [] => refuse .unfinishedValue []
        | c :: r₁ =>
          if c = byte ']' then refuse .trailingComma r₁
          else do
            let (x, left) ← item (c :: r₁)
            let (xs, left) ← items item fuel false left
            return (x :: xs, left)
      else refuse .missingCommaInArray r

/-- Reads the colon between a key and its value. -/
def colon (bytes : List UInt8) : Except Fault (List UInt8) :=
  match skipSpace bytes with
  | [] => refuse .unfinishedObject []
  | b :: r => if b = byte ':' then .ok r else refuse .missingColon r

/-- Reads the next key of an object, or nothing at its end. -/
def nextKey (first : Bool) : Reader (Option String) := fun bytes =>
  match skipSpace bytes with
  | [] => refuse .unfinishedObject []
  | b :: r =>
    if b = byte '\x7d' then .ok (none, r)
    else if first then
      if b = byte '"' then (string r).map fun (key, left) => (some key, left)
      else refuse .keyNotString r
    else if b = byte ',' then
      match skipSpace r with
      | [] => refuse .unfinishedValue []
      | c :: r₁ =>
        if c = byte '"' then (string r₁).map fun (key, left) => (some key, left)
        else if c = byte '\x7d' then refuse .trailingComma r₁
        else refuse .keyNotString r₁
    else refuse .missingCommaInObject r

/-- Reads the members of an object up to its end. After each key, `member` reads on and updates a
state. `first` tells that no member was read yet; the fuel exceeds the number of members. -/
def members {σ : Type} (member : String → σ → Reader σ) : Nat → Bool → σ → Reader σ
  | 0, _, _, bytes => refuse .unfinishedObject bytes
  | fuel + 1, first, state, bytes => do
    match ← nextKey first bytes with
    | (none, left) => return (state, left)
    | (some key, left) =>
      let (state, left) ← member key state left
      members member fuel false state left

/-! ### Values -/

/-- A value in which arrays and objects are nested at most `levels` deep. -/
def value : (levels : Nat) → Reader Value
  | levels, bytes =>
    match skipSpace bytes with
    | [] => refuse .unfinishedValue []
    | b :: r =>
      if b = byte 'n' then (word ['u', 'l', 'l'] r).map fun left => (.null, left)
      else if b = byte 't' then (word ['r', 'u', 'e'] r).map fun left => (.bool true, left)
      else if b = byte 'f' then (word ['a', 'l', 's', 'e'] r).map fun left => (.bool false, left)
      else if b = byte '-' then (number false r).map fun (n, left) => (.number n, left)
      else if isDigit b then (number true (b :: r)).map fun (n, left) => (.number n, left)
      else if b = byte '"' then (string r).map fun (s, left) => (.string s, left)
      else if b = byte '[' then
        match levels with
        | 0 => refuse .tooDeep r
        | inner + 1 =>
          (items (value inner) (r.length + 1) true r).map fun (xs, left) => (.array xs, left)
      else if b = byte '\x7b' then
        match levels with
        | 0 => refuse .tooDeep r
        | inner + 1 =>
          let member (key : String) (entries : List (String × Value)) : Reader (List (String × Value)) :=
            fun bytes => do
              let (v, left) ← value inner (← colon bytes)
              return (entries ++ [(key, v)], left)
          (members member (r.length + 1) true [] r).map fun (entries, left) =>
            (.object (Members.ofList entries), left)
      else refuse .noValue r

/-- Applies a reader to a whole text, in which only spaces may follow. -/
def whole {α : Type} (reader : Reader α) (bytes : List UInt8) : Except Fault α := do
  let (x, left) ← reader bytes
  match skipSpace left with
  | [] => return x
  | _ :: r => refuse .trailingCharacters r

end Reader

namespace Value

/-- How deep arrays and objects may be nested in each other. -/
def maxLevels : Nat := 127

/-- The value that some bytes are the text of. -/
def parseBytes (bytes : List UInt8) : Except Fault Value := Reader.whole (Reader.value maxLevels) bytes

/-- The value that a text is the text of. -/
def parse (text : String) : Except Fault Value := parseBytes (Text.Utf8.encode text)

end Value

end Switchboard.Json
