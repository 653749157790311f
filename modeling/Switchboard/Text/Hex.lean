/-!
# Digits of base sixteen

Digits are read in both cases. `numberIn` serves every base up to sixteen.
-/

namespace Switchboard.Text.Hex

/-- The value of a digit. -/
def value? (c : Char) : Option Nat :=
  if '0' ≤ c ∧ c ≤ '9' then some (c.toNat - 0x30)
  else if 'A' ≤ c ∧ c ≤ 'F' then some (c.toNat - 0x37)
  else if 'a' ≤ c ∧ c ≤ 'f' then some (c.toNat - 0x57)
  else none

/-- The value of a digit given as a byte. -/
def byteValue? (b : UInt8) : Option Nat := value? (Char.ofNat b.toNat)

/-- Whether a character is a digit. -/
def isDigit (c : Char) : Bool := (value? c).isSome

/-- The number whose first digits write `n`, and whose further digits are given. -/
def numberFrom (base n : Nat) : List Char → Option Nat
  | [] => some n
  | c :: rest =>
    match value? c with
    | some d => if d < base then numberFrom base (base * n + d) rest else none
    | none => none

/-- The number that some digits write in a base of at most sixteen, most significant first. -/
def numberIn (base : Nat) (digits : List Char) : Option Nat := numberFrom base 0 digits

/-- The number that some digits of base sixteen write. -/
def number? (digits : List Char) : Option Nat := numberIn 16 digits

/-- The small digit of a value below sixteen. -/
def digit (n : Nat) : Char := Nat.digitChar n

/-- The digit of a value below sixteen as a capital. -/
def capital (n : Nat) : Char := (digit n).toUpper

end Switchboard.Text.Hex
