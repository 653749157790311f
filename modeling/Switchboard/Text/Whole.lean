/-!
# Whole numbers in texts

A whole number is written with decimal digits of ASCII; leading zeros do not count. Where a value is
read from outside, one plus sign may stand before the digits, and there is a greatest number.
-/

namespace Switchboard.Text.Whole

/-- The number that decimal digits write. -/
def decimal (digits : List Char) : Nat :=
  digits.foldl (fun n c => 10 * n + (c.toNat - 0x30)) 0

/-- A text without one plus sign at its beginning. -/
def dropSign : List Char → List Char
  | '+' :: rest => rest
  | cs => cs

/-- Reads a number that is not greater than `greatest`. -/
def parse? (greatest : Nat) (cs : List Char) : Option Nat :=
  let digits := dropSign cs
  if digits.isEmpty || !digits.all Char.isDigit then none
  else if decimal digits ≤ greatest then some (decimal digits)
  else none

end Switchboard.Text.Whole
