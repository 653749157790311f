import Switchboard.Decimal.Shortest

/-!
# Numbers of JSON texts

A number is an integer of sixty-four bits, with or without sign, or a double. A double is kept by
its bits, so that numbers can be compared.

## Format of doubles

A double is written with the fewest digits that read back. The point stands inside or after the
digits for decimal exponents from -5 to 15, with at least one digit on either side; outside this
range the number is written as a digit, the further digits behind a point, and an exponent that
always has a sign.
-/

namespace Switchboard.Json

/-- Numbers. -/
inductive Number
  | int (value : Int)
  | double (bits : UInt64)
  deriving DecidableEq, Repr

namespace Number

/-- The digits of a natural number, most significant first. -/
def digits (n : Nat) : List Char := Nat.toDigits 10 n

/-- An integer in decimal. -/
def intText (n : Int) : List Char :=
  match n with
  | .ofNat n => digits n
  | .negSucc n => '-' :: digits (n + 1)

/-- A positive decimal in the format of doubles. -/
def decimalText (d : Decimal) : List Char :=
  let ds := digits d.digits
  let size := ds.length
  -- The exponent of the first digit.
  let lead : Int := d.exponent + (size : Int) - 1
  if 0 ≤ lead ∧ lead ≤ 15 then
    let whole := lead.toNat + 1
    if size ≤ whole then ds ++ List.replicate (whole - size) '0' ++ ['.', '0']
    else ds.take whole ++ '.' :: ds.drop whole
  else if -5 ≤ lead ∧ lead < 0 then
    ['0', '.'] ++ List.replicate (-lead - 1).toNat '0' ++ ds
  else
    let mantissa := if size = 1 then ds else ds.take 1 ++ '.' :: ds.drop 1
    mantissa ++ 'e' :: (if lead < 0 then '-' else '+') :: digits lead.natAbs

/-- A finite double in its format. -/
def doubleText (bits : UInt64) : List Char :=
  let sign := if bits.toNat / Nat.pow 2 63 = 1 then ['-'] else []
  sign ++ if bits.toNat % Nat.pow 2 63 = 0 then ['0', '.', '0'] else decimalText (Decimal.shortest bits)

/-- A number as it is written. -/
def text : Number → List Char
  | int n => intText n
  | double bits => doubleText bits

end Number

end Switchboard.Json
