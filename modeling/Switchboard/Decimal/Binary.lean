/-!
# Arithmetic of doubles

A finite double, sign aside, is a multiple of the least positive one, `2 ^ -1074`, and is kept as the
natural number that it is a multiple by. It has at most 53 significant binary digits. Every operation
gives the double nearest to the exact result, and of two equally near ones the even one. There is no
infinity here: a result is too large if it is at least `limit`.
-/

namespace Switchboard.Binary

/-- A power of two. It is not unfolded by accident, since the exponents here are large. -/
@[irreducible] def power (k : Nat) : Nat := Nat.pow 2 k

/-- The number one. -/
def one : Nat := power 1074

/-- The least number that is too large for a double. -/
def limit : Nat := power 2098

/-- The natural number nearest to a fraction. -/
def nearest (num den : Nat) : Nat :=
  let n := num / den
  let twice := 2 * (num % den)
  if twice < den then n else if den < twice then n + 1 else n + n % 2

/-- The distance of the doubles next to a number. -/
def gap (n : Nat) : Nat := power (Nat.log2 n - 52)

/-- The double nearest to a fraction. -/
def round (num den : Nat) : Nat :=
  let step := gap (num / den)
  nearest num (den * step) * step

/-- The double nearest to a natural number. -/
def ofNat (n : Nat) : Nat := round (n * one) 1

/-- The product of two doubles. -/
def product (x y : Nat) : Nat := round (x * y) one

/-- The quotient of two doubles. -/
def quotient (x y : Nat) : Nat := round (x * one) y

/-- The bits of a double. The exponent counts the doublings of the gap. -/
def bits (x : Nat) : Nat := (Nat.log2 x - 52) * power 52 + x / gap x

end Switchboard.Binary
