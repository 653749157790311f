/-!
# Shortest decimals of binary numbers

A finite binary floating-point number stands for all real numbers that round to it. `shortest` finds
the decimal with the fewest digits among them, and of those with equally many digits the one nearest
to the number itself. All arithmetic is on natural numbers: a positive number is a fraction
`num / den`, and the numbers that round to it lie between `low / den` and `high / den`, the ends
belonging to them or not.
-/

namespace Switchboard

/-- A positive decimal `digits · 10 ^ exponent`. -/
structure Decimal where
  digits : Nat
  exponent : Int
  deriving DecidableEq, Repr

namespace Decimal

/-- A positive fraction with the interval of the reals that round to it. -/
structure Rounding where
  num : Nat
  low : Nat
  high : Nat
  den : Nat
  /-- Whether the ends of the interval round to the number too. -/
  closed : Bool
  deriving Repr

namespace Rounding

/-- The interval of the double with mantissa `m` and exponent `q`, that is `m · 2 ^ q`. The gap below
a power of two is half as wide as the one above it, unless the number is the least of its kind. -/
def ofDouble (m : Nat) (q : Int) (narrowBelow : Bool) : Rounding :=
  let up := q.toNat
  let down := (-q).toNat
  { num := 4 * m * Nat.pow 2 up
    low := (4 * m - if narrowBelow then 1 else 2) * Nat.pow 2 up
    high := (4 * m + 2) * Nat.pow 2 up
    den := 4 * Nat.pow 2 down
    closed := m % 2 = 0 }

/-- Whether the decimal `n · 10 ^ e` lies in the interval. -/
def holds (r : Rounding) (n : Nat) (e : Int) : Bool :=
  let x := n * Nat.pow 10 e.toNat * r.den
  let scale := Nat.pow 10 (-e).toNat
  if r.closed then r.low * scale ≤ x && x ≤ r.high * scale
  else r.low * scale < x && x < r.high * scale

/-- The largest `n` with `n · 10 ^ e` not above the number. -/
def below (r : Rounding) (e : Int) : Nat :=
  r.num * Nat.pow 10 (-e).toNat / (r.den * Nat.pow 10 e.toNat)

/-- Whether `n · 10 ^ e` is at least as near to the number as `(n + 1) · 10 ^ e`; of two equally near
ones the even one counts as nearer. -/
def nearerBelow (r : Rounding) (n : Nat) (e : Int) : Bool :=
  let twice := (2 * n + 1) * Nat.pow 10 e.toNat * r.den
  let exact := 2 * r.num * Nat.pow 10 (-e).toNat
  exact < twice || (exact == twice && n % 2 == 0)

/-- The decimal of exponent `e` that stands for the number, if the interval holds one. -/
def onGrid (r : Rounding) (e : Int) : Option Decimal :=
  let n := r.below e
  let floor := n != 0 && r.holds n e
  let ceiling := r.holds (n + 1) e
  if floor && (!ceiling || r.nearerBelow n e) then some ⟨n, e⟩
  else if ceiling then some ⟨n + 1, e⟩
  else none

/-- The first decimal found on ever finer grids, from exponent `e` down. -/
def search (r : Rounding) : Nat → Int → Decimal
  | 0, e => ⟨r.below e, e⟩
  | fuel + 1, e =>
    match r.onGrid e with
    | some d => d
    | none => search r fuel (e - 1)

end Rounding

/-- The shortest decimal of the positive finite double with the given bits, sign aside. The search
starts on a grid too coarse for any double and needs at most 17 digits. -/
def shortest (bits : UInt64) : Decimal :=
  let fraction := bits.toNat % Nat.pow 2 52
  let field := bits.toNat / Nat.pow 2 52 % Nat.pow 2 11
  let m := if field = 0 then fraction else Nat.pow 2 52 + fraction
  let q : Int := Int.ofNat (max field 1) - 1075
  let r := Rounding.ofDouble m q (fraction = 0 && 1 < field)
  -- The number is below `2 ^ top`, and `2 ^ top` is below `10 ^ start`.
  let top : Int := q + Int.ofNat (Nat.log2 m + 1)
  let start : Int := top * (if 0 ≤ top then 31 else 30) / 100 + 2
  r.search 400 start

end Decimal

end Switchboard
