/-!
# Sets of positions

A set of positions of a text is a natural number: position `i` is a member when bit `i` is set.
-/

namespace Switchboard.Pattern

/-- Sets of positions. -/
abbrev Positions := Nat

namespace Positions

/-- Whether `i` is a member. -/
def has (s : Positions) (i : Nat) : Bool := s.testBit i

/-- The positions below `n`. -/
def below (n : Nat) : Positions := Nat.pow 2 n - 1

/-- The single position `i`. -/
def single (i : Nat) : Positions := 1 <<< i

/-- The members above `i`. -/
def above (s : Positions) (i : Nat) : Positions := (s >>> (i + 1)) <<< (i + 1)

/-- The positions of which the next one is a member. -/
def before (s : Positions) : Positions := s >>> 1

/-- The positions of a list of flags that are set. -/
def ofFlags : List Bool → Positions
  | [] => 0
  | b :: rest => 2 * ofFlags rest + b.toNat

/-- The least member among the next `fuel` positions from `i` on. -/
def firstFrom (s : Positions) : (fuel : Nat) → (i : Nat) → Option Nat
  | 0, _ => none
  | fuel + 1, i => if s.has i then some i else firstFrom s fuel (i + 1)

/-- Adds positions to a set until `f` yields no new ones, at most `fuel` times. -/
def grow (f : Positions → Positions) : (fuel : Nat) → Positions → Positions
  | 0, s => s
  | fuel + 1, s =>
    let t := s ||| f s
    if t = s then s else grow f fuel t

/-- Applies a function `n` times. -/
def iterate (f : Positions → Positions) : (n : Nat) → Positions → Positions
  | 0, s => s
  | n + 1, s => if s = 0 then 0 else f (iterate f n s)

/-- Up to `n` applications of a function, each result joined with the start. -/
def iterateUpTo (f : Positions → Positions) (start : Positions) : (n : Nat) → Positions
  | 0 => start
  | n + 1 => start ||| f (iterateUpTo f start n)

end Positions

end Switchboard.Pattern
