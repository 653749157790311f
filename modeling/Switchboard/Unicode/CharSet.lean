import Switchboard.Unicode.Case

/-!
# Sets of characters

A set of characters is kept as the expression that built it, and membership is decided by walking
the expression. The closure under simple case folding is such an expression too: a code point is in
`folded s` when some code point that folds like it is in `s`.

`CharSet.spans` lists the members as ascending intervals. It is needed only where the size of a set
counts.
-/

namespace Switchboard.Unicode

/-- Sets of code points. -/
inductive CharSet
  /-- The code points between two bounds, both included. -/
  | span (first last : Nat)
  /-- The code points of some tables. -/
  | tables (tables : List Runs)
  /-- The code points that fold like `n`. -/
  | sameFold (n : Nat)
  /-- The code points that fold like a member of `s`. -/
  | folded (s : CharSet)
  /-- The members of `s` and the other case of its ASCII letters. -/
  | asciiFolded (s : CharSet)
  /-- All code points that are not in `s`. -/
  | compl (s : CharSet)
  | union (s t : CharSet)
  | inter (s t : CharSet)
  | diff (s t : CharSet)
  | symmDiff (s t : CharSet)
  deriving Repr

namespace CharSet

/-- The set without members. -/
def empty : CharSet := tables []

/-- The set of all code points. -/
def full : CharSet := span 0 0x10FFFF

/-- The set with the single member `c`. -/
def single (c : Char) : CharSet := span c.toNat c.toNat

/-- The union of some sets. -/
def unions (sets : List CharSet) : CharSet := sets.foldr union empty

/-- The code point of the other case of an ASCII letter; `n` itself for anything else. -/
def otherAsciiCase (n : Nat) : Nat :=
  if 0x41 ≤ n ∧ n ≤ 0x5A then n + 0x20 else if 0x61 ≤ n ∧ n ≤ 0x7A then n - 0x20 else n

/-- Whether code point `n` is a member. -/
def contains : CharSet → Nat → Bool
  | span first last, n => decide (first ≤ n) && decide (n ≤ last)
  | tables ts, n => ts.any fun runs => runs.contains n
  | sameFold m, n => Case.foldCode n == Case.foldCode m
  | folded s, n => (Case.orbit n).any fun m => s.contains m
  | asciiFolded s, n => s.contains n || s.contains (otherAsciiCase n)
  | compl s, n => !s.contains n
  | union s t, n => s.contains n || t.contains n
  | inter s t, n => s.contains n && t.contains n
  | diff s t, n => s.contains n && !t.contains n
  | symmDiff s t, n => s.contains n != t.contains n

/-- Whether character `c` is a member. -/
def has (s : CharSet) (c : Char) : Bool := s.contains c.toNat

/-! ### Closing under folding -/

/-- Whether a set is closed under folding by the way it is built. -/
def isClosed : CharSet → Bool
  | span _ _ | asciiFolded _ => false
  | tables ts => ts.isEmpty
  | sameFold _ | folded _ => true
  | compl s => s.isClosed
  | union s t | inter s t | diff s t | symmDiff s t => s.isClosed && t.isClosed

/-- Closes a set under folding. -/
def close (s : CharSet) : CharSet := if s.isClosed then s else folded s

/-- Whether a set is closed under the exchange of ASCII cases by the way it is built. -/
def isAsciiClosed : CharSet → Bool
  | span _ _ => false
  | tables ts => ts.isEmpty
  | sameFold _ | folded _ | asciiFolded _ => true
  | compl s => s.isAsciiClosed
  | union s t | inter s t | diff s t | symmDiff s t => s.isAsciiClosed && t.isAsciiClosed

/-- Closes a set under the exchange of ASCII cases. -/
def asciiClose (s : CharSet) : CharSet := if s.isAsciiClosed then s else asciiFolded s

/-! ### Members as intervals -/

/-- Points at which membership in the set may change: between two neighbours of this list, either
all code points are members or none is. -/
def edges : CharSet → List Nat
  | span first last => [first, last + 1]
  | tables ts => ts.flatMap fun runs => runs.intervals.flatMap fun (a, b) => [a, b + 1]
  | sameFold n => (Case.orbit n).flatMap fun m => [m, m + 1]
  | folded s => s.edges ++ (Case.points).flatMap fun m => [m, m + 1]
  | asciiFolded s => s.edges ++ (List.range 0x80)
  | compl s => s.edges
  | union s t => s.edges ++ t.edges
  | inter s t => s.edges ++ t.edges
  | diff s t => s.edges ++ t.edges
  | symmDiff s t => s.edges ++ t.edges

/-- Joins adjacent intervals of an ascending list. -/
def joinSpans : List (Nat × Nat) → List (Nat × Nat)
  | [] => []
  | (a, b) :: rest =>
    match joinSpans rest with
    | (c, d) :: more => if b + 1 = c then (a, d) :: more else (a, b) :: (c, d) :: more
    | [] => [(a, b)]

/-- The intervals between neighbours of an ascending list of points. -/
def betweens : List Nat → List (Nat × Nat)
  | a :: b :: rest => if a < b then (a, b - 1) :: betweens (b :: rest) else betweens (b :: rest)
  | _ => []

/-- The members as ascending intervals with gaps between them. -/
def spans (s : CharSet) : List (Nat × Nat) :=
  let points := ((0 :: 0x110000 :: s.edges).filter (· ≤ 0x110000)).mergeSort (· ≤ ·)
  joinSpans ((betweens points).filter fun (a, _) => s.contains a)

end CharSet

end Switchboard.Unicode
