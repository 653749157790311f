/-!
# Runs of code points

A set of code points is written as a list of runs `(first, last, step)`, each standing for
`first, first + step, …, last`. Tables keep their runs in ascending order of `first`, so that a
search can stop at the first run that begins beyond the code point it looks for.
-/

namespace Switchboard.Unicode

/-- Runs `(first, last, step)` of code points in ascending order of `first`. -/
abbrev Runs := List (Nat × Nat × Nat)

namespace Runs

/-- Whether `n` lies on one of the runs. -/
def contains : Runs → Nat → Bool
  | [], _ => false
  | (first, last, step) :: rest, n =>
    if n < first then false
    else (decide (n ≤ last) && (n - first) % step == 0) || contains rest n

/-- The code points of the runs as intervals: a run of step one is an interval, any other falls
into single points. -/
def intervals (runs : Runs) : List (Nat × Nat) :=
  runs.flatMap fun (first, last, step) =>
    if step = 1 then [(first, last)]
    else (List.range ((last - first) / step + 1)).map fun k => (first + k * step, first + k * step)

end Runs

end Switchboard.Unicode
