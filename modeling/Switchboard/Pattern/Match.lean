import Switchboard.Pattern.Expr
import Switchboard.Pattern.Positions
import Switchboard.Unicode.Property

/-!
# Matching

To match an expression against a text, its atoms are first placed on the text: a set of characters
becomes the set of positions at which such a character stands, and a condition the set of positions at
which it holds. From then on only positions matter.

`back e s` is the set of positions from which `e` can reach a position in `s`. `pick e i s` makes the
preferred choices from position `i` on: it follows the first choice that can still reach `s`, and
records the spans of groups. Among all matches, the search takes one that starts as early as possible,
and of these the preferred one.

## Repetition

A loop is tried once more only if the next repetition takes at least one character. The first
repetition may be empty; the loop ends then.
-/

namespace Switchboard.Pattern

/-- What an atom allows on a given text. -/
inductive Move
  /-- To go from a position in the set to the next one. -/
  | step (places : Positions)
  /-- To stay at a position in the set. -/
  | stay (places : Positions)
  deriving Repr

namespace Match

/-! ### Placing atoms on a text -/

/-- Whether a character is a word character. -/
def isWord (ascii : Bool) (c : Char) : Bool :=
  if ascii then c.isAlphanum || c = '_' else Unicode.Property.anyContains Unicode.Property.word c.toNat

/-- Whether there is a character, and it is a word character. -/
def wordAt (ascii : Bool) (c : Option Char) : Bool := c.any (isWord ascii)

/-- Whether a condition holds between two characters, of which either may be missing at an end of the
text. -/
def holds (previous next : Option Char) : Look → Bool
  | .start => previous.isNone
  | .finish => next.isNone
  | .startLine => previous.all (· == '\n')
  | .endLine => next.all (· == '\n')
  | .startLineCrlf =>
    previous.all fun c => c == '\n' || (c == '\r' && next != some '\n')
  | .endLineCrlf =>
    next.all fun c => c == '\r' || (c == '\n' && previous != some '\r')
  | .word ascii => wordAt ascii previous != wordAt ascii next
  | .notWord ascii => wordAt ascii previous == wordAt ascii next
  | .wordStart ascii => !wordAt ascii previous && wordAt ascii next
  | .wordEnd ascii => wordAt ascii previous && !wordAt ascii next
  | .wordStartHalf ascii => !wordAt ascii previous
  | .wordEndHalf ascii => !wordAt ascii next

/-- At which positions a condition holds, given the character before the text. -/
def lookFlags (look : Look) (previous : Option Char) : List Char → List Bool
  | [] => [holds previous none look]
  | c :: rest => holds previous (some c) look :: lookFlags look (some c) rest

/-- What an atom allows on a text. -/
def place (text : List Char) : Atom → Move
  | .set s => .step (.ofFlags (text.map s.has))
  | .look l => .stay (.ofFlags (lookFlags l none text))

/-! ### Reaching positions -/

/-- The positions from which an expression can reach a position in `s`, on a text of `n`
characters. -/
def back (n : Nat) : Expr Move → Positions → Positions
  | .empty, s => s
  | .atom (.step places), s => places &&& s.before
  | .atom (.stay places), s => places &&& s
  | .capture _ e, s => back n e s
  | .cat e f, s => back n e (back n f s)
  | .alt e f, s => back n e s ||| back n f s
  | .opt _ e, s => s ||| back n e s
  | .loop _ e, s => back n e (Positions.grow (back n e) (n + 1) s)
  | .times k e, s => Positions.iterate (back n e) k s
  | .upTo k _ e, s => Positions.iterateUpTo (back n e) s k

/-- The spans recorded for groups, in the order in which they ended. -/
abbrev Spans := List (Option String × Nat × Nat)

/-- An end position and the spans recorded on the way to it. -/
abbrev Way := Option (Nat × Spans)

/-- Tries the first way, and then the second. -/
def orElse (first : Way) (second : Unit → Way) : Way :=
  match first with
  | some way => some way
  | none => second ()

/-- Goes on from the end of a way. -/
def andThen (first : Way) (second : Nat → Way) : Way :=
  match first with
  | none => none
  | some (j, spans) => (second j).map fun (k, more) => (k, spans ++ more)

/-- Stays at `i` if it is in `s`. -/
def stop (i : Nat) (s : Positions) : Way := if s.has i then some (i, []) else none

/-- Tries a way and stopping at `i`, in the order that greed asks for. -/
def wayOrStop (greedy : Bool) (i : Nat) (s : Positions) (way : Unit → Way) : Way :=
  if greedy then orElse (way ()) fun _ => stop i s else orElse (stop i s) way

/-- Repeats from `i` on, given one repetition, and the set `t` of positions from which repetitions
can reach `s`. Each repetition takes at least one character. -/
def again (one : Nat → Positions → Way) (greedy : Bool) (s t : Positions) : (fuel : Nat) → Nat → Way
  | 0, i => stop i s
  | fuel + 1, i =>
    wayOrStop greedy i s fun _ => andThen (one i (t.above i)) (again one greedy s t fuel)

/-- Repeats exactly `k` times. -/
def pickTimes (one : Nat → Positions → Way) (step : Positions → Positions) (s : Positions) :
    (k : Nat) → Nat → Way
  | 0, i => stop i s
  | k + 1, i => andThen (one i (Positions.iterate step k s)) (pickTimes one step s k)

/-- Repeats at most `k` times. -/
def pickUpTo (one : Nat → Positions → Way) (step : Positions → Positions) (greedy : Bool)
    (s : Positions) : (k : Nat) → Nat → Way
  | 0, i => stop i s
  | k + 1, i =>
    wayOrStop greedy i s fun _ =>
      andThen (one i (Positions.iterateUpTo step s k)) (pickUpTo one step greedy s k)

/-- The preferred way from position `i` to a position in `s`, on a text of `n` characters. -/
def pick (n : Nat) : Expr Move → Nat → Positions → Way
  | .empty, i, s => stop i s
  | .atom (.step places), i, s => if places.has i then stop (i + 1) s else none
  | .atom (.stay places), i, s => if places.has i then stop i s else none
  | .capture name e, i, s =>
    (pick n e i s).map fun (j, spans) => (j, spans ++ [(name, i, j)])
  | .cat e f, i, s => andThen (pick n e i (back n f s)) fun j => pick n f j s
  | .alt e f, i, s => orElse (pick n e i s) fun _ => pick n f i s
  | .opt greedy e, i, s => wayOrStop greedy i s fun _ => pick n e i s
  | .loop greedy e, i, s =>
    let t := Positions.grow (back n e) (n + 1) s
    -- After an empty first repetition the loop ends.
    let first := t.above i ||| (s &&& Positions.single i)
    andThen (pick n e i first) fun j =>
      if j = i then stop i s else again (pick n e) greedy s t (n + 1) j
  | .times k e, i, s => pickTimes (pick n e) (back n e) s k i
  | .upTo k greedy e, i, s => pickUpTo (pick n e) (back n e) greedy s k i

/-! ### Searching -/

/-- The positions of a text of `n` characters. -/
def allPositions (n : Nat) : Positions := .below (n + 1)

/-- Whether an expression matches somewhere in a text. -/
def found (e : Expr Atom) (text : List Char) : Bool :=
  back text.length (e.map (place text)) (allPositions text.length) != 0

/-- Where the preferred match in a text starts, and the spans of its groups. -/
def search (e : Expr Atom) (text : List Char) : Option (Nat × Nat × Spans) :=
  let n := text.length
  let placed := e.map (place text)
  match (back n placed (allPositions n)).firstFrom (n + 1) 0 with
  | none => none
  | some i => (pick n placed i (allPositions n)).map fun (j, spans) => (i, j, spans)

end Match

end Switchboard.Pattern
