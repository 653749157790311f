import Switchboard.Pattern.Expr

/-!
# The size of a pattern

A pattern is refused when the automaton that recognises its reversed texts byte by byte would be too
large. The size is counted in bytes: 32 per state, 8 per labelled edge of a state with several, and 4
per alternative.

A set of ASCII characters is one state with an edge per interval. Any other set is a choice between
sequences of byte intervals; sequences share their common beginnings.
-/

namespace Switchboard.Pattern.Size

open Unicode (CharSet)

/-- The bytes of one state. -/
def state : Nat := 32

/-! ### Sets as byte intervals -/

/-- The least code points of two, three and four bytes. -/
def widthStarts : List Nat := [0x80, 0x800, 0x10000]

/-- Splits an interval at the code points where encodings become longer, and around the surrogates. -/
def splitWidths (spans : List (Nat × Nat)) : List (Nat × Nat) :=
  let cutAt (spans : List (Nat × Nat)) (cut : Nat) : List (Nat × Nat) :=
    spans.flatMap fun (a, b) => if a < cut ∧ cut ≤ b then [(a, cut - 1), (cut, b)] else [(a, b)]
  let pieces := (widthStarts ++ [0xD800, 0xE000]).foldl cutAt spans
  pieces.filter fun (a, _) => a < 0xD800 || 0xE000 ≤ a

/-- Splits an interval so that below the digit of weight `64 ^ k` each part is a full range, for all
`k` up to the given one. The fuel bounds the number of cuts. -/
def splitBlocks : (fuel : Nat) → (weights : List Nat) → Nat × Nat → List (Nat × Nat)
  | 0, _, span => [span]
  | _ + 1, [], span => [span]
  | fuel + 1, w :: weights, (a, b) =>
    if a / w ≠ b / w then
      if a % w ≠ 0 then
        splitBlocks fuel (w :: weights) (a, a / w * w + (w - 1)) ++
          splitBlocks fuel (w :: weights) (a / w * w + w, b)
      else if b % w ≠ w - 1 then
        splitBlocks fuel (w :: weights) (a, b / w * w - 1) ++
          splitBlocks fuel (w :: weights) (b / w * w, b)
      else splitBlocks fuel weights (a, b)
    else splitBlocks fuel weights (a, b)

/-- The bytes of a code point. -/
def bytes (n : Nat) : List Nat :=
  if n < 0x80 then [n]
  else if n < 0x800 then [0xC0 + n / 64, 0x80 + n % 64]
  else if n < 0x10000 then [0xE0 + n / 4096, 0x80 + n / 64 % 64, 0x80 + n % 64]
  else [0xF0 + n / 262144, 0x80 + n / 4096 % 64, 0x80 + n / 64 % 64, 0x80 + n % 64]

/-- The sequences of byte intervals of a set, in ascending order. -/
def sequences (s : CharSet) : List (List (Nat × Nat)) :=
  ((splitWidths s.spans).flatMap (splitBlocks 16 [64, 4096, 262144])).map fun (a, b) =>
    (bytes a).zip (bytes b)

/-- How many items two lists share at their beginning. -/
def sharedFront : List (Nat × Nat) → List (Nat × Nat) → Nat
  | a :: as, b :: bs => if a = b then sharedFront as bs + 1 else 0
  | _, _ => 0

/-- How many nodes ordered sequences have as a tree that shares their beginnings. -/
def treeNodes (before : List (Nat × Nat)) : List (List (Nat × Nat)) → Nat
  | [] => 0
  | s :: rest => s.length - sharedFront before s + treeNodes s rest

/-- The size of a set. -/
def ofSet (s : CharSet) : Nat :=
  let spans := s.spans
  if spans.all fun (_, b) => b < 0x80 then
    match spans with
    | [(a, b)] => if a = b then state else 2 * state + 8
    | _ => 2 * state + 8 * spans.length
  else
    let seqs := sequences s
    state * (2 + treeNodes [] seqs) + 4 * seqs.length

/-! ### Expressions -/

/-- The size of an expression, given the sizes of its sets. -/
def ofExpr (set : CharSet → Nat) : Expr Atom → Nat
  | .empty => state
  | .atom (.set s) => set s
  | .atom (.look _) => state
  | .capture _ e => ofExpr set e + 2 * state
  | .cat e f => ofExpr set e + ofExpr set f
  | .alt e f => ofExpr set e + ofExpr set f + 2 * state + 8
  | .opt _ e => ofExpr set e + 2 * state + 8
  | .loop _ e => ofExpr set e + state + 8
  | .times n e => n * ofExpr set e
  | .upTo n _ e => n * (ofExpr set e + state + 8) + state

/-- A bound on the size of a set that takes no time to find. -/
def quick : CharSet → Nat
  | .span _ _ => 20 * state
  | .sameFold n => if n < 0x80 && n ≠ 0x4B && n ≠ 0x53 && n ≠ 0x6B && n ≠ 0x73 then 3 * state else 20 * state
  | .asciiFolded (.span _ _) => 3 * state
  | _ => 200000

/-- Whether an expression is at most as large as the limit. -/
def fits (limit : Nat) (e : Expr Atom) : Bool :=
  ofExpr quick e ≤ limit || ofExpr ofSet e ≤ limit

end Switchboard.Pattern.Size
