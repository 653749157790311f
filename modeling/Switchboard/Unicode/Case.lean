import Switchboard.Unicode.Case.Table
import Switchboard.Unicode.Property

/-!
# Letter case

Two notions of case live here. `foldCode` is *simple case folding*: it sends a code point to one
representative of those that differ from it in case only, and the sets of a pattern that ignores case
are closed under it. `lowercase` is *full lower-casing* of a text: the capital I with a dot
above becomes two characters, and a capital sigma becomes the final form at the end of a word.
-/

namespace Switchboard.Unicode.Case

/-- The image of code point `n` under the rows of a case table; `n` itself when no row holds it. -/
def image : Table.Rows → Nat → Nat
  | [], n => n
  | (first, last, step, target) :: rest, n =>
    if n < first then n
    else if n ≤ last ∧ (n - first) % step = 0 then target + (n - first)
    else image rest n

/-- Simple case folding of a code point. -/
def foldCode (n : Nat) : Nat := image Table.fold n

/-- The code points that the rows of a case table send to `t`. -/
def sources : Table.Rows → Nat → List Nat
  | [], _ => []
  | (first, last, step, target) :: rest, t =>
    if target ≤ t ∧ t ≤ target + (last - first) ∧ (t - target) % step = 0 then
      (first + (t - target)) :: sources rest t
    else sources rest t

/-- The code points that fold as `n` does. -/
def orbit (n : Nat) : List Nat := foldCode n :: sources Table.fold (foldCode n)

/-- All code points that differ in case from another one. -/
def points : List Nat :=
  Table.fold.flatMap fun (first, last, step, target) =>
    (List.range ((last - first) / step + 1)).flatMap fun k =>
      [first + k * step, target + k * step]

/-- The small form of a character on its own. -/
def lowerChar (c : Char) : List Char :=
  if c.toNat = 0x130 then ['i', '\u0307'] else [Char.ofNat (image Table.lower c.toNat)]

/-- Whether the first character that is not case-ignorable is cased. -/
def meetsCased (cs : List Char) : Bool :=
  match cs.dropWhile (fun c => Property.isCaseIgnorable c.toNat) with
  | [] => false
  | c :: _ => Property.isCased c.toNat

/-- Lower-cases `rest`, the characters before which are `seen` in reverse order. A capital sigma
ends a word when a cased letter stands before it and none after it, case-ignorable characters
aside. -/
def lowercaseFrom (seen : List Char) : List Char → List Char
  | [] => []
  | c :: rest =>
    (if c = 'Σ' then [if meetsCased seen && !meetsCased rest then 'ς' else 'σ'] else lowerChar c) ++
      lowercaseFrom (c :: seen) rest

/-- Full lower-casing of a list of characters. -/
def lowercaseChars (cs : List Char) : List Char := lowercaseFrom [] cs

/-- Full lower-casing of a text. -/
def lowercase (s : String) : String := String.ofList (lowercaseChars s.toList)

end Switchboard.Unicode.Case
