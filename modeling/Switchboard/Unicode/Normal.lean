import Switchboard.Unicode.Normal.Table

/-!
# Composed texts

A letter with marks can be written as one character or as several. The composed form of a text writes
it with as few characters as there are: everything is taken apart, marks on one letter are brought into
the order of their combining classes, and what can be put together is put together again.

## Convention

A *starter* is a character of combining class zero; the others are marks on the starter before them.
The table of compositions is that of the characters that domain names are made of, so a text of other
characters is not brought into its composed form here.
-/

namespace Switchboard.Unicode.Normal

/-! ### Combining classes -/

/-- The class of code point `n` in some rows, which are in ascending order. -/
def classIn : List (Nat × Nat × Nat) → Nat → Nat
  | [], _ => 0
  | (first, last, value) :: rest, n =>
    if n < first then 0 else if n ≤ last then value else classIn rest n

/-- The combining class of a character. -/
def combiningClass (c : Char) : Nat := classIn Table.classes c.toNat

/-! ### Taking apart -/

/-- The first composed Korean syllable. -/
def firstSyllable : Nat := 0xAC00

/-- The last composed Korean syllable. -/
def lastSyllable : Nat := 0xD7A3

/-- The first leading consonant of syllables. -/
def leading : Nat := 0x1100

/-- The first vowel of syllables. -/
def vowel : Nat := 0x1161

/-- The code point before the first trailing consonant of syllables. -/
def trailing : Nat := 0x11A7

/-- The letters of the Korean syllable number `index`. Every leading consonant begins 588 syllables,
28 with each vowel, the first of which has no trailing consonant. -/
def syllable (index : Nat) : List Nat :=
  [leading + index / 588, vowel + index % 588 / 28] ++
    if index % 28 = 0 then [] else [trailing + index % 28]

/-- Takes code point `n` apart by some rows. The parts of a first part stand further down. -/
def decomposeIn : List (Nat × Nat × Nat) → Nat → List Nat
  | [], n => [n]
  | (composed, first, second) :: rest, n =>
    if n = composed then decomposeIn rest first ++ [second] else decomposeIn rest n

/-- Takes a character apart. No character before `0xC0` is composed. -/
def decompose (c : Char) : List Char :=
  let n := c.toNat
  if n < 0xC0 then [c]
  else if firstSyllable ≤ n ∧ n ≤ lastSyllable then (syllable (n - firstSyllable)).map Char.ofNat
  else (decomposeIn Table.compositions n).map Char.ofNat

/-! ### Ordering marks -/

/-- Puts a character in front of a text, behind the marks of lower classes that it is a mark with. -/
def insert (c : Char) : List Char → List Char
  | [] => [c]
  | d :: rest =>
    if combiningClass d ≠ 0 ∧ combiningClass d < combiningClass c then d :: insert c rest
    else c :: d :: rest

/-- Brings the marks on each starter into order; those of one class keep theirs. -/
def reorder (cs : List Char) : List Char := cs.foldr insert []

/-! ### Putting together -/

/-- The character that code points `a` and `b` compose by some rows. -/
def composeIn : List (Nat × Nat × Nat) → (a b : Nat) → Option Nat
  | [], _, _ => none
  | (composed, first, second) :: rest, a, b =>
    if b = second ∧ a = first then some composed else composeIn rest a b

/-- The syllable of a leading consonant and a vowel, or of a syllable without a trailing consonant and
such a consonant. -/
def syllable? (a b : Nat) : Option Nat :=
  if leading ≤ a ∧ a < leading + 19 ∧ vowel ≤ b ∧ b < vowel + 21 then
    some (firstSyllable + (a - leading) * 588 + (b - vowel) * 28)
  else if firstSyllable ≤ a ∧ a ≤ lastSyllable ∧ (a - firstSyllable) % 28 = 0 ∧
      trailing < b ∧ b < trailing + 28 then
    some (a + (b - trailing))
  else none

/-- The character that two characters compose. No second part comes before `0x300`. -/
def composite? (a b : Char) : Option Char :=
  if b.toNat < 0x300 then none
  else ((syllable? a.toNat b.toNat).or (composeIn Table.compositions a.toNat b.toNat)).map Char.ofNat

/-- Whether a character is kept from the starter by the marks that stand between, in reverse order. -/
def isBlocked (between : List Char) (c : Char) : Bool :=
  match between with
  | [] => false
  | last :: _ => combiningClass c ≤ combiningClass last

/-- Puts a starter together with what follows it. The marks that did not go with it are collected, the
last one first. -/
def composeFrom (starter : Char) (between : List Char) : List Char → List Char
  | [] => starter :: between.reverse
  | c :: rest =>
    match if isBlocked between c then none else composite? starter c with
    | some composed => composeFrom composed between rest
    | none =>
      if combiningClass c = 0 then starter :: between.reverse ++ composeFrom c [] rest
      else composeFrom starter (c :: between) rest

/-- Puts together what can be put together. Marks without a starter stay. -/
def compose : List Char → List Char
  | [] => []
  | c :: rest => if combiningClass c = 0 then composeFrom c [] rest else c :: compose rest

/-- The composed form of a text. -/
def composed (cs : List Char) : List Char := compose (reorder (cs.flatMap decompose))

end Switchboard.Unicode.Normal
