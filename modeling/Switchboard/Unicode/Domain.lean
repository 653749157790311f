import Switchboard.Unicode.Case
import Switchboard.Unicode.Category
import Switchboard.Unicode.Domain.Table

/-!
# Characters of domain names

Each character of a name stands for some characters: for itself, for its small or its plain form, for
several characters, or for none at all. Some characters may not stand in a name.
-/

namespace Switchboard.Unicode.Domain

/-- The entry for code point `n` in rows of entries for code points behind one another. -/
def listed? {α : Type} : List (Nat × List α) → Nat → Option α
  | [], _ => none
  | (first, entries) :: rest, n =>
    if n < first then none else (entries[n - first]?).or (listed? rest n)

/-- Whether no name is made of code point `n`. -/
def isDisallowed (n : Nat) : Bool :=
  Table.disallowed.contains n || !Category.anyContains Category.all n

/-- The code points that code point `n`, which is beyond ASCII, stands for. -/
def replacementOf (n : Nat) : Option (List Nat) :=
  match Table.single.findSome? fun rows => listed? rows n, listed? Table.several n with
  | some m, _ => some [m]
  | none, some ms => some ms
  | none, none =>
    let m := Case.image Table.shifted n
    if m ≠ n then some [m]
    else if Table.ignored.contains n then some []
    else if isDisallowed n then none
    else some [n]

/-- The characters that a character stands for. In ASCII these are the small letters. -/
def replacement (c : Char) : Option (List Char) :=
  if c.toNat < 0x80 then some [c.toLower] else (replacementOf c.toNat).map (·.map Char.ofNat)

/-- Whether a character stands for itself. -/
def isPlain (c : Char) : Bool := replacement c = some [c]

end Switchboard.Unicode.Domain
