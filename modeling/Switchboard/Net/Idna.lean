import Switchboard.Net.Punycode
import Switchboard.Text.Split
import Switchboard.Unicode.Direction
import Switchboard.Unicode.Domain
import Switchboard.Unicode.Joining

/-!
# Names of domains in ASCII

Domain names have ASCII characters only. A name with other characters stands for one: each character
is replaced by what it stands for, the text is brought into its composed form, and every label between
points that is not all ASCII is written in the digits of `Punycode` behind the prefix `xn--`. A label
that has this prefix already is read first, and must be one that could have been written.

Hyphens may stand anywhere, labels may be empty, and nothing is said about their length.
-/

namespace Switchboard.Net.Idna

open Unicode

/-- The prefix of labels that are not all ASCII. -/
def acePrefix : List Char := ['x', 'n', '-', '-']

/-- The characters that a label stands for. A label is written with the prefix only if not all of its
characters are ASCII. -/
def readLabel? (label : List Char) : Option (List Char) :=
  match acePrefix.isPrefixOf? label with
  | none => some label
  | some digits => (Punycode.decode? digits).filter fun name => !name.all Punycode.isBasic

/-- Whether a label may stand in a name: it is composed, each of its characters stands for itself, it
does not begin with a mark or with the prefix, has no point, and its joiners make a difference. -/
def isValidLabel (label : List Char) : Bool :=
  Normal.composed label = label && label.all Domain.isPlain && !acePrefix.isPrefixOf label &&
    !label.head?.any (fun c => Category.anyContains Category.marks c.toNat) && '.' ∉ label &&
      Joining.areFitting [] label

/-- Whether the labels can be told apart when some of them are written from right to left. -/
def areConsistent (labels : List (List Char)) : Bool :=
  !labels.any Direction.isMixed || labels.all Direction.isConsistent

/-- Writes a label in ASCII. -/
def writeLabel (label : List Char) : List Char :=
  if label.all Punycode.isBasic then label else acePrefix ++ Punycode.encode label

/-- The name in ASCII that a name stands for. -/
def toAscii? (name : List Char) : Option (List Char) := do
  let replaced ← name.mapM Domain.replacement
  let labels ← (Text.Split.all '.' (Normal.composed replaced.flatten)).mapM readLabel?
  guard (labels.all isValidLabel && areConsistent labels)
  return ['.'].intercalate (labels.map writeLabel)

end Switchboard.Net.Idna
