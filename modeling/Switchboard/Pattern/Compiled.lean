import Switchboard.Pattern.Match
import Switchboard.Pattern.Meaning
import Switchboard.Pattern.Parse
import Switchboard.Pattern.Size

/-!
# Compiled patterns

A pattern is compiled from its source and then matched against texts. The match that is found starts
as early as possible; a group that takes part in it several times keeps its last span.
-/

namespace Switchboard

/-- A pattern with its source. -/
structure Pattern where
  source : String
  expr : Pattern.Expr Pattern.Atom
  deriving Repr

namespace Pattern

/-- Compiles a pattern. -/
def compile (source : String) : Except Fault Pattern := do
  let tree ← Parse.tree source.toList
  let (expr, _) ← Meaning.ofTree .initial tree
  if Size.fits sizeLimit expr then return ⟨source, expr⟩ else .error .tooLarge

/-- Whether a pattern matches somewhere in a text. -/
def isMatch (pattern : Pattern) (text : List Char) : Bool := Match.found pattern.expr text

/-- The texts of the groups in a match, with the names of those that have one. -/
abbrev Groups := List (Option String × List Char)

/-- The text of the group of a name. -/
def Groups.get? (groups : Groups) (name : String) : Option (List Char) :=
  (groups.find? fun group => group.1 == some name).map Prod.snd

/-- The groups of the match that is found in a text, the last span of each group first. -/
def groups? (pattern : Pattern) (text : List Char) : Option Groups :=
  (Match.search pattern.expr text).map fun (_, _, spans) =>
    spans.reverse.map fun (name, i, j) => (name, (text.drop i).take (j - i))

end Pattern

end Switchboard
