import Switchboard.Text.Blank

/-!
# Templates

A template is text with references `{{ name }}` to variables and comments between `{#` and
`#}`. A hyphen inside a bracket drops the white space of the text on its outer side, and one line
end at the end of the template is dropped. A value is put in as it is, without any escaping.

A name without a value, and an attribute of a text, are undefined and render as nothing. An attribute
of something undefined is an error, and so is everything in brackets that is no reference; statements
between `{%` and `%}` are not part of the language.
-/

namespace Switchboard.Text.Template

/-- A piece of a template. -/
inductive Piece
  | text (cs : List Char)
  /-- A variable, and the attributes asked of it. -/
  | reference (name : List Char) (attributes : List (List Char))
  deriving DecidableEq, Repr

/-- The opening brackets. -/
inductive Opening
  | reference
  | comment
  | statement
  deriving DecidableEq, Repr

/-- The bracket that a brace and the character behind it form. -/
def opening? (c : Char) : Option Opening :=
  if c = '\x7b' then some .reference
  else if c = '#' then some .comment
  else if c = '%' then some .statement
  else none

/-- The text before the first opening bracket, and the bracket with what follows it. -/
def splitOpening : List Char → List Char × Option (Opening × List Char)
  | [] => ([], none)
  | [c] => ([c], none)
  | c :: d :: rest =>
    match if c = '\x7b' then opening? d else none with
    | some bracket => ([], some (bracket, rest))
    | none =>
      let (front, found) := splitOpening (d :: rest)
      (c :: front, found)

/-- Whether a character can begin a name. -/
def startsName (c : Char) : Bool := c.isAlpha || c = '_'

/-- Whether a character can continue a name. -/
def continuesName (c : Char) : Bool := c.isAlphanum || c = '_'

/-- A name at the beginning of a text, after white space. -/
def name? (cs : List Char) : Option (List Char × List Char) :=
  let cs := cs.dropWhile Char.isWhitespace
  match cs with
  | c :: _ => if startsName c then some (cs.takeWhile continuesName, cs.dropWhile continuesName) else none
  | [] => none

/-- The attributes that follow a name, each behind a point. The fuel is the length of the text. -/
def attributes : Nat → List Char → Option (List (List Char) × List Char)
  | 0, cs => some ([], cs)
  | fuel + 1, cs =>
    match cs.dropWhile Char.isWhitespace with
    | '.' :: rest => do
      let (name, rest) ← name? rest
      let (names, rest) ← attributes fuel rest
      return (name :: names, rest)
    | rest => some ([], rest)

/-- A mark beside a bracket that says whether to drop white space. -/
def mark : List Char → Bool × List Char
  | '-' :: rest => (true, rest)
  | '+' :: rest => (false, rest)
  | cs => (false, cs)

/-- A reference from behind its opening bracket and mark: the reference, whether white space behind
it is dropped, and the rest. -/
def reference? (cs : List Char) : Option (Piece × Bool × List Char) := do
  let (name, rest) ← name? cs
  let (names, rest) ← attributes rest.length rest
  match mark rest with
  | (drop, '\x7d' :: '\x7d' :: rest) => return (.reference name names, drop, rest)
  | _ => none

/-- The end of a comment: whether white space behind it is dropped, and the rest. -/
def commentEnd? : List Char → Option (Bool × List Char)
  | '-' :: '#' :: '\x7d' :: rest => some (true, rest)
  | '#' :: '\x7d' :: rest => some (false, rest)
  | _ :: rest => commentEnd? rest
  | [] => none

/-- The pieces of a template. `drop` tells that leading white space is dropped; the fuel exceeds the
length of the text. -/
def pieces : Nat → (drop : Bool) → List Char → Option (List Piece)
  | 0, _, _ => none
  | fuel + 1, drop, cs =>
    let (front, found) := splitOpening (if drop then Blank.trimStart cs else cs)
    match found with
    | none => some [.text front]
    | some (bracket, rest) =>
      let (dropBefore, inner) := mark rest
      let front := if dropBefore then Blank.trimEnd front else front
      match bracket with
      | .statement => none
      | .comment => do
        let (dropAfter, rest) ← commentEnd? inner
        return .text front :: (← pieces fuel dropAfter rest)
      | .reference => do
        let (piece, dropAfter, rest) ← reference? inner
        return .text front :: piece :: (← pieces fuel dropAfter rest)

/-- A template without one line end at its end. -/
def dropLineEnd (cs : List Char) : List Char :=
  let cs := if cs.getLast? = some '\n' then cs.dropLast else cs
  if cs.getLast? = some '\r' then cs.dropLast else cs

/-- The pieces of a template. -/
def parse (template : List Char) : Option (List Piece) :=
  let cs := dropLineEnd template
  pieces (cs.length + 1) false cs

/-- A piece with the name `known` standing for `value`. -/
def renderPiece (known value : List Char) : Piece → Option (List Char)
  | .text cs => some cs
  | .reference name [] => some (if name = known then value else [])
  | .reference name [_] => if name = known then some [] else none
  | .reference _ (_ :: _ :: _) => none

/-- All pieces, one after the other. -/
def renderPieces (known value : List Char) : List Piece → Option (List Char)
  | [] => some []
  | piece :: rest => do
    return (← renderPiece known value piece) ++ (← renderPieces known value rest)

/-- A template with the name `known` standing for `value`. -/
def render (template known value : List Char) : Option (List Char) := do
  renderPieces known value (← parse template)

end Switchboard.Text.Template
