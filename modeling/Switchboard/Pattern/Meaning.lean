import Switchboard.Pattern.Expr
import Switchboard.Pattern.Tree

/-!
# The meaning of patterns

The flags in force at each place of a pattern decide what its items mean. `ofTree` carries them along
from left to right: a list of flags acts up to the end of the group it stands in, and the flags of a
group act inside it.

Where case is ignored, a letter stands for all letters with the same simple case folding, and a class
in brackets is closed under case folding before it is negated. Digits, spaces and word characters are
closed under case folding as they are.

Where classes do not hold characters of all scripts, an item that would match a part of a character is
refused: a pattern matches characters only.
-/

namespace Switchboard.Pattern

open Unicode (CharSet)

/-- The flags in force. -/
structure Mode where
  ignoreCase : Bool
  multiLine : Bool
  dotMatchesNewline : Bool
  swapGreed : Bool
  unicode : Bool
  crlf : Bool
  deriving DecidableEq, Repr

namespace Mode

/-- The flags at the start of a pattern: case is ignored, and classes hold characters of all scripts. -/
def initial : Mode :=
  { ignoreCase := true, multiLine := false, dotMatchesNewline := false, swapGreed := false,
    unicode := true, crlf := false }

/-- The flags after a list of changes. -/
def change (mode : Mode) (items : List FlagItem) : Mode :=
  { ignoreCase := (flagState .ignoreCase false items).getD mode.ignoreCase
    multiLine := (flagState .multiLine false items).getD mode.multiLine
    dotMatchesNewline := (flagState .dotMatchesNewline false items).getD mode.dotMatchesNewline
    swapGreed := (flagState .swapGreed false items).getD mode.swapGreed
    unicode := (flagState .unicode false items).getD mode.unicode
    crlf := (flagState .crlf false items).getD mode.crlf }

end Mode

namespace Meaning

/-! ### Sets -/

/-- The ASCII digits. -/
def asciiDigits : CharSet := .span 0x30 0x39

/-- The ASCII letters. -/
def asciiLetters : CharSet := .union (.span 0x41 0x5A) (.span 0x61 0x7A)

/-- ASCII digits, letters and the low line. -/
def asciiWord : CharSet := .union asciiDigits (.union asciiLetters (.single '_'))

/-- Tab to carriage return, and the space. -/
def asciiSpace : CharSet := .union (.span 9 13) (.single ' ')

/-- The members of a named class of ASCII characters. -/
def asciiSet : AsciiClass → CharSet
  | .alnum => .union asciiDigits asciiLetters
  | .alpha => asciiLetters
  | .ascii => .span 0 0x7F
  | .blank => .union (.single '\t') (.single ' ')
  | .cntrl => .union (.span 0 0x1F) (.single '\x7f')
  | .digit => asciiDigits
  | .graph => .span 0x21 0x7E
  | .lower => .span 0x61 0x7A
  | .print => .span 0x20 0x7E
  | .punct => .unions [.span 0x21 0x2F, .span 0x3A 0x40, .span 0x5B 0x60, .span 0x7B 0x7E]
  | .space => asciiSpace
  | .upper => .span 0x41 0x5A
  | .word => asciiWord
  | .xdigit => .unions [asciiDigits, .span 0x41 0x46, .span 0x61 0x66]

/-- Digits, spaces and word characters of all scripts. -/
def perlSet : PerlClass → CharSet
  | .digit => .tables [Unicode.Category.Table.decimalNumber]
  | .space => .tables [Unicode.Property.whiteSpace]
  | .word => .tables Unicode.Property.word

/-- ASCII digits, spaces and word characters. -/
def perlAsciiSet : PerlClass → CharSet
  | .digit => asciiDigits
  | .space => asciiSpace
  | .word => asciiWord

/-- The complement of a set of ASCII characters holds parts of characters, so it is refused. -/
def negateAscii (negated : Bool) (s : CharSet) : Except Fault CharSet :=
  if negated then .error .invalidUtf8 else .ok s

/-- The set of a class with a letter of its own. -/
def perl (mode : Mode) (cls : PerlClass) (negated : Bool) : Except Fault CharSet :=
  if mode.unicode then .ok (if negated then .compl (perlSet cls) else perlSet cls)
  else negateAscii negated (perlAsciiSet cls)

/-- Closes a set under case folding where case is ignored. -/
def fold (mode : Mode) (s : CharSet) : CharSet :=
  if mode.ignoreCase then if mode.unicode then s.close else s.asciiClose else s

/-- Closes a set under case folding where case is ignored, and then negates it. -/
def foldAndNegate (mode : Mode) (negated : Bool) (s : CharSet) : Except Fault CharSet :=
  let s := fold mode s
  if mode.unicode then .ok (if negated then .compl s else s) else negateAscii negated s

/-- The set of a property. -/
def property (mode : Mode) (query : Unicode.Lookup.Query) (negated : Bool) : Except Fault CharSet :=
  if mode.unicode then
    match Unicode.Lookup.find query with
    | .ok s => foldAndNegate mode negated s
    | .error .unknownProperty => .error .unknownProperty
    | .error .unknownValue => .error .unknownPropertyValue
  else .error .unicodeNotAllowed

/-- Refuses a byte that is no character by itself. -/
def checkByte (mode : Mode) (l : Literal) : Except Fault Unit :=
  if !mode.unicode && l.isByte && 0x7F < l.char.toNat then .error .invalidUtf8 else .ok ()

/-- A character as a member of a class. -/
def classChar (mode : Mode) (l : Literal) : Except Fault Nat := do
  checkByte mode l
  if !mode.unicode && 0x7F < l.char.toNat then .error .unicodeNotAllowed else return l.char.toNat

mutual

/-- The set that the content of a class stands for. -/
def classSet (mode : Mode) : ClassTree → Except Fault CharSet
  | .empty => .ok .empty
  | .literal l => do
    let n ← classChar mode l
    return .span n n
  | .range a b => do
    let first ← classChar mode a
    let last ← classChar mode b
    return .span first last
  | .ascii cls negated => foldAndNegate mode negated (asciiSet cls)
  | .property query negated => property mode query negated
  | .perl cls negated => perl mode cls negated
  | .bracketed negated content => do foldAndNegate mode negated (← classSet mode content)
  | .union items => classSets mode items
  | .op op left right => do
    let left := fold mode (← classSet mode left)
    let right := fold mode (← classSet mode right)
    match op with
    | .intersection => return .inter left right
    | .difference => return .diff left right
    | .symmetricDifference => return .symmDiff left right

/-- The union of the sets of some items. -/
def classSets (mode : Mode) : List ClassTree → Except Fault CharSet
  | [] => .ok .empty
  | item :: rest => do
    let s ← classSet mode item
    let t ← classSets mode rest
    return .union s t

end

/-! ### Items -/

/-- The set of a character in a pattern. -/
def literalSet (mode : Mode) (c : Char) : CharSet :=
  if !mode.ignoreCase then .single c
  else if mode.unicode then .sameFold c.toNat
  else if c.isAlpha then .asciiFolded (.single c)
  else .single c

/-- What a point stands for. -/
def dotSet (mode : Mode) : CharSet :=
  if mode.dotMatchesNewline then .full
  else if mode.crlf then .compl (.union (.single '\n') (.single '\r'))
  else .compl (.single '\n')

/-- The condition of an assertion. -/
def look (mode : Mode) : Assertion → Look
  | .startLine => if mode.multiLine then if mode.crlf then .startLineCrlf else .startLine else .start
  | .endLine => if mode.multiLine then if mode.crlf then .endLineCrlf else .endLine else .finish
  | .startText => .start
  | .endText => .finish
  | .wordBoundary => .word !mode.unicode
  | .notWordBoundary => .notWord !mode.unicode
  | .wordStart => .wordStart !mode.unicode
  | .wordEnd => .wordEnd !mode.unicode
  | .wordStartHalf => .wordStartHalf !mode.unicode
  | .wordEndHalf => .wordEndHalf !mode.unicode

/-- Whether an expression matches the empty text at most. -/
def isEmptyOnly : Expr Atom → Bool
  | .empty => true
  | .atom (.look _) => true
  | .atom (.set _) => false
  | .capture _ e => isEmptyOnly e
  | .cat e f => isEmptyOnly e && isEmptyOnly f
  | .alt e f => isEmptyOnly e && isEmptyOnly f
  | .opt _ e => isEmptyOnly e
  | .loop _ e => isEmptyOnly e
  | .times _ e => isEmptyOnly e
  | .upTo _ _ e => isEmptyOnly e

/-- A repetition. Of an expression that matches the empty text at most, one repetition is as good as
many. -/
def repeated (least : Nat) (greatest : Option Nat) (greedy : Bool) (e : Expr Atom) : Expr Atom :=
  if isEmptyOnly e then .rep (min least 1) (some (greatest.elim 1 (min · 1))) greedy e
  else .rep least greatest greedy e

mutual

/-- The meaning of a pattern, and the flags in force behind it. -/
def ofTree (mode : Mode) : Tree → Except Fault (Expr Atom × Mode)
  | .empty => .ok (.empty, mode)
  | .flags items => .ok (.empty, mode.change items)
  | .literal l => do
    checkByte mode l
    return (.atom (.set (literalSet mode l.char)), mode)
  | .dot =>
    if mode.unicode then .ok (.atom (.set (dotSet mode)), mode) else .error .invalidUtf8
  | .assertion a => .ok (.atom (.look (look mode a)), mode)
  | .property query negated => do return (.atom (.set (← property mode query negated)), mode)
  | .perl cls negated => do return (.atom (.set (← perl mode cls negated)), mode)
  | .brackets negated content => do
    let s ← foldAndNegate mode negated (← classSet mode content)
    return (.atom (.set s), mode)
  | .repetition min max greedy tree => do
    let (e, mode) ← ofTree mode tree
    return (repeated min max (greedy != mode.swapGreed) e, mode)
  | .group kind tree => do
    let inner := match kind with
      | .flagged items => mode.change items
      | _ => mode
    let (e, _) ← ofTree inner tree
    match kind with
    | .capturing => return (.capture none e, mode)
    | .named name => return (.capture name e, mode)
    | .flagged _ => return (e, mode)
  | .alternation trees => do
    let (es, mode) ← ofTrees mode trees
    return (.choice es, mode)
  | .concat trees => do
    let (es, mode) ← ofTrees mode trees
    return (.concat es, mode)

/-- The meanings of some patterns, and the flags in force behind them. -/
def ofTrees (mode : Mode) : List Tree → Except Fault (List (Expr Atom) × Mode)
  | [] => .ok ([], mode)
  | tree :: rest => do
    let (e, mode) ← ofTree mode tree
    let (es, mode) ← ofTrees mode rest
    return (e :: es, mode)

end

end Meaning

end Switchboard.Pattern
