import Switchboard.Unicode.Lookup

/-!
# Patterns as they are written

`Tree` is the shape of a pattern before any meaning is given to it: flags are still in the places
where they were written, and classes are still expressions. `Fault` lists what can be wrong with a
pattern.
-/

namespace Switchboard.Pattern

/-- The flags that change the meaning of a pattern from their place on. -/
inductive Flag
  /-- Letters match in any case. -/
  | ignoreCase
  /-- `^` and `$` match at line ends. -/
  | multiLine
  /-- A point matches line ends too. -/
  | dotMatchesNewline
  /-- Greedy and lazy repetition change places. -/
  | swapGreed
  /-- Classes hold characters of all scripts. -/
  | unicode
  /-- Carriage returns end lines too. -/
  | crlf
  /-- White space and comments in the pattern do not count. -/
  | ignoreWhitespace
  deriving DecidableEq, Repr

/-- An item of a list of flags. -/
inductive FlagItem
  /-- The flags that follow are turned off. -/
  | negation
  | flag (flag : Flag)
  deriving DecidableEq, Repr

/-- What a list of flags says about a flag. -/
def flagState (flag : Flag) : (negated : Bool) → List FlagItem → Option Bool
  | _, [] => none
  | _, .negation :: rest => flagState flag true rest
  | negated, .flag f :: rest => if f = flag then some !negated else flagState flag negated rest

/-- A character in a pattern. A character written by two digits of base sixteen is a byte where
classes do not hold characters of all scripts. -/
structure Literal where
  char : Char
  isByte : Bool := false
  deriving DecidableEq, Repr

/-- Conditions on a place in a text. -/
inductive Assertion
  | startLine
  | endLine
  | startText
  | endText
  | wordBoundary
  | notWordBoundary
  | wordStart
  | wordEnd
  | wordStartHalf
  | wordEndHalf
  deriving DecidableEq, Repr

/-- Classes with a letter of their own. -/
inductive PerlClass
  | digit
  | space
  | word
  deriving DecidableEq, Repr

/-- Classes of ASCII characters with a name. -/
inductive AsciiClass
  | alnum | alpha | ascii | blank | cntrl | digit | graph | lower | print | punct | space | upper
  | word | xdigit
  deriving DecidableEq, Repr

/-- Operations between classes. -/
inductive SetOp
  | intersection
  | difference
  | symmetricDifference
  deriving DecidableEq, Repr

/-- The content of a class in brackets. -/
inductive ClassTree
  | empty
  | literal (l : Literal)
  | range (first last : Literal)
  | ascii (cls : AsciiClass) (negated : Bool)
  | property (query : Unicode.Lookup.Query) (negated : Bool)
  | perl (cls : PerlClass) (negated : Bool)
  | bracketed (negated : Bool) (content : ClassTree)
  | union (items : List ClassTree)
  | op (op : SetOp) (left right : ClassTree)
  deriving Repr

/-- Kinds of groups. -/
inductive GroupKind
  | capturing
  | named (name : String)
  | flagged (items : List FlagItem)
  deriving DecidableEq, Repr

/-- A pattern as it is written. -/
inductive Tree
  | empty
  | flags (items : List FlagItem)
  | literal (l : Literal)
  | dot
  | assertion (a : Assertion)
  | property (query : Unicode.Lookup.Query) (negated : Bool)
  | perl (cls : PerlClass) (negated : Bool)
  | brackets (negated : Bool) (content : ClassTree)
  | repetition (min : Nat) (max : Option Nat) (greedy : Bool) (tree : Tree)
  | group (kind : GroupKind) (tree : Tree)
  | alternation (trees : List Tree)
  | concat (trees : List Tree)
  deriving Repr

/-- Items one after the other. -/
def Tree.ofConcat : List Tree → Tree
  | [] => empty
  | [tree] => tree
  | trees => concat trees

/-- Class items side by side. -/
def ClassTree.ofUnion : List ClassTree → ClassTree
  | [] => empty
  | [item] => item
  | items => union items

/-- What is wrong with a pattern. -/
inductive Fault
  | escapeInClass
  | rangeOrder
  | rangeBound
  | unclosedClass
  | decimalInvalid
  | hexEmpty
  | hexInvalid
  | hexDigit
  | unfinishedEscape
  | unknownEscape
  | danglingNegation
  | repeatedFlag
  | repeatedNegation
  | unfinishedFlags
  | unknownFlag
  | repeatedName
  | emptyName
  | badName
  | unfinishedName
  | unclosedGroup
  | unopenedGroup
  | nestedTooDeep
  | countOrder
  | countEmpty
  | unclosedCount
  | nothingToRepeat
  | unclosedBoundary
  | unknownBoundary
  | unfinishedBoundary
  | badProperty
  | backreference
  | lookAround
  | unicodeNotAllowed
  | invalidUtf8
  | unknownProperty
  | unknownPropertyValue
  | tooLarge
  deriving DecidableEq, Repr

/-- How deep groups, classes and other compound items may be nested. -/
def nestLimit : Nat := 250

/-- How large a pattern may grow, in bytes. -/
def sizeLimit : Nat := 10 * Nat.pow 2 20

/-- What is wrong, in words. -/
def Fault.describe : Fault → String
  | escapeInClass => "invalid escape sequence found in character class"
  | rangeOrder => "invalid character class range, the start must be <= the end"
  | rangeBound => "invalid range boundary, must be a literal"
  | unclosedClass => "unclosed character class"
  | decimalInvalid => "decimal literal invalid"
  | hexEmpty => "hexadecimal literal empty"
  | hexInvalid => "hexadecimal literal is not a Unicode scalar value"
  | hexDigit => "invalid hexadecimal digit"
  | unfinishedEscape => "incomplete escape sequence, reached end of pattern prematurely"
  | unknownEscape => "unrecognized escape sequence"
  | danglingNegation => "dangling flag negation operator"
  | repeatedFlag => "duplicate flag"
  | repeatedNegation => "flag negation operator repeated"
  | unfinishedFlags => "expected flag but got end of regex"
  | unknownFlag => "unrecognized flag"
  | repeatedName => "duplicate capture group name"
  | emptyName => "empty capture group name"
  | badName => "invalid capture group character"
  | unfinishedName => "unclosed capture group name"
  | unclosedGroup => "unclosed group"
  | unopenedGroup => "unopened group"
  | nestedTooDeep =>
    "exceed the maximum number of nested parentheses/brackets (" ++ toString nestLimit ++ ")"
  | countOrder => "invalid repetition count range, the start must be <= the end"
  | countEmpty => "repetition quantifier expects a valid decimal"
  | unclosedCount => "unclosed counted repetition"
  | nothingToRepeat => "repetition operator missing expression"
  | unclosedBoundary =>
    "special word boundary assertion is either unclosed or contains an invalid character"
  | unknownBoundary =>
    "unrecognized special word boundary assertion, valid choices are: start, end, start-half or end-half"
  | unfinishedBoundary =>
    "found either the beginning of a special word boundary or a bounded repetition on a \\b with an opening brace, but no closing brace"
  | badProperty => "invalid Unicode character class"
  | backreference => "backreferences are not supported"
  | lookAround => "look-around, including look-ahead and look-behind, is not supported"
  | unicodeNotAllowed => "Unicode not allowed here"
  | invalidUtf8 => "pattern can match invalid UTF-8"
  | unknownProperty => "Unicode property not found"
  | unknownPropertyValue => "Unicode property value not found"
  | tooLarge => ""

/-- What is wrong, as the last line of a diagnosis. -/
def Fault.message : Fault → String
  | tooLarge => "Compiled regex exceeds size limit of " ++ toString sizeLimit ++ " bytes."
  | fault => "error: " ++ fault.describe

end Switchboard.Pattern
