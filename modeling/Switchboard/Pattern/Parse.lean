import Switchboard.Pattern.Tree
import Switchboard.Text.Blank
import Switchboard.Text.Hex
import Switchboard.Text.Split

/-!
# Reading patterns

A pattern is read from left to right in one pass. Groups that are open are kept on a stack, each with
what stood before it; the same holds for classes inside brackets. Where white space does not count,
it is skipped together with comments, which run from a number sign to the end of the line.

Faults are told in the order in which the pass meets them. Only the depth of nesting is checked
afterwards, on the finished tree.
-/

namespace Switchboard.Pattern.Parse

open Text (isBlank)

/-! ### White space and comments -/

/-- Skips white space and comments; `comment` tells that a comment is being skipped. -/
def skipIgnored : (comment : Bool) → List Char → List Char
  | _, [] => []
  | true, c :: rest => skipIgnored (c != '\n') rest
  | false, c :: rest =>
    if isBlank c then skipIgnored false rest
    else if c = '#' then skipIgnored true rest
    else c :: rest

/-- Skips what does not count. -/
def skip (ignoring : Bool) (cs : List Char) : List Char := if ignoring then skipIgnored false cs else cs

/-- The next character that counts, from behind the present one. A comment is passed over only up to
its first character. -/
def peekIgnoring : (comment : Bool) → List Char → Option Char
  | _, [] => none
  | comment, c :: rest =>
    if isBlank c then peekIgnoring comment rest
    else if c = '#' && !comment then peekIgnoring true rest
    else some c

/-- The character that follows the present one, from behind the present one. -/
def peek (ignoring : Bool) (rest : List Char) : Option Char :=
  if ignoring then (peekIgnoring false rest).or rest.head? else rest.head?

/-! ### Escapes -/

/-- Characters with a meaning of their own. -/
def isMeta (c : Char) : Bool := "\\.+*?()|[]\x7b\x7d^$#&-~".toList.contains c

/-- Whether a backslash before a character makes it stand for itself. -/
def isEscapable (c : Char) : Bool :=
  isMeta c || (c.toNat < 0x80 && !c.isAlphanum && c ≠ '<' && c ≠ '>')

/-- The character whose number is written by some digits of base sixteen. -/
def charOf (digits : List Char) : Except Fault Char :=
  match Text.Hex.number? digits with
  | some n => if n.isValidChar then .ok (Char.ofNat n) else .error .hexInvalid
  | none => .error .hexInvalid

/-- Reads exactly `count` digits; the first stands at the head. -/
def hexDigits (ignoring : Bool) : (count : Nat) → List Char → Except Fault (List Char × List Char)
  | 0, cs => .ok ([], cs)
  | _ + 1, [] => .error .unfinishedEscape
  | count + 1, c :: rest =>
    if Text.Hex.isDigit c then
      (hexDigits ignoring count (skip ignoring rest)).map fun (ds, cs) => (c :: ds, cs)
    else .error .hexDigit

/-- Reads digits up to a closing brace. The fuel is the length of the text. -/
def hexBraced (ignoring : Bool) : Nat → List Char → Except Fault (List Char × List Char)
  | 0, _ => .error .unfinishedEscape
  | fuel + 1, cs =>
    match skip ignoring cs with
    | [] => .error .unfinishedEscape
    | c :: rest =>
      if c = '\x7d' then .ok ([], skip ignoring rest)
      else if Text.Hex.isDigit c then
        (hexBraced ignoring fuel rest).map fun (ds, cs) => (c :: ds, cs)
      else .error .hexDigit

/-- Reads a character given by its number, from behind the letter, which says how many digits there
are. -/
def hexLiteral (ignoring : Bool) (letter : Char) (cs : List Char) :
    Except Fault (Literal × List Char) :=
  match skip ignoring cs with
  | [] => .error .unfinishedEscape
  | '\x7b' :: rest => do
    let (digits, rest) ← hexBraced ignoring (rest.length + 1) rest
    if digits.isEmpty then .error .hexEmpty else return (⟨← charOf digits, false⟩, rest)
  | cs => do
    let count := if letter = 'x' then 2 else if letter = 'u' then 4 else 8
    let (digits, rest) ← hexDigits ignoring count cs
    return (⟨← charOf digits, letter == 'x'⟩, rest)

/-- The text up to a closing brace. The fuel is the length of the text. -/
def braced (ignoring : Bool) : Nat → List Char → Except Fault (List Char × List Char)
  | 0, _ => .error .unfinishedEscape
  | fuel + 1, cs =>
    match skip ignoring cs with
    | [] => .error .unfinishedEscape
    | c :: rest =>
      if c = '\x7d' then .ok ([], rest)
      else (braced ignoring fuel rest).map fun (name, cs) => (c :: name, cs)

/-- The property that a text between braces asks for, and whether it is negated there. -/
def queryOf (cs : List Char) : Unicode.Lookup.Query × Bool :=
  let value (pair : List Char × List Char) : Unicode.Lookup.Query :=
    .value (String.ofList pair.1) (String.ofList pair.2)
  match Text.Split.once ['!', '='] cs with
  | some pair => (value pair, true)
  | none =>
    match Text.Split.once [':'] cs with
    | some pair => (value pair, false)
    | none =>
      match Text.Split.once ['='] cs with
      | some pair => (value pair, false)
      | none => (.name (String.ofList cs), false)

/-- A single item of a pattern. -/
inductive Primitive
  | literal (l : Literal)
  | assertion (a : Assertion)
  | dot
  | perl (cls : PerlClass) (negated : Bool)
  | property (query : Unicode.Lookup.Query) (negated : Bool)
  deriving Repr

/-- The item as a tree. -/
def Primitive.tree : Primitive → Tree
  | literal l => .literal l
  | assertion a => .assertion a
  | dot => .dot
  | perl cls negated => .perl cls negated
  | property query negated => .property query negated

/-- Reads a property, from behind the letter that introduces it. -/
def property (ignoring negated : Bool) (cs : List Char) : Except Fault (Primitive × List Char) :=
  match skip ignoring cs with
  | [] => .error .unfinishedEscape
  | '\x7b' :: rest => do
    let (name, rest) ← braced ignoring (rest.length + 1) rest
    let (query, inner) := queryOf name
    return (.property query (negated != inner), rest)
  | '\\' :: _ => .error .badProperty
  | c :: rest => .ok (.property (.name c.toString) negated, skip ignoring rest)

/-- The kinds of word boundaries in braces. -/
def boundary? (name : List Char) : Option Assertion :=
  if name = "start".toList then some .wordStart
  else if name = "end".toList then some .wordEnd
  else if name = "start-half".toList then some .wordStartHalf
  else if name = "end-half".toList then some .wordEndHalf
  else none

/-- Characters in the names of word boundaries. -/
def isBoundaryChar (c : Char) : Bool := c.isAlpha || c = '-'

/-- Reads characters of the name of a word boundary. The fuel is the length of the text. -/
def boundaryName (ignoring : Bool) : Nat → List Char → List Char × List Char
  | 0, cs => ([], cs)
  | _ + 1, [] => ([], [])
  | fuel + 1, c :: rest =>
    if isBoundaryChar c then
      let (name, cs) := boundaryName ignoring fuel (skip ignoring rest)
      (c :: name, cs)
    else ([], c :: rest)

/-- Reads what follows a word boundary: the kind of the boundary in braces, unless the braces hold a
count. -/
def wordBoundary (ignoring : Bool) (cs : List Char) : Except Fault (Assertion × List Char) :=
  match cs with
  | '\x7b' :: rest =>
    match skip ignoring rest with
    | [] => .error .unfinishedBoundary
    | c :: inner =>
      if isBoundaryChar c then
        let (name, after) := boundaryName ignoring (inner.length + 2) (c :: inner)
        match after with
        | '\x7d' :: after =>
          match boundary? name with
          | some kind => .ok (kind, after)
          | none => .error .unknownBoundary
        | _ => .error .unclosedBoundary
      else .ok (.wordBoundary, cs)
  | _ => .ok (.wordBoundary, cs)

/-- Reads an escape, from behind its backslash. -/
def escape (ignoring : Bool) : List Char → Except Fault (Primitive × List Char)
  | [] => .error .unfinishedEscape
  | c :: rest =>
    let literal (x : Char) : Except Fault (Primitive × List Char) := .ok (.literal ⟨x, false⟩, rest)
    let assertion (a : Assertion) : Except Fault (Primitive × List Char) := .ok (.assertion a, rest)
    if c.isDigit then .error .backreference
    else if c = 'x' ∨ c = 'u' ∨ c = 'U' then
      (hexLiteral ignoring c rest).map fun (l, rest) => (.literal l, rest)
    else if c = 'p' ∨ c = 'P' then property ignoring (c = 'P') rest
    else if c = 'd' ∨ c = 'D' then .ok (.perl .digit (c = 'D'), rest)
    else if c = 's' ∨ c = 'S' then .ok (.perl .space (c = 'S'), rest)
    else if c = 'w' ∨ c = 'W' then .ok (.perl .word (c = 'W'), rest)
    else if isEscapable c then literal c
    else
      match c with
      | 'a' => literal '\x07'
      | 'f' => literal '\x0c'
      | 't' => literal '\t'
      | 'n' => literal '\n'
      | 'r' => literal '\r'
      | 'v' => literal '\x0b'
      | 'A' => assertion .startText
      | 'z' => assertion .endText
      | 'b' => (wordBoundary ignoring rest).map fun (a, rest) => (.assertion a, rest)
      | 'B' => assertion .notWordBoundary
      | '<' => assertion .wordStart
      | '>' => assertion .wordEnd
      | _ => .error .unknownEscape

/-! ### Classes -/

/-- The classes of ASCII characters by name. -/
def asciiClass? (name : List Char) : Option AsciiClass :=
  match String.ofList name with
  | "alnum" => some .alnum
  | "alpha" => some .alpha
  | "ascii" => some .ascii
  | "blank" => some .blank
  | "cntrl" => some .cntrl
  | "digit" => some .digit
  | "graph" => some .graph
  | "lower" => some .lower
  | "print" => some .print
  | "punct" => some .punct
  | "space" => some .space
  | "upper" => some .upper
  | "word" => some .word
  | "xdigit" => some .xdigit
  | _ => none

/-- A named class between `[:` and `:]`, from behind the opening bracket. -/
def asciiClass (cs : List Char) : Option (ClassTree × List Char) :=
  match cs with
  | ':' :: rest =>
    let (negated, rest) := match rest with
      | '^' :: rest => (true, rest)
      | rest => (false, rest)
    match rest.dropWhile (· ≠ ':') with
    | ':' :: ']' :: after =>
      (asciiClass? (rest.takeWhile (· ≠ ':'))).map fun cls => (.ascii cls negated, after)
    | _ => none
  | _ => none

/-- Reads one item of a class. -/
def classItem (ignoring : Bool) : List Char → Except Fault (Primitive × List Char)
  | [] => .error .unclosedClass
  | '\\' :: rest => escape ignoring rest
  | c :: rest => .ok (.literal ⟨c, false⟩, rest)

/-- An item on its own in a class. -/
def Primitive.classTree : Primitive → Except Fault ClassTree
  | literal l => .ok (.literal l)
  | perl cls negated => .ok (.perl cls negated)
  | property query negated => .ok (.property query negated)
  | assertion _ | dot => .error .escapeInClass

/-- An item as a bound of a range. -/
def Primitive.bound : Primitive → Except Fault Literal
  | literal l => .ok l
  | _ => .error .rangeBound

/-- Reads an item of a class, or a range of two. -/
def classRange (ignoring : Bool) (cs : List Char) : Except Fault (ClassTree × List Char) := do
  let (first, rest) ← classItem ignoring cs
  match skip ignoring rest with
  | [] => .error .unclosedClass
  | c :: rest =>
    let next := peek ignoring rest
    if c ≠ '-' ∨ next = some ']' ∨ next = some '-' then return (← first.classTree, c :: rest)
    else
      match skip ignoring rest with
      | [] => .error .unclosedClass
      | rest => do
        let (last, rest) ← classItem ignoring rest
        let a ← first.bound
        let b ← last.bound
        if a.char ≤ b.char then return (.range a b, rest) else .error .rangeOrder

/-- What is open while a class is read. -/
inductive ClassFrame
  /-- A class in brackets, with the items of the class around it in reverse order. -/
  | bracket (around : List ClassTree) (negated : Bool)
  /-- An operation that waits for its right side. -/
  | operation (op : SetOp) (left : ClassTree)

/-- Completes the operation that waits on top of the stack, if one does. -/
def completeOperation (right : ClassTree) : List ClassFrame → ClassTree × List ClassFrame
  | .operation op left :: stack => (.op op left right, stack)
  | stack => (right, stack)

/-- Reads hyphens at the start of a class, which stand for themselves. The fuel is the length of the
text. -/
def leadingHyphens (ignoring : Bool) :
    Nat → List ClassTree → List Char → Except Fault (List ClassTree × List Char)
  | 0, _, _ => .error .unclosedClass
  | _ + 1, _, [] => .error .unclosedClass
  | fuel + 1, items, c :: rest =>
    if c = '-' then leadingHyphens ignoring fuel (.literal ⟨'-', false⟩ :: items) (skip ignoring rest)
    else .ok (items, c :: rest)

/-- Reads the start of a class, from behind its opening bracket: whether it is negated, and the items
that stand for themselves only there. -/
def classStart (ignoring : Bool) (cs : List Char) :
    Except Fault (Bool × List ClassTree × List Char) := do
  let cs := skip ignoring cs
  let (negated, cs) := match cs with
    | '^' :: rest => (true, skip ignoring rest)
    | cs => (false, cs)
  let (items, cs) ← leadingHyphens ignoring (cs.length + 1) [] cs
  match items, cs with
  | [], ']' :: rest =>
    match skip ignoring rest with
    | [] => .error .unclosedClass
    | rest => return (negated, [.literal ⟨']', false⟩], rest)
  | items, cs => return (negated, items, cs)

/-- The operation that two equal characters stand for. -/
def setOp? (c : Char) : Option SetOp :=
  if c = '&' then some .intersection
  else if c = '-' then some .difference
  else if c = '~' then some .symmetricDifference
  else none

/-- The operation that a text begins with, and what stands behind it. -/
def operation? : List Char → Option (SetOp × List Char)
  | c :: d :: rest => if c = d then (setOp? c).map fun op => (op, rest) else none
  | _ => none

/-- Reads a class from an opening bracket on. The stack holds what is open, and `items` the items of
the innermost class in reverse order; the fuel exceeds the length of the text. -/
def classLoop (ignoring : Bool) :
    Nat → List ClassFrame → List ClassTree → List Char → Except Fault (Tree × List Char)
  | 0, _, _, _ => .error .unclosedClass
  | fuel + 1, stack, items, cs =>
    match skip ignoring cs with
    | [] => .error .unclosedClass
    | '[' :: rest =>
      match if stack.isEmpty then none else asciiClass rest with
      | some (item, rest) => classLoop ignoring fuel stack (item :: items) rest
      | none => do
        let (negated, inner, rest) ← classStart ignoring rest
        classLoop ignoring fuel (.bracket items negated :: stack) inner rest
    | ']' :: rest =>
      let (content, stack) := completeOperation (.ofUnion items.reverse) stack
      match stack with
      | [.bracket _ negated] => .ok (.brackets negated content, rest)
      | .bracket around negated :: stack =>
        classLoop ignoring fuel stack (.bracketed negated content :: around) rest
      | _ => .error .unclosedClass
    | cs =>
      match operation? cs with
      | some (op, rest) =>
        let (left, stack) := completeOperation (.ofUnion items.reverse) stack
        classLoop ignoring fuel (.operation op left :: stack) [] rest
      | none => do
        let (item, rest) ← classRange ignoring cs
        classLoop ignoring fuel stack (item :: items) rest

/-- Reads a class from its opening bracket on. -/
def classTree (ignoring : Bool) (cs : List Char) : Except Fault (Tree × List Char) :=
  classLoop ignoring (cs.length + 1) [] [] cs

/-! ### Repetition -/

/-- Reads a decimal with white space around it; nothing if there are no digits. -/
def decimalDigits (ignoring : Bool) : Nat → List Char → List Char × List Char
  | 0, cs => ([], cs)
  | _ + 1, [] => ([], [])
  | fuel + 1, c :: rest =>
    if c.isDigit then
      let (digits, cs) := decimalDigits ignoring fuel (skip ignoring rest)
      (c :: digits, cs)
    else ([], c :: rest)

/-- The largest count of a repetition. -/
def maxCount : Nat := Nat.pow 2 32 - 1

/-- A count as far as it could be read, and the rest of the text. -/
def count (ignoring : Bool) (cs : List Char) : Except Fault Nat × List Char :=
  let (digits, rest) := decimalDigits ignoring (cs.length + 1) (cs.dropWhile isBlank)
  let rest := skip ignoring (rest.dropWhile isBlank)
  let n := digits.foldl (fun n c => 10 * n + (c.toNat - 0x30)) 0
  if digits.isEmpty then (.error .countEmpty, rest)
  else if n ≤ maxCount then (.ok n, rest)
  else (.error .decimalInvalid, rest)

/-- Reads the mark of a lazy repetition. -/
def lazyMark : List Char → Bool × List Char
  | '?' :: rest => (false, rest)
  | cs => (true, cs)

/-- Reads the counts of a repetition up to the closing brace, from behind the opening brace: the
least count, the greatest one, and whether the repetition is greedy. -/
def counts (ignoring : Bool) (cs : List Char) :
    Except Fault (Nat × Option Nat × Bool × List Char) := do
  let cs := skip ignoring cs
  if cs.isEmpty then .error .unclosedCount
  let (least, cs) := count ignoring cs
  let (min, max, cs) ← match cs with
    | [] => .error .unclosedCount
    | ',' :: rest =>
      match skip ignoring rest with
      | [] => .error .unclosedCount
      | '\x7d' :: rest => do pure (← least, none, '\x7d' :: rest)
      | cs => do
        let min ← least
        let (greatest, cs) := count ignoring cs
        let max ← greatest
        pure (min, some max, cs)
    | cs => do
      let n ← least
      pure (n, some n, cs)
  match cs with
  | '\x7d' :: rest =>
    let (greedy, rest) := lazyMark (skip ignoring rest)
    if max.all (min ≤ ·) then return (min, max, greedy, rest) else .error .countOrder
  | _ => .error .unclosedCount

/-! ### Groups -/

/-- Flags by their letters. -/
def flag? (c : Char) : Option Flag :=
  if c = 'i' then some .ignoreCase
  else if c = 'm' then some .multiLine
  else if c = 's' then some .dotMatchesNewline
  else if c = 'U' then some .swapGreed
  else if c = 'u' then some .unicode
  else if c = 'R' then some .crlf
  else if c = 'x' then some .ignoreWhitespace
  else none

/-- Reads flags up to a colon or a closing parenthesis, which is not consumed. -/
def flags (items : List FlagItem) : List Char → Except Fault (List FlagItem × List Char)
  | [] => .error .unfinishedFlags
  | c :: rest =>
    if c = ':' ∨ c = ')' then
      if items.getLast? = some .negation then .error .danglingNegation else .ok (items, c :: rest)
    else if c = '-' then
      if items.contains .negation then .error .repeatedNegation
      else flags (items ++ [.negation]) rest
    else
      match flag? c with
      | none => .error .unknownFlag
      | some f =>
        if items.contains (.flag f) then .error .repeatedFlag else flags (items ++ [.flag f]) rest

/-- Whether a character may stand in the name of a group. -/
def isNameChar (first : Bool) (c : Char) : Bool :=
  c = '_' ||
    if first then Unicode.Property.isAlphabetic c.toNat
    else c = '.' || c = '[' || c = ']' || Unicode.Property.isAlphanumeric c.toNat

/-- Reads the name of a group up to its closing angle bracket. -/
def groupName (first : Bool) : List Char → Except Fault (List Char × List Char)
  | [] => .error .unfinishedName
  | c :: rest =>
    if c = '>' then .ok ([], rest)
    else if isNameChar first c then
      (groupName false rest).map fun (name, rest) => (c :: name, rest)
    else .error .badName

/-- What an opening parenthesis begins. -/
inductive Opened
  | group (kind : GroupKind)
  | flags (items : List FlagItem)

/-- Reads the beginning of a group, from behind its opening parenthesis. The names are those of the
groups before it. -/
def groupStart (ignoring : Bool) (names : List String) (cs : List Char) :
    Except Fault (Opened × List Char) :=
  let named (cs : List Char) : Except Fault (Opened × List Char) := do
    let (name, rest) ← groupName true cs
    if name.isEmpty then .error .emptyName
    else if names.contains (String.ofList name) then .error .repeatedName
    else return (.group (.named (String.ofList name)), rest)
  match skip ignoring cs with
  | '?' :: '=' :: _ | '?' :: '!' :: _ | '?' :: '<' :: '=' :: _ | '?' :: '<' :: '!' :: _ =>
    .error .lookAround
  | '?' :: 'P' :: '<' :: rest => named rest
  | '?' :: '<' :: rest => named rest
  | '?' :: [] => .error .unclosedGroup
  | '?' :: rest => do
    match ← flags [] rest with
    | (items, ')' :: rest) => if items.isEmpty then .error .nothingToRepeat else return (.flags items, rest)
    | (items, rest) => return (.group (.flagged items), rest.drop 1)
  | rest => .ok (.group .capturing, rest)

/-! ### The pass -/

/-- What is open while a pattern is read. -/
inductive Frame
  /-- A group, with the items before it in reverse order, and whether white space counts after it. -/
  | group (before : List Tree) (kind : GroupKind) (ignoring : Bool)
  /-- The branches of an alternation that are complete, in reverse order. -/
  | branches (complete : List Tree)

/-- Where a pass stands. -/
structure State where
  stack : List Frame
  /-- The items of the innermost concatenation in reverse order. -/
  items : List Tree
  /-- Whether white space does not count. -/
  ignoring : Bool
  /-- The names of the groups so far. -/
  names : List String

/-- The item that a repetition applies to, and the items before it. -/
def repeated : List Tree → Except Fault (Tree × List Tree)
  | [] => .error .nothingToRepeat
  | .empty :: _ | .flags _ :: _ => .error .nothingToRepeat
  | tree :: before => .ok (tree, before)

/-- A state in which the last item is repeated, and the rest of the text. -/
def State.repeat (state : State) (min : Nat) (max : Option Nat) (cs : List Char) :
    Except Fault (State × List Char) := do
  let (tree, before) ← repeated state.items
  let (greedy, rest) := lazyMark cs
  return ({ state with items := .repetition min max greedy tree :: before }, rest)

/-- Ends a branch of an alternation. -/
def State.endBranch (state : State) : State :=
  let branch := Tree.ofConcat state.items.reverse
  match state.stack with
  | .branches complete :: stack =>
    { state with stack := .branches (branch :: complete) :: stack, items := [] }
  | stack => { state with stack := .branches [branch] :: stack, items := [] }

/-- The innermost open pattern, and the frames around it. -/
def State.innermost (state : State) : Tree × List Frame :=
  let branch := Tree.ofConcat state.items.reverse
  match state.stack with
  | .branches complete :: stack => (.alternation (branch :: complete).reverse, stack)
  | stack => (branch, stack)

/-- Ends a group. -/
def State.endGroup (state : State) : Except Fault State :=
  let (tree, stack) := state.innermost
  match stack with
  | .group before kind ignoring :: stack =>
    .ok { state with stack, items := .group kind tree :: before, ignoring }
  | _ => .error .unopenedGroup

/-- One step of the pass: reads from the character `c`, behind which `rest` follows. -/
def step (state : State) (c : Char) (rest : List Char) : Except Fault (State × List Char) :=
  match c with
  | '(' => do
    let (opened, rest) ← groupStart state.ignoring state.names rest
    match opened with
    | .flags items =>
      let ignoring := (flagState .ignoreWhitespace false items).getD state.ignoring
      return ({ state with items := .flags items :: state.items, ignoring }, rest)
    | .group kind =>
      let ignoring := match kind with
        | .flagged items => (flagState .ignoreWhitespace false items).getD state.ignoring
        | _ => state.ignoring
      let names := match kind with
        | .named name => name :: state.names
        | _ => state.names
      return (⟨.group state.items kind state.ignoring :: state.stack, [], ignoring, names⟩, rest)
  | ')' => do return (← state.endGroup, rest)
  | '|' => .ok (state.endBranch, rest)
  | '[' => do
    let (tree, rest) ← classTree state.ignoring (c :: rest)
    return ({ state with items := tree :: state.items }, rest)
  | '?' => state.repeat 0 (some 1) rest
  | '*' => state.repeat 0 none rest
  | '+' => state.repeat 1 none rest
  | '\x7b' => do
    let (tree, before) ← repeated state.items
    let (min, max, greedy, rest) ← counts state.ignoring rest
    return ({ state with items := .repetition min max greedy tree :: before }, rest)
  | '\\' => do
    let (item, rest) ← escape state.ignoring rest
    return ({ state with items := item.tree :: state.items }, rest)
  | '.' => .ok ({ state with items := .dot :: state.items }, rest)
  | '^' => .ok ({ state with items := .assertion .startLine :: state.items }, rest)
  | '$' => .ok ({ state with items := .assertion .endLine :: state.items }, rest)
  | c => .ok ({ state with items := .literal ⟨c, false⟩ :: state.items }, rest)

/-- The tree at the end of a pattern. -/
def State.finish (state : State) : Except Fault Tree :=
  match state.innermost with
  | (tree, []) => .ok tree
  | _ => .error .unclosedGroup

/-- The pass over a pattern. The fuel exceeds the length of the text. -/
def loop : Nat → State → List Char → Except Fault Tree
  | 0, state, _ => state.finish
  | fuel + 1, state, cs =>
    match skip state.ignoring cs with
    | [] => state.finish
    | c :: rest => do
      let (state, rest) ← step state c rest
      loop fuel state rest

/-! ### Nesting -/

mutual

/-- How deep the content of a class is nested. -/
def classDepth : ClassTree → Nat
  | .bracketed _ content => classDepth content + 1
  | .union items => classDepths items + 1
  | .op _ left right => max (classDepth left) (classDepth right) + 1
  | _ => 0

/-- The greatest depth among some items of a class. -/
def classDepths : List ClassTree → Nat
  | [] => 0
  | item :: rest => max (classDepth item) (classDepths rest)

end

mutual

/-- How deep a pattern is nested. -/
def depth : Tree → Nat
  | .brackets _ content => classDepth content + 1
  | .repetition _ _ _ tree => depth tree + 1
  | .group _ tree => depth tree + 1
  | .alternation trees => depths trees + 1
  | .concat trees => depths trees + 1
  | _ => 0

/-- The greatest depth among some patterns. -/
def depths : List Tree → Nat
  | [] => 0
  | tree :: rest => max (depth tree) (depths rest)

end

/-- Reads a pattern. -/
def tree (cs : List Char) : Except Fault Tree := do
  let tree ← loop (cs.length + 1) ⟨[], [], false, []⟩ cs
  if depth tree ≤ nestLimit then return tree else .error .nestedTooDeep

end Switchboard.Pattern.Parse
