import Switchboard.Json.Value

/-!
# Structured messages as chat text

A string is posted as it is, and another scalar in its JSON form; `null` is empty. An object or an
array with entries becomes a fenced block with one line per entry: `key: value` for a member of an
object, `- item` for an item of an array. The entries of a nested object or array follow the line
that introduces it, indented by two spaces more. An empty object or array stands in the line like a
scalar.
-/

namespace Switchboard.Notification.Layout

open Json

/-- A line of a block. -/
abbrev Line := List Char

/-- Whether a value has entries, and so lines of its own. -/
def isNested : Value → Bool
  | .object members => !members.isEmpty
  | .array items => !items.isEmpty
  | _ => false

/-- A value inside a line. -/
def inline : Value → Line
  | .null => []
  | .string s => s.toList
  | value => value.chars

/-- The indentation of the entries at a depth. -/
def indent (depth : Nat) : Line := List.replicate (2 * depth) ' '

/-- The line of an entry: how it is introduced, and its value if that is not empty. -/
def entryLine (lead : Line) (value : Value) : Line :=
  let text := inline value
  if text.isEmpty then lead else lead ++ ' ' :: text

mutual

/-- Appends the lines of a value at a depth. -/
def push : Value → (depth : Nat) → Array Line → Array Line
  | .object members, depth, lines => pushMembers members depth lines
  | .array items, depth, lines => pushItems items depth lines
  | .null, depth, lines => lines.push (indent depth ++ inline .null)
  | .bool b, depth, lines => lines.push (indent depth ++ inline (.bool b))
  | .number n, depth, lines => lines.push (indent depth ++ inline (.number n))
  | .string s, depth, lines => lines.push (indent depth ++ inline (.string s))

/-- Appends the lines of the members of an object. -/
def pushMembers : List (String × Value) → (depth : Nat) → Array Line → Array Line
  | [], _, lines => lines
  | (key, value) :: rest, depth, lines =>
    let lead := indent depth ++ key.toList ++ [':']
    pushMembers rest depth
      (if isNested value then push value (depth + 1) (lines.push lead)
      else lines.push (entryLine lead value))

/-- Appends the lines of the items of an array. -/
def pushItems : List Value → (depth : Nat) → Array Line → Array Line
  | [], _, lines => lines
  | value :: rest, depth, lines =>
    let lead := indent depth ++ ['-']
    pushItems rest depth
      (if isNested value then push value (depth + 1) (lines.push lead)
      else lines.push (entryLine lead value))

end

/-- The line that opens and closes a block. -/
def fence : Line := ['`', '`', '`']

/-- The characters of a message. -/
def chars (message : Value) : List Char :=
  if isNested message then
    let lines := fence :: (push message 0 #[]).toList ++ [fence]
    ['\n'].intercalate lines
  else inline message

/-- A message as chat text. -/
def text (message : Value) : String := String.ofList (chars message)

end Switchboard.Notification.Layout
