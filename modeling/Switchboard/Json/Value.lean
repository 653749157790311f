import Switchboard.Json.Number
import Switchboard.Text.Hex
import Switchboard.Text.Utf8

/-!
# JSON values

Objects keep the order of their members, and each key occurs once: a repeated key keeps its first
place and takes the last value.

`Value.text` is the compact text of a value. In a string only quotes, backslashes and control
characters are escaped.
-/

namespace Switchboard.Json

/-- JSON values. -/
inductive Value
  | null
  | bool (b : Bool)
  | number (n : Number)
  | string (s : String)
  | array (items : List Value)
  | object (members : List (String × Value))
  deriving Repr, Inhabited

/-- The members of objects. -/
abbrev Members := List (String × Value)

namespace Members

/-- The value under a key. -/
def get? (members : Members) (key : String) : Option Value :=
  (members.find? fun member => member.1 == key).map Prod.snd

/-- Gives a key a value, in its old place if it has one and at the end otherwise. -/
def insert : Members → String → Value → Members
  | [], key, value => [(key, value)]
  | (k, v) :: rest, key, value =>
    if k = key then (k, value) :: rest else (k, v) :: insert rest key value

/-- The members of an object written with the given keys and values in order. -/
def ofList (entries : List (String × Value)) : Members :=
  entries.foldl (fun members entry => insert members entry.1 entry.2) []

end Members

namespace Value

/-- The member of an object under a key; nothing for other values. -/
def get? : Value → String → Option Value
  | object members, key => Members.get? members key
  | _, _ => none

/-- The string that a value is. -/
def string? : Value → Option String
  | string s => some s
  | _ => none

/-! ### Text of values -/

/-- One character inside a string. -/
def escape (c : Char) : List Char :=
  match c with
  | '"' => ['\\', '"']
  | '\\' => ['\\', '\\']
  | '\x08' => ['\\', 'b']
  | '\x0c' => ['\\', 'f']
  | '\n' => ['\\', 'n']
  | '\r' => ['\\', 'r']
  | '\t' => ['\\', 't']
  | _ =>
    if c.toNat < 0x20 then
      ['\\', 'u', '0', '0', Text.Hex.digit (c.toNat / 16), Text.Hex.digit (c.toNat % 16)]
    else [c]

/-- A string with its quotes. -/
def quoteChars (cs : List Char) : List Char := '"' :: cs.flatMap escape ++ ['"']

/-- A string with its quotes. -/
def quote (s : String) : List Char := quoteChars s.toList

mutual

/-- The compact text of a value. -/
def chars : Value → List Char
  | null => ['n', 'u', 'l', 'l']
  | bool true => ['t', 'r', 'u', 'e']
  | bool false => ['f', 'a', 'l', 's', 'e']
  | number n => n.text
  | string s => quote s
  | array items => '[' :: itemChars items ++ [']']
  | object members => '\x7b' :: memberChars members ++ ['\x7d']

/-- The items of an array with commas between them. -/
def itemChars : List Value → List Char
  | [] => []
  | [item] => chars item
  | item :: rest => chars item ++ ',' :: itemChars rest

/-- The members of an object with commas between them. -/
def memberChars : List (String × Value) → List Char
  | [] => []
  | [(key, value)] => quote key ++ ':' :: chars value
  | (key, value) :: rest => quote key ++ ':' :: chars value ++ ',' :: memberChars rest

end

/-- The compact text of a value. -/
def text (value : Value) : String := String.ofList value.chars

end Value

end Switchboard.Json
