import Switchboard.Text.Blank
import Switchboard.Text.Utf8

/-!
# Messages addressed to the bot

A message is addressed to the bot when it begins, after white space and at most one at sign, with
the name of the bot in any ASCII case, and a colon, a comma or white space follows the name. The
command is what comes then, trimmed, and it must not be empty.

The name is compared with the beginning of the message that has as many *bytes* as the name: a
beginning that would cut a character in two is no match.
-/

namespace Switchboard.Chat.Mention

open Text

/-- Whether two texts are equal up to the case of ASCII letters. -/
def sameIgnoringCase (a b : List Char) : Bool := a.map Char.toLower == b.map Char.toLower

/-- What follows the name of the bot, when a separator stands there. A colon or a comma is no part
of it. -/
def afterSeparator : List Char → Option (List Char)
  | [] => none
  | c :: rest =>
    if c = ':' ∨ c = ',' then some rest else if isBlank c then some (c :: rest) else none

/-- A text without one leading at sign. -/
def dropAt : List Char → List Char
  | '@' :: rest => rest
  | cs => cs

/-- The command in a message to the bot called `bot`. -/
def commandChars (bot text : List Char) : Option (List Char) := do
  let (candidate, after) ←
    Utf8.splitAtBytes (Utf8.encodeChars bot).length (dropAt (Blank.trimStart text))
  guard (!bot.isEmpty && sameIgnoringCase candidate bot)
  let command := Blank.trim (← afterSeparator after)
  guard !command.isEmpty
  return command

/-- The command in a message to the bot called `bot`. -/
def command? (bot text : String) : Option String :=
  (commandChars bot.toList text.toList).map String.ofList

end Switchboard.Chat.Mention
