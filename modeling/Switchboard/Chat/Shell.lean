import Switchboard.Chat.Handler

/-!
# Chat over a byte stream

Each line of the stream is a message of one user in the room `shell`. Lines end with a line feed,
and one carriage return before it is dropped; a last line without a line feed counts. Blank lines
are skipped. A task is run to its end before the next line is looked at, and a line that is no text
ends the chat.
-/

namespace Switchboard.Chat.Shell

/-- The room of all messages. -/
def room : String := "shell"

/-- The lines of some bytes, each with its line feed. -/
def lines : List UInt8 → List (List UInt8)
  | [] => []
  | b :: rest =>
    if b = 0x0A then [b] :: lines rest
    else
      match lines rest with
      | line :: others => (b :: line) :: others
      | [] => [[b]]

/-- A line without its line feed and a carriage return before it. -/
def content (line : List UInt8) : List UInt8 :=
  match line.reverse with
  | 0x0A :: 0x0D :: front => front.reverse
  | 0x0A :: front => front.reverse
  | _ => line

/-- The text of a line, or what is wrong with it. -/
def text (line : List UInt8) : Except String String :=
  match Text.Utf8.decode (content line) with
  | some text => .ok text
  | none => .error (Text.Utf8.diagnosis line)

/-- Handles a line of a user. -/
def handleLine {σ : Type} (bot : Bot) (ports : Ports σ) (commands : Alias.Snapshot) (user : String)
    (line : String) (state : σ) : σ :=
  if Text.isBlankText line then state
  else bot.handleFully ports commands ⟨user, room, line⟩ state

/-- Handles lines of a user up to the first that is no text. -/
def handleLines {σ : Type} (bot : Bot) (ports : Ports σ) (commands : Alias.Snapshot)
    (user : String) : List (List UInt8) → σ → Except String Unit × σ
  | [], state => (.ok (), state)
  | line :: rest, state =>
    match text line with
    | .error reason => (.error reason, state)
    | .ok line =>
      handleLines bot ports commands user rest (handleLine bot ports commands user line state)

/-- Handles the lines in some bytes. -/
def run {σ : Type} (bot : Bot) (ports : Ports σ) (commands : Alias.Snapshot) (user : String)
    (bytes : List UInt8) (state : σ) : Except String Unit × σ :=
  handleLines bot ports commands user (lines bytes) state

end Switchboard.Chat.Shell
