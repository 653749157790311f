import Switchboard.Alias.Dispatch
import Switchboard.Alias.Snapshot
import Switchboard.Chat.Mention
import Switchboard.Chat.Sink

/-!
# Commands in chat

A message to the bot asks for help, or it is a command that resolves to an alias, or it is ignored.
Help is sent at once. A command becomes a task, which runs on its own in two steps: the request is
executed, and then the outcome is told in the room from which the command came. The alias and the
format of a task are fixed when the message is handled, so that later changes of the commands do not
touch it.

Executing and sending are given by `Ports` and act on a state that is left open here.
-/

namespace Switchboard.Chat

/-- The bot that answers in chat. -/
structure Bot where
  name : String
  /-- The channel on which results are to be reported. -/
  channel : String
  deriving DecidableEq, Repr

/-- How requests are executed and messages are sent. -/
structure Ports (σ : Type) where
  execute : Alias.Request → σ → Alias.Answer × σ
  send : Sink σ
  /-- The number of the sentence with which the next acceptance is acknowledged. -/
  choice : σ → Fin Alias.Acknowledgement.templates.length

/-! ### Tasks -/

/-- A command under way. -/
inductive Task
  /-- The request is to be executed. -/
  | waiting (request : Alias.Request)
  /-- The outcome is to be told in a room. -/
  | answered (room : String) (outcome : Alias.Outcome)
  | finished
  deriving DecidableEq, Repr

namespace Task

/-- The next step of a task. -/
def step {σ : Type} (ports : Ports σ) : Task → σ → Task × σ
  | waiting request, state =>
    let (answer, state) := ports.execute request state
    (answered request.room (.ofAnswer (ports.choice state) answer), state)
  | answered room outcome, state => (finished, (ports.send ⟨.room room, outcome.message⟩ state).2)
  | finished, state => (finished, state)

/-- Runs a task to its end. -/
def run {σ : Type} (ports : Ports σ) (task : Task) (state : σ) : σ :=
  let (task, state) := task.step ports state
  (task.step ports state).2

/-- Runs tasks one after the other. -/
def runAll {σ : Type} (ports : Ports σ) (tasks : List Task) (state : σ) : σ :=
  tasks.foldl (fun state task => task.run ports state) state

end Task

/-! ### Messages -/

/-- What a message asks for. -/
inductive Demand
  | nothing
  | help
  | command (resolved : Alias.Resolved)
  deriving DecidableEq, Repr

/-- What was done with a message. -/
inductive Disposition
  | ignored
  | helpSent
  | dispatched (task : Task)
  deriving DecidableEq, Repr

/-- The task of a message, if there is one. -/
def Disposition.task? : Disposition → Option Task
  | dispatched task => some task
  | _ => none

namespace Bot

/-- The command that asks for help, in any ASCII case. -/
def helpCommand : List Char := ['h', 'e', 'l', 'p']

/-- The help when there are no commands. -/
def emptyHelp : String := "No commands are registered yet."

/-- What a message asks for. -/
def demand (bot : Bot) (commands : Alias.Snapshot) (message : Incoming) : Demand :=
  match Mention.command? bot.name message.text with
  | none => .nothing
  | some command =>
    if Mention.sameIgnoringCase command.toList helpCommand then .help
    else
      match commands.resolve command with
      | some resolved => .command resolved
      | none => .nothing

/-- The text of help. -/
def helpText (bot : Bot) (commands : Alias.Snapshot) : String :=
  let entries := commands.helpEntries bot.name
  if entries.isEmpty then emptyHelp else String.intercalate "\n" entries

/-- The request for the command of a message. -/
def request (bot : Bot) (message : Incoming) (resolved : Alias.Resolved) : Alias.Request :=
  .ofResolved resolved ⟨message.user, message.room⟩ bot.channel

/-- Handles a message. -/
def handle {σ : Type} (bot : Bot) (ports : Ports σ) (commands : Alias.Snapshot) (message : Incoming)
    (state : σ) : Disposition × σ :=
  match bot.demand commands message with
  | .nothing => (.ignored, state)
  | .help => (.helpSent, (ports.send ⟨.room message.room, bot.helpText commands⟩ state).2)
  | .command resolved => (.dispatched (.waiting (bot.request message resolved)), state)

/-- Handles messages in order, and collects what was done with them. -/
def handleAll {σ : Type} (bot : Bot) (ports : Ports σ) (commands : Alias.Snapshot) :
    List Incoming → σ → List Disposition × σ
  | [], state => ([], state)
  | message :: rest, state =>
    let (first, state) := bot.handle ports commands message state
    let (others, state) := bot.handleAll ports commands rest state
    (first :: others, state)

/-- Handles a message and runs its task to the end. -/
def handleFully {σ : Type} (bot : Bot) (ports : Ports σ) (commands : Alias.Snapshot)
    (message : Incoming) (state : σ) : σ :=
  let (disposition, state) := bot.handle ports commands message state
  match disposition.task? with
  | some task => task.run ports state
  | none => state

end Bot

end Switchboard.Chat
