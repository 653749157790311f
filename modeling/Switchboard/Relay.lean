import Switchboard.Alias.Executor
import Switchboard.Alias.Refresh
import Switchboard.Chat.Shell
import Switchboard.Notification.Webhook

/-!
# The relay

A relay joins the parts: commands are listed by a source, resolved by a registry and executed by an
executor, and messages go to a sink. Here source, executor and sink are scripted ones, so that the
whole relay is a state, and each thing that can be done with it is a step from state to state with a
result.
-/

namespace Switchboard

/-- A relay with scripted surroundings. -/
structure Relay where
  bot : Chat.Bot
  registry : Alias.Registry := .initial
  source : Alias.Source := {}
  executor : Alias.Executor
  sink : Chat.Recording := {}
  /-- A snapshot that was kept, whatever became of the registry. -/
  pinned : Alias.Snapshot := Alias.Registry.initial.current
  deriving Repr

namespace Relay

/-- What can be done with a relay. -/
inductive Step
  /-- Lets the source give a listing. -/
  | serve (listing : List Alias.Definition)
  /-- Lets the source give the listing that a body holds. -/
  | serveBody (body : String)
  /-- Lets the connection to the source fail. -/
  | failSource (reason : String)
  /-- Lets the source answer with a status that is no success. -/
  | refuseSource (code : Nat) (body : String)
  | refresh
  | replace (listing : List Alias.Definition)
  | install (listing : List Alias.Definition)
  /-- Keeps the current snapshot. -/
  | pin
  /-- Matches a text with the snapshot that was kept. -/
  | matchPinned (text : String)
  | resolve (text : String)
  | extract (format text : String)
  | lookUp (name : String)
  | help (bot : String)
  /-- Queues an answer of the executor. -/
  | script (answer : Alias.Answer)
  /-- Lets the sink refuse messages, or accept them again. -/
  | sink (refusal : Option String)
  /-- Handles messages in order and then runs their tasks. -/
  | chat (messages : List Chat.Incoming)
  /-- Chats over a byte stream. -/
  | shell (user : String) (input : List UInt8)
  | notify (contentType : Option String) (body : List UInt8)

/-- What a step tells. -/
inductive Result
  | done
  | refreshed (aliases formats fetches : Nat)
  | notRefreshed (fault : Alias.FetchFault)
  | replaced (formats aliases : Nat)
  | installed (formats : Nat)
  | pinned (builtAt formats : Nat) (format : Option String)
  | resolved (command : Option Alias.Resolved)
  | extracted (parameters : Option Alias.Parameters)
  | noSuchFormat
  | found (definition : Option Alias.Definition)
  | help (entries : List String)
  | handled (dispositions : List Chat.Disposition)
  | shell (result : Except String Unit)
  | notified (answer : Notification.Acknowledgement)

/-- Requests go to the executor and messages to the sink; the acknowledgements take turns. -/
def ports : Chat.Ports Relay where
  execute request relay :=
    let (answer, executor) := relay.executor.submit request
    (answer, { relay with executor })
  send message relay :=
    let (result, sink) := Chat.Recording.sink message relay.sink
    (result, { relay with sink })
  choice relay := Alias.Acknowledgement.around relay.executor.log.length

/-- The current commands. -/
def commands (relay : Relay) : Alias.Snapshot := relay.registry.current

/-- One step. -/
def step (relay : Relay) : Step → Result × Relay
  | .serve listing => (.done, { relay with source := relay.source.serve listing })
  | .serveBody body => (.done, { relay with source := relay.source.serveBody body })
  | .failSource reason => (.done, { relay with source := relay.source.fail reason })
  | .refuseSource code body =>
    (.done, { relay with source := relay.source.refuse (.status code body) })
  | .refresh =>
    let (result, registry, source) := relay.registry.refresh relay.source
    let relay := { relay with registry, source }
    match result with
    | .ok () =>
      (.refreshed relay.commands.aliases.length relay.commands.size source.fetches, relay)
    | .error fault => (.notRefreshed fault, relay)
  | .replace listing =>
    let relay := { relay with registry := relay.registry.replace listing }
    (.replaced relay.commands.size relay.commands.aliases.length, relay)
  | .install listing =>
    let relay := { relay with registry := relay.registry.replace listing }
    (.installed relay.commands.size, relay)
  | .pin => (.done, { relay with pinned := relay.commands })
  | .matchPinned text =>
    let found := (relay.pinned.firstMatch text).map Alias.Recognizer.format
    (.pinned relay.pinned.builtAt relay.pinned.size found, relay)
  | .resolve text => (.resolved (relay.registry.resolve text), relay)
  | .extract format text =>
    match relay.commands.recognizer? format with
    | some recognizer => (.extracted (recognizer.extract text), relay)
    | none => (.noSuchFormat, relay)
  | .lookUp name => (.found (relay.commands.alias? name), relay)
  | .help bot => (.help (relay.commands.helpEntries bot), relay)
  | .script answer => (.done, { relay with executor := relay.executor.queue answer })
  | .sink refusal => (.done, { relay with sink := { relay.sink with refusal } })
  | .chat messages =>
    let (dispositions, relay) := relay.bot.handleAll ports relay.commands messages relay
    (.handled dispositions, Chat.Task.runAll ports (dispositions.filterMap (·.task?)) relay)
  | .shell user input =>
    let (result, relay) := Chat.Shell.run relay.bot ports relay.commands user input relay
    (.shell result, relay)
  | .notify contentType body =>
    let (answer, sink) :=
      Notification.deliver Chat.Recording.sink contentType body relay.sink
    (.notified answer, { relay with sink })

/-- Some steps in order, with the result of each and the relay after it. -/
def run (relay : Relay) : List Step → List (Result × Relay)
  | [] => []
  | step :: rest =>
    let (result, relay) := relay.step step
    (result, relay) :: relay.run rest

end Relay

end Switchboard
