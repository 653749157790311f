import Switchboard.Proofs.Chat.Replies
import Switchboard.Proofs.Chat.Turns
import Switchboard.Relay

/-!
# What the steps of a relay change

Only a new listing changes the commands of a relay (`Relay.installs`), and only messages make it
send requests to its executor (`Step.messages`). Chat leaves everything apart from executor and
sink as it was; `Relay.Requested` says so, with the requests that were made. It is proved for a
single call, and composed along the definitions of tasks, messages and streams.

## Main results

* `requested_chat`, `requested_shell`: what chat changes, and which requests it makes.
* `effect_step`: what a step does to the commands, and which requests it makes.
-/

namespace Switchboard

open Alias (Request Snapshot Definition)

/-- The executor keeps the requests that it gets. -/
@[simp]
theorem Alias.Executor.requests_submit (executor : Alias.Executor) (request : Request) :
    (executor.submit request).2.requests = executor.requests ++ [request] := by
  simp [Executor.submit, Executor.requests]

namespace Chat

variable {bot : Bot} {commands : Snapshot} {message : Incoming} {request : Request}

/-- The request that a task is about to make. -/
def Task.request? : Task → Option Request
  | waiting request => some request
  | answered .. => none
  | finished => none

/-- The request that a message leads to, if it is a command. -/
def Bot.request? (bot : Bot) (commands : Snapshot) (message : Incoming) : Option Request :=
  (bot.disposition message (bot.demand commands message)).task?.bind Task.request?

/-- A message makes a request if it gives a command. -/
theorem Bot.request?_eq_some_iff :
    bot.request? commands message = some request ↔
      ∃ resolved, bot.Commands commands message resolved ∧
        bot.request message resolved = request := by
  simp only [← demand_eq_command_iff, request?]
  cases bot.demand commands message <;>
    simp [disposition, Disposition.task?, Task.request?]

/-- What is done with a message depends on what it asks for. -/
theorem Bot.handle_fst {σ : Type} (bot : Bot) (ports : Ports σ) (commands : Snapshot)
    (message : Incoming) (state : σ) :
    (bot.handle ports commands message state).1 =
      bot.disposition message (bot.demand commands message) := by
  unfold handle
  cases bot.demand commands message <;> rfl

/-- A task makes its request in its first step. -/
theorem Task.request?_step {σ : Type} (ports : Ports σ) (task : Task) (state : σ) :
    (task.step ports state).1.request? = none := by
  cases task <;> rfl

end Chat

namespace Relay

open Chat

/-! ### Requests -/

/-- From one relay to another, nothing but executor and sink has changed, and the executor has
received the given requests. -/
structure Requested (requests : List Request) (before after : Relay) : Prop where
  frame : after = { before with executor := after.executor, sink := after.sink }
  requests_eq : after.executor.requests = before.executor.requests ++ requests

namespace Requested

variable {relay first second third : Relay} {requests more : List Request}

/-- Nothing is requested by doing nothing. -/
theorem refl (relay : Relay) : Requested [] relay relay := ⟨rfl, (List.append_nil _).symm⟩

/-- Requests are made one after the other. -/
theorem trans (h : Requested requests first second) (h' : Requested more second third) :
    Requested (requests ++ more) first third where
  frame := by
    rw [h'.frame, h.frame]
  requests_eq := by
    rw [h'.requests_eq, h.requests_eq, List.append_assoc]

/-- Requests do not change the registry. -/
theorem registry_eq (h : Requested requests first second) : second.registry = first.registry := by
  rw [h.frame]

/-- Requests do not change the bot. -/
theorem bot_eq (h : Requested requests first second) : second.bot = first.bot := by
  rw [h.frame]

/-- The requests of items that are dealt with one after the other. -/
theorem foldl {α : Type} {request? : α → Option Request} {act : Relay → α → Relay}
    (h : ∀ relay item, Requested (request? item).toList relay (act relay item)) (items : List α)
    (relay : Relay) : Requested (items.filterMap request?) relay (items.foldl act relay) := by
  rw [List.filterMap_eq_flatMap_toList]
  induction items generalizing relay with
  | nil => exact .refl relay
  | cons item items ih => exact (h relay item).trans (ih (act relay item))

end Requested

variable {bot : Bot} {commands : Snapshot}

/-- Executing a request makes it. -/
theorem requested_execute (request : Request) (relay : Relay) :
    Requested [request] relay (ports.execute request relay).2 :=
  ⟨rfl, relay.executor.requests_submit request⟩

/-- Sending a message makes none. -/
theorem requested_send (message : Outgoing) (relay : Relay) :
    Requested [] relay (ports.send message relay).2 :=
  ⟨rfl, (List.append_nil _).symm⟩

/-- A step of a task makes the request that the task was about to make. -/
theorem requested_task_step (task : Task) (relay : Relay) :
    Requested task.request?.toList relay (task.step ports relay).2 := by
  cases task with
  | waiting request => exact requested_execute request relay
  | answered room outcome => exact requested_send _ relay
  | finished => exact .refl relay

/-- What a task requests before it ends: after its first step it has its request behind it. -/
theorem requested_task_run (task : Task) (relay : Relay) :
    Requested task.request?.toList relay (task.run ports relay) := by
  have hfirst := requested_task_step task relay
  have hsecond := requested_task_step (task.step ports relay).1 (task.step ports relay).2
  rw [Task.request?_step] at hsecond
  rw [← List.append_nil task.request?.toList]
  exact hfirst.trans hsecond

/-- Tasks make their requests in order. -/
theorem requested_runAll (tasks : List Task) (relay : Relay) :
    Requested (tasks.filterMap Task.request?) relay (Task.runAll ports tasks relay) :=
  Requested.foldl (fun relay task => requested_task_run task relay) tasks relay

/-- To handle a message makes no request. -/
theorem requested_handle (bot : Bot) (commands : Snapshot) (message : Incoming) (relay : Relay) :
    Requested [] relay (bot.handle ports commands message relay).2 := by
  unfold Bot.handle
  cases bot.demand commands message with
  | nothing => exact .refl relay
  | help => exact requested_send _ relay
  | command resolved => exact .refl relay

/-- Handling messages makes none before their tasks run. -/
theorem requested_handleAll (bot : Bot) (commands : Snapshot) (messages : List Incoming)
    (relay : Relay) :
    (bot.handleAll ports commands messages relay).1 =
        messages.map (fun message => bot.disposition message (bot.demand commands message)) ∧
      Requested [] relay (bot.handleAll ports commands messages relay).2 := by
  induction messages generalizing relay with
  | nil => exact ⟨rfl, .refl relay⟩
  | cons message messages ih =>
      obtain ⟨hdispositions, hrequested⟩ := ih (bot.handle ports commands message relay).2
      refine ⟨?_, (requested_handle bot commands message relay).trans hrequested⟩
      rw [List.map_cons, ← hdispositions, ← bot.handle_fst ports commands message relay]
      rfl

/-- A message that is handled with its task makes its request. -/
theorem requested_handleFully (bot : Bot) (commands : Snapshot) (message : Incoming)
    (relay : Relay) :
    Requested (bot.request? commands message).toList relay
      (bot.handleFully ports commands message relay) := by
  have hhandle := requested_handle bot commands message relay
  have hrun := hhandle.trans (requested_task_run
    ((bot.handle ports commands message relay).1.task?.getD .finished) _)
  rw [← Bot.handleFully_eq, List.nil_append, Bot.handle_fst] at hrun
  unfold Bot.request?
  cases htask : (bot.disposition message (bot.demand commands message)).task? <;>
    rwa [htask] at hrun

/-- Every line of the shell makes its request. -/
theorem requested_shell (bot : Bot) (commands : Snapshot) (user : String) (input : List UInt8)
    (relay : Relay) :
    Requested ((Shell.messages user (Shell.contents input)).filterMap (bot.request? commands)) relay
      (Shell.run bot ports commands user input relay).2 := by
  rw [Shell.run, Shell.handleLines_snd, Shell.map_content_lines]
  exact Requested.foldl (fun relay message => requested_handleFully bot commands message relay) _
    relay

/-! ### Steps -/

/-- The messages that are handled in a step. -/
def Step.messages : Step → List Incoming
  | chat messages => messages
  | shell user input => Shell.messages user (Shell.contents input)
  | _ => []

/-- The listing that a step installs, if it does. -/
def installs (relay : Relay) : Step → Option (List Definition)
  | .refresh => relay.source.fetch.1.toOption
  | .replace listing => some listing
  | .install listing => some listing
  | _ => none

/-- Every message of the chat makes its request. -/
theorem requested_chat (relay : Relay) (messages : List Incoming) :
    Requested (messages.filterMap (relay.bot.request? relay.commands)) relay
      (relay.step (.chat messages)).2 := by
  obtain ⟨hdispositions, hrequested⟩ :=
    requested_handleAll relay.bot relay.commands messages relay
  have hrequests : ((relay.bot.handleAll ports relay.commands messages relay).1.filterMap
      (·.task?)).filterMap Task.request? = messages.filterMap (relay.bot.request? relay.commands) := by
    rw [hdispositions, List.filterMap_filterMap, List.filterMap_map]
    rfl
  exact hrequests ▸ hrequested.trans (requested_runAll _ _)

/-- What a step does to a relay: it may install a listing, and it makes the requests of its messages
for the commands that were there before. -/
structure Effect (step : Step) (before after : Relay) : Prop where
  bot_eq : after.bot = before.bot
  registry_eq : after.registry =
    (before.installs step).elim before.registry before.registry.replace
  requests_eq : after.executor.requests = before.executor.requests ++
    step.messages.filterMap (before.bot.request? before.commands)

/-- A step that does nothing but chat. -/
theorem Requested.effect {step : Step} {before after : Relay}
    (h : Requested (step.messages.filterMap (before.bot.request? before.commands)) before after)
    (hinstalls : before.installs step = none) : Effect step before after where
  bot_eq := h.bot_eq
  registry_eq := by
    rw [hinstalls]
    exact h.registry_eq
  requests_eq := h.requests_eq

/-- **The effect of a step.** -/
theorem effect_step (relay : Relay) (step : Step) : Effect step relay (relay.step step).2 := by
  cases step with
  | refresh =>
      simp only [Relay.step, Alias.Registry.refresh]
      cases hfetch : relay.source.fetch.1 with
      | error fault =>
          exact ⟨rfl, by rw [installs, hfetch]; rfl, (List.append_nil _).symm⟩
      | ok listing =>
          exact ⟨rfl, by rw [installs, hfetch]; rfl, (List.append_nil _).symm⟩
  | chat messages => exact (requested_chat relay messages).effect rfl
  | shell user input =>
      exact Requested.effect (requested_shell relay.bot relay.commands user input relay) rfl
  | extract format text =>
      simp only [Relay.step]
      split <;> exact ⟨rfl, rfl, (List.append_nil _).symm⟩
  | _ => exact ⟨rfl, rfl, (List.append_nil _).symm⟩

end Relay

end Switchboard
