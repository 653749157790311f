import Switchboard.Proofs.Alias.Snapshots
import Switchboard.Proofs.Relay.Effects

/-!
# Where requests come from

A relay in operation hears messages at any time, and the tasks that come out of them go on at any
time, while its commands are refreshed and replaced. `Operation.step` is one event of this. A step
of the relay as a whole is an event as well, so that the runs of a relay are among the operations
(`map_snd_run`).

An operation keeps the listing that was installed last. It has no part in what happens, but it
allows to say of every request where it comes from: from a message, and from an alias in the listing
that was in place when this message was handled (`Warranted`). A request stays what it is from then
on, whatever is installed before its task is run.

## Main results

* `warranted_of_commands`: the request for a command has its warrant in the listing.
* `origin_step`: the requests that are made or left to make stem from messages.
* `requests_warranted`: so it is with all requests of an operation.
-/

namespace Switchboard

open Alias (Request Snapshot Definition Recognizer Executor)
open Chat (Bot Incoming Task)

namespace Relay

/-- The commands of a relay are those of a listing. -/
def Offers (relay : Relay) (listing : List Definition) : Prop :=
  relay.commands = .build listing relay.registry.clock

variable {relay after : Relay} {listing : List Definition}

/-- Requests do not change what is offered. -/
theorem Offers.of_requested {requests : List Request} (h : relay.Offers listing)
    (hrequested : Requested requests relay after) : after.Offers listing := by
  rw [Offers, commands, hrequested.registry_eq]
  exact h

/-- The commands of a relay are those of the listing that was installed last. -/
theorem Offers.step (h : relay.Offers listing) (step : Step) :
    (relay.step step).2.Offers ((relay.installs step).getD listing) := by
  rw [Offers, commands, (relay.effect_step step).registry_eq]
  cases relay.installs step with
  | none => exact h
  | some installed => rfl

end Relay

/-- A relay in operation. -/
structure Operation where
  relay : Relay
  /-- What is left to do for the messages that were heard, in the order of the messages. -/
  tasks : List Task := []
  /-- The listing that was installed last. -/
  listing : List Definition := []

namespace Operation

/-- What happens to a relay in operation. -/
inductive Event
  /-- A step of the relay. -/
  | relay (step : Relay.Step)
  /-- A message is handled, and its task is left to do. -/
  | hear (message : Incoming)
  /-- The task of a message that was heard takes a step. Messages are numbered from zero. -/
  | advance (index : Nat)

/-- The messages that are handled in an event. -/
def Event.messages : Event → List Incoming
  | .relay step => step.messages
  | .hear message => [message]
  | .advance _ => []

/-- One event. -/
def step (operation : Operation) : Event → Operation
  | .relay step =>
    { operation with
      relay := (operation.relay.step step).2
      listing := (operation.relay.installs step).getD operation.listing }
  | .hear message =>
    let (disposition, relay) := operation.relay.bot.handle Relay.ports operation.relay.commands
      message operation.relay
    { operation with relay, tasks := operation.tasks ++ [disposition.task?.getD .finished] }
  | .advance index =>
    match operation.tasks[index]? with
    | none => operation
    | some task =>
      let (task, relay) := task.step Relay.ports operation.relay
      { operation with relay, tasks := operation.tasks.set index task }

/-- A relay in operation from its beginning. -/
def run (bot : Bot) (executor : Executor) (events : List Event) : Operation :=
  events.foldl step { relay := { bot, executor } }

/-- How many messages are heard. -/
def heard (events : List Event) : Nat :=
  events.countP fun
    | .hear _ => true
    | _ => false

variable {bot : Bot} {executor : Executor} {operation : Operation} {events : List Event}
  {event : Event} {request : Request} {message : Incoming}

/-- An operation goes on event by event. -/
theorem run_concat (bot : Bot) (executor : Executor) (events : List Event) (event : Event) :
    run bot executor (events ++ [event]) = (run bot executor events).step event := by
  rw [run, run, List.foldl_append]
  rfl

/-! ### Warrants -/

/-- A request is warranted by a message that was handled with the commands of a listing. -/
structure Warranted (bot : Bot) (listing : List Definition) (time : Nat) (message : Incoming)
    (request : Request) : Prop where
  /-- A valid alias of the listing with the name in the request lists the format in the request. -/
  advertised : ∃ definition ∈ listing,
    definition.name = request.aliasName ∧ definition.Advertises request.format
  /-- The format compiles and recognizes the command, and no format registered earlier does. -/
  recognized : ∃ recognizer earlier later,
    Recognizer.compile request.aliasName request.format = .ok recognizer ∧
      recognizer.isMatch request.command ∧
      (Snapshot.build listing time).recognizers = earlier ++ recognizer :: later ∧
      ∀ other ∈ earlier, ¬ other.isMatch request.command
  /-- The command is what the message tells the bot, in lower case. -/
  addressed : ∃ command, Chat.Mention.command? bot.name message.text = some command ∧
    request.command = Unicode.Case.lowercase command
  user_eq : request.user = message.user
  room_eq : request.room = message.room
  channel_eq : request.channel = bot.channel

/-- **The request for a command** is warranted by the message and the listing. -/
theorem warranted_of_commands {listing : List Definition} {time : Nat} {resolved : Alias.Resolved}
    (h : bot.Commands (.build listing time) message resolved) :
    Warranted bot listing time message (bot.request message resolved) := by
  obtain ⟨command, hcommand, -, hresolve⟩ := h
  rw [Snapshot.resolve] at hresolve
  split at hresolve
  · cases hresolve
  · obtain ⟨recognizer, hfirst, rfl⟩ := Option.map_eq_some_iff.mp hresolve
    obtain ⟨hmatch, earlier, later, hrecognizers, hearlier⟩ :=
      List.find?_eq_some_iff_append.mp hfirst
    obtain ⟨hcompile, hadvertised⟩ := Snapshot.exists_of_mem_recognizers
      (hrecognizers ▸ List.mem_append_right earlier List.mem_cons_self)
    have hunmatched : ∀ other ∈ earlier, ¬ other.isMatch (Unicode.Case.lowercase command) :=
      fun other hother => by simpa using hearlier other hother
    exact
      { advertised := hadvertised
        recognized := ⟨recognizer, earlier, later, hcompile, hmatch, hrecognizers, hunmatched⟩
        addressed := ⟨command, hcommand, rfl⟩
        user_eq := rfl
        room_eq := rfl
        channel_eq := rfl }

/-! ### One event -/

/-- The requests that are made in an event. -/
def made (operation : Operation) : Event → List Request
  | .relay step => step.messages.filterMap (operation.relay.bot.request? operation.relay.commands)
  | .hear _ => []
  | .advance index => (operation.tasks[index]?.bind Task.request?).toList

/-- The requests that are left to make. -/
def pending (operation : Operation) : List Request := operation.tasks.filterMap Task.request?

/-- The task of a message, as it is when the message has been heard. -/
def taskOf (bot : Bot) (commands : Snapshot) (message : Incoming) : Task :=
  (bot.disposition message (bot.demand commands message)).task?.getD .finished

/-- The task of a message has the request of the message. -/
theorem request?_taskOf (bot : Bot) (commands : Snapshot) (message : Incoming) :
    (taskOf bot commands message).request? = bot.request? commands message := by
  rw [taskOf, Bot.request?]
  cases (bot.disposition message (bot.demand commands message)).task? <;> rfl

/-- A message that is heard adds its task. -/
theorem tasks_hear (operation : Operation) (message : Incoming) :
    (operation.step (.hear message)).tasks =
      operation.tasks ++ [taskOf operation.relay.bot operation.relay.commands message] := by
  rw [step, taskOf, ← Bot.handle_fst _ Relay.ports _ _ operation.relay]

/-- What one event does to an operation, apart from its tasks. -/
structure Effect (event : Event) (before after : Operation) : Prop where
  bot_eq : after.relay.bot = before.relay.bot
  offers : before.relay.Offers before.listing → after.relay.Offers after.listing
  requests_eq : after.relay.executor.requests =
    before.relay.executor.requests ++ before.made event

/-- **What an event does** to an operation. -/
theorem effect_step (operation : Operation) (event : Event) :
    Effect event operation (operation.step event) := by
  cases event with
  | relay step =>
      have heffect := operation.relay.effect_step step
      exact ⟨heffect.bot_eq, fun h => h.step step, heffect.requests_eq⟩
  | hear message =>
      have hrequested := Relay.requested_handle operation.relay.bot operation.relay.commands message
        operation.relay
      exact ⟨hrequested.bot_eq, fun h => h.of_requested hrequested, hrequested.requests_eq⟩
  | advance index =>
      rw [step]
      cases htask : operation.tasks[index]? with
      | none => exact ⟨rfl, id, by simp [made, htask]⟩
      | some task =>
          have hrequested := Relay.requested_task_step task operation.relay
          refine ⟨hrequested.bot_eq, fun h => h.of_requested hrequested, ?_⟩
          rw [hrequested.requests_eq, made, htask, Option.bind_some]

/-- The tasks after an event. -/
theorem mem_tasks_step {task : Task} (h : task ∈ (operation.step event).tasks) :
    task ∈ operation.tasks ∨ task.request? = none ∨
      ∃ message ∈ event.messages, task = taskOf operation.relay.bot operation.relay.commands message := by
  cases event with
  | relay step => exact .inl h
  | hear message =>
      rw [tasks_hear, List.mem_append, List.mem_singleton] at h
      exact h.imp_right fun h => .inr ⟨message, List.mem_singleton.mpr rfl, h⟩
  | advance index =>
      rw [step] at h
      split at h
      · exact .inl h
      · next task' htask =>
          rcases List.mem_or_eq_of_mem_set h with h | rfl
          · exact .inl h
          · exact .inr (.inl (task'.request?_step Relay.ports operation.relay))

/-- **Where requests come from.** A request that is made in an event, or left to make after it, was
left to make before it, or a message that is handled in it leads to it. -/
theorem origin_step
    (h : request ∈ operation.made event ∨ request ∈ (operation.step event).pending) :
    request ∈ operation.pending ∨ ∃ message ∈ event.messages,
      operation.relay.bot.request? operation.relay.commands message = some request := by
  rcases h with hmade | hpending
  · cases event with
    | relay step =>
        rw [made] at hmade
        exact .inr (List.mem_filterMap.mp hmade)
    | hear message => exact absurd hmade List.not_mem_nil
    | advance index =>
        obtain ⟨task, htask, hrequest⟩ := Option.bind_eq_some_iff.mp (Option.mem_toList.mp hmade)
        exact .inl (List.mem_filterMap.mpr ⟨task, List.mem_of_getElem? htask, hrequest⟩)
  · obtain ⟨task, htask, hrequest⟩ := List.mem_filterMap.mp hpending
    rcases mem_tasks_step htask with hold | hnone | ⟨message, hmessage, rfl⟩
    · exact .inl (List.mem_filterMap.mpr ⟨task, hold, hrequest⟩)
    · rw [hnone] at hrequest
      cases hrequest
    · rw [request?_taskOf] at hrequest
      exact .inr ⟨message, hmessage, hrequest⟩

/-- An event concerns the task of a message only if the task takes a step in it. -/
theorem getElem?_tasks_step_of_ne {index : Nat} {task : Task} (hevent : event ≠ .advance index)
    (htask : operation.tasks[index]? = some task) :
    (operation.step event).tasks[index]? = some task := by
  cases event with
  | relay step => exact htask
  | hear message =>
      rw [tasks_hear, List.getElem?_append_left (List.getElem?_eq_some_iff.mp htask).1, htask]
  | advance other =>
      have hne : other ≠ index := fun h => hevent (congrArg Event.advance h)
      rw [step]
      split
      · exact htask
      · exact (List.getElem?_set_ne hne).trans htask

/-- A message that is heard adds one task, and no other event does. -/
theorem length_tasks_step (operation : Operation) (event : Event) :
    (operation.step event).tasks.length = operation.tasks.length + heard [event] := by
  cases event with
  | relay step => rfl
  | hear message =>
      rw [tasks_hear, List.length_append]
      rfl
  | advance index =>
      rw [step]
      split
      · rfl
      · exact List.length_set

/-! ### Operations -/

/-- A request stems from a message that was handled in one of the events. -/
def Stems (bot : Bot) (executor : Executor) (events : List Event) (request : Request) : Prop :=
  ∃ front event back, events = front ++ event :: back ∧ ∃ message ∈ event.messages,
    bot.request? (run bot executor front).relay.commands message = some request

/-- A request that stems from a message goes on to do so. -/
theorem Stems.concat (h : Stems bot executor events request) (event : Event) :
    Stems bot executor (events ++ [event]) request := by
  obtain ⟨front, event', back, rfl, hmessage⟩ := h
  exact ⟨front, event', back ++ [event], by simp, hmessage⟩

/-- What holds of an operation after some events. -/
structure Sound (bot : Bot) (executor : Executor) (events : List Event) (operation : Operation) :
    Prop where
  bot_eq : operation.relay.bot = bot
  offers : operation.relay.Offers operation.listing
  stems_of_pending : ∀ request ∈ operation.pending, Stems bot executor events request
  exists_requests : ∃ new, operation.relay.executor.requests = executor.requests ++ new ∧
    ∀ request ∈ new, Stems bot executor events request

/-- **What holds of every operation.** The requests that are left to make belong to the invariant,
since a request may be made long after the message that it stems from. -/
theorem sound_run (bot : Bot) (executor : Executor) (events : List Event) :
    Sound bot executor events (run bot executor events) := by
  induction events using List.reverseRecOn with
  | nil =>
      exact ⟨rfl, rfl, List.forall_mem_nil _, [], (List.append_nil _).symm, List.forall_mem_nil _⟩
  | append_singleton events event ih =>
      obtain ⟨hbot, hoffers, hpending, new, hnew, hstems⟩ := ih
      have heffect := effect_step (run bot executor events) event
      have horigin : ∀ request, request ∈ (run bot executor events).made event ∨
          request ∈ ((run bot executor events).step event).pending →
            Stems bot executor (events ++ [event]) request := by
        intro request hrequest
        rcases origin_step hrequest with hold | ⟨message, hmessage, hasked⟩
        · exact (hpending request hold).concat event
        · rw [hbot] at hasked
          exact ⟨events, event, [], rfl, message, hmessage, hasked⟩
      rw [run_concat]
      refine ⟨heffect.bot_eq.trans hbot, heffect.offers hoffers,
        fun request hrequest => horigin request (.inr hrequest),
        new ++ (run bot executor events).made event, ?_, fun request hrequest => ?_⟩
      · rw [heffect.requests_eq, hnew, List.append_assoc]
      · rcases List.mem_append.mp hrequest with hold | hmade
        · exact (hstems request hold).concat event
        · exact horigin request (.inl hmade)

/-- There are as many tasks as messages were heard. -/
theorem length_tasks_run (bot : Bot) (executor : Executor) (events : List Event) :
    (run bot executor events).tasks.length = heard events := by
  induction events using List.reverseRecOn with
  | nil => rfl
  | append_singleton events event ih =>
      rw [run_concat, length_tasks_step, ih, heard, heard, heard, List.countP_append]

/-- **A task waits** as it is, whatever happens until it takes a step. The induction is on the events since
its message was heard, none of which concerns it. -/
theorem getElem?_tasks_run (bot : Bot) (executor : Executor) (front : List Event)
    (message : Incoming) {back : List Event} (hback : .advance (heard front) ∉ back) :
    (run bot executor (front ++ .hear message :: back)).tasks[heard front]? =
      some (taskOf bot (run bot executor front).relay.commands message) := by
  induction back using List.reverseRecOn with
  | nil =>
      rw [run_concat, tasks_hear, ← length_tasks_run bot executor front, List.getElem?_concat_length,
        (sound_run bot executor front).bot_eq]
  | append_singleton back event ih =>
      obtain ⟨hback, hevent⟩ := not_or.mp (mt List.mem_append.mpr hback)
      rw [← List.cons_append, ← List.append_assoc, run_concat]
      exact getElem?_tasks_step_of_ne (fun h => hevent (h ▸ List.mem_singleton_self _)) (ih hback)

/-- The relays in a run are those of an operation without messages that wait. -/
theorem map_snd_run (operation : Operation) (steps : List Relay.Step) :
    (operation.relay.run steps).map Prod.snd =
      steps.inits.tail.map fun front => ((front.map Event.relay).foldl step operation).relay := by
  induction steps generalizing operation with
  | nil => rfl
  | cons first rest ih =>
      have hinits : rest.inits = [] :: rest.inits.tail := by cases rest <;> simp
      rw [List.inits_cons, List.tail_cons, List.map_map, hinits, List.map_cons, Relay.run,
        List.map_cons]
      exact congrArg _ (ih (operation.step (.relay first)))

/-- **Only what is advertised is executed.** In every operation, whatever the executor answers:

* every request that the executor receives stems from a message that was handled in one of the
  events, and it is warranted by this message and by the listing whose commands were in place then;
* when the task of a command takes its first step, the executor receives the request that was
  resolved when the message was handled, whatever was installed since.

The runs of a relay, in which no task waits, are among the operations. -/
theorem requests_warranted (bot : Bot) (executor : Executor) (events : List Event) :
    (∃ new, (run bot executor events).relay.executor.requests = executor.requests ++ new ∧
      ∀ request ∈ new, ∃ front event back, events = front ++ event :: back ∧
        ∃ message ∈ event.messages,
          let before := run bot executor front
          before.relay.commands = .build before.listing before.relay.registry.clock ∧
            Warranted bot before.listing before.relay.registry.clock message request) ∧
      (∀ front message back resolved, events = front ++ .hear message :: back →
        bot.Commands (run bot executor front).relay.commands message resolved →
          .advance (heard front) ∉ back →
            (run bot executor (events ++ [.advance (heard front)])).relay.executor.requests =
              (run bot executor events).relay.executor.requests ++ [bot.request message resolved]) ∧
      ∀ steps, (Relay.run { bot, executor } steps).map Prod.snd =
        steps.inits.tail.map fun front => (run bot executor (front.map .relay)).relay := by
  refine ⟨?_, ?_, map_snd_run { relay := { bot, executor } }⟩
  · obtain ⟨new, hnew, hstems⟩ := (sound_run bot executor events).exists_requests
    refine ⟨new, hnew, fun request hrequest => ?_⟩
    obtain ⟨front, event, back, hevents, message, hmessage, hasked⟩ := hstems request hrequest
    have hoffers := (sound_run bot executor front).offers
    obtain ⟨resolved, hcommands, rfl⟩ := Bot.request?_eq_some_iff.mp hasked
    rw [hoffers] at hcommands
    exact ⟨front, event, back, hevents, message, hmessage, hoffers, warranted_of_commands hcommands⟩
  · rintro front message back resolved rfl hcommands hback
    have htask := getElem?_tasks_run bot executor front message hback
    have hrequest := Bot.request?_eq_some_iff.mpr ⟨resolved, hcommands, rfl⟩
    rw [run_concat, (effect_step _ _).requests_eq, made, htask, Option.bind_some, request?_taskOf,
      hrequest]
    rfl

/-- The command `status` is carried out although its alias is gone when the task is run. -/
theorem requests_warranted_withdrawn :
    let bot : Bot := ⟨"bot", "ops"⟩
    let executor : Executor := { fallback := .failure "down" }
    let front : List Event := [.relay (.replace [{ name := "status", formats := ["status"] }])]
    let message : Incoming := ⟨"ann", "#a", "bot STATUS"⟩
    let events := front ++ [.hear message, .relay (.replace [])]
    bot.Commands (run bot executor front).relay.commands message ⟨"status", "status", "status"⟩ ∧
      (run bot executor (events ++ [.advance 0])).relay.executor.requests =
        [⟨"status", "status", "status", "ann", "#a", "ops"⟩] := by
  intro bot executor front message events
  have hcommands : bot.Commands (run bot executor front).relay.commands message
      ⟨"status", "status", "status"⟩ :=
    ⟨"STATUS", by decide, by decide, by decide +kernel⟩
  have hwaiting : Event.advance (heard front) ∉ [Event.relay (.replace [])] := by simp
  obtain ⟨-, hdelayed, -⟩ := requests_warranted bot executor events
  have hbefore : (run bot executor events).relay.executor.requests = [] := by decide +kernel
  refine ⟨hcommands, (hdelayed front message _ _ rfl hcommands hwaiting).trans ?_⟩
  rw [hbefore]
  rfl

end Operation

end Switchboard
