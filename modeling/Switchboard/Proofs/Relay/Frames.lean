import Switchboard.Proofs.Chat.Calls
import Switchboard.Proofs.Notification.Delivery
import Switchboard.Proofs.Relay.Operation

/-!
# What the events of a relay leave alone

Every event of a relay in operation has a part of the relay that it may change, and leaves the rest
exactly as it was, also when it fails halfway (`Operation.Frame`). Chat is the one kind of event
that goes on for a while; all of it are calls of executor and sink, so that it is enough to say what
a single call changes (`Relay.Chatted`).

The commands belong to listings alone. Each listing that is installed is built as a whole, at the
next reading of the clock; therefore the time of the commands tells how many listings have been
installed before (`clock_run`).

## Main results

* `Relay.frame_step`, `frame_step`: what an event changes.
* `registry_step`: the registry goes from listing to listing.
* `clock_run`: the clock counts the listings.
* `commands_change_by_listings_only`: all of this for every event of every operation.
-/

namespace Switchboard

open Alias (Definition Snapshot Executor FetchFault)
open Chat (Bot Outgoing)

/-- Adding a definition does not change the time of a snapshot. -/
theorem Alias.Snapshot.builtAt_add (snapshot : Snapshot) (definition : Definition) :
    (snapshot.add definition).builtAt = snapshot.builtAt := by
  unfold Snapshot.add
  split <;> rfl

/-- A snapshot is of the time at which it is built. -/
theorem Alias.Snapshot.builtAt_build (listing : List Definition) (time : Nat) :
    (Snapshot.build listing time).builtAt = time := by
  have hfold (snapshot : Snapshot) : (listing.foldl Snapshot.add snapshot).builtAt =
      snapshot.builtAt := by
    induction listing generalizing snapshot with
    | nil => rfl
    | cons definition listing ih => exact (ih _).trans (snapshot.builtAt_add definition)
  exact hfold (.empty time)

/-- A fetch changes nothing about the source but the number of fetches. -/
theorem Alias.Source.fetch_snd (source : Alias.Source) :
    source.fetch.2 = { source with fetches := source.fetches + 1 } := by
  unfold Source.fetch
  split <;> rfl

/-- A recording sink changes by at most one message. -/
theorem Chat.Recording.exists_sent (message : Outgoing) (recording : Chat.Recording) :
    ∃ sent : List Outgoing, sent.length ≤ 1 ∧
      (Chat.Recording.sink message recording).2 =
        { recording with sent := recording.sent ++ sent } := by
  unfold Chat.Recording.sink
  split
  · exact ⟨[], Nat.zero_le 1, by rw [List.append_nil]⟩
  · exact ⟨[message], Nat.le_refl 1, rfl⟩

namespace Relay

/-! ### Chat -/

/-- From one relay to another, nothing has changed but the script and the log of the executor and
the messages of the sink: answers of the script may have been used up, and the executor may have
received more requests and the sink more messages. -/
structure Chatted (before after : Relay) : Prop where
  frame : after =
    { before with
      executor :=
        { before.executor with script := after.executor.script, log := after.executor.log }
      sink := { before.sink with sent := after.sink.sent } }
  script_suffix : after.executor.script <:+ before.executor.script
  log_prefix : before.executor.log <+: after.executor.log
  sent_prefix : before.sink.sent <+: after.sink.sent

namespace Chatted

variable {first second third : Relay}

/-- Nothing changes by doing nothing. -/
theorem refl (relay : Relay) : Chatted relay relay :=
  ⟨rfl, List.suffix_rfl, List.prefix_rfl, List.prefix_rfl⟩

/-- What two changes leave alone is left alone by both. -/
theorem trans (h : Chatted first second) (h' : Chatted second third) : Chatted first third where
  frame := by
    rw [h'.frame, h.frame]
  script_suffix := h'.script_suffix.trans h.script_suffix
  log_prefix := h.log_prefix.trans h'.log_prefix
  sent_prefix := h.sent_prefix.trans h'.sent_prefix

/-- A request takes an answer from the script, and a message is sent or refused. -/
theorem of_call (h : ports.Calls first second) : Chatted first second := by
  cases h with
  | execute request =>
      exact ⟨rfl, List.tail_suffix _, List.prefix_append _ _, List.prefix_rfl⟩
  | send message =>
      obtain ⟨sent, -, hsink⟩ := Chat.Recording.exists_sent message first.sink
      simp only [ports, hsink]
      exact ⟨rfl, List.suffix_rfl, List.prefix_rfl, List.prefix_append _ _⟩

/-- Calls of a bot leave the commands alone. -/
theorem of_leads (h : ports.Leads first second) : Chatted first second := by
  induction h with
  | refl => exact .refl first
  | tail _ hcall ih => exact ih.trans (.of_call hcall)

end Chatted

/-! ### Steps -/

/-- What a step may change. -/
def Frame (before after : Relay) : Step → Prop
  | .serve _ | .serveBody _ | .failSource _ | .refuseSource .. =>
    after = { before with source := { after.source with fetches := before.source.fetches } }
  | .refresh =>
    after =
      { before with
        registry := after.registry
        source := { before.source with fetches := before.source.fetches + 1 } }
  | .replace _ | .install _ => after = { before with registry := after.registry }
  | .pin => after = { before with pinned := before.commands }
  | .matchPinned _ | .resolve _ | .extract .. | .lookUp _ | .help _ => after = before
  | .script answer =>
    after =
      { before with
        executor := { before.executor with script := before.executor.script ++ [answer] } }
  | .sink refusal => after = { before with sink := { before.sink with refusal } }
  | .chat _ | .shell .. => Chatted before after
  | .notify .. =>
    ∃ sent : List Outgoing, sent.length ≤ 1 ∧
      after = { before with sink := { before.sink with sent := before.sink.sent ++ sent } }

/-- A notification is at most one message more. -/
theorem frame_notify (relay : Relay) (contentType : Option String) (body : List UInt8) :
    Frame relay (relay.step (.notify contentType body)).2 (.notify contentType body) := by
  simp only [step]
  cases hread : Notification.read contentType body with
  | error fault =>
      rw [Notification.deliver_of_error hread]
      exact ⟨[], Nat.zero_le 1, by rw [List.append_nil]⟩
  | ok message =>
      obtain ⟨sent, hlength, hsink⟩ := Chat.Recording.exists_sent message relay.sink
      rw [Notification.deliver_of_ok hread, hsink]
      exact ⟨sent, hlength, rfl⟩

/-- **Frames.** Every step changes what it may change. -/
theorem frame_step (relay : Relay) (step : Step) : Frame relay (relay.step step).2 step := by
  cases step with
  | serveBody body =>
      simp only [Relay.step, Alias.Source.serveBody]
      split <;> rfl
  | refresh =>
      simp only [Relay.step, Alias.Registry.refresh, Alias.Source.fetch_snd]
      split <;> rfl
  | extract format text =>
      simp only [Relay.step]
      split <;> rfl
  | chat messages =>
      have hhandled := relay.bot.leads_handleAll ports relay.commands messages relay
      exact .of_leads (hhandled.trans (Chat.Task.leads_runAll ports _ _))
  | shell user input =>
      exact .of_leads (Chat.Shell.leads_run ports relay.bot relay.commands user input relay)
  | notify contentType body => exact frame_notify relay contentType body
  | _ => rfl

/-- **A refresh that fails**, whatever the fault, is one more fetch and nothing else. -/
theorem step_refresh_of_error {relay : Relay} {fault : FetchFault}
    (h : relay.source.fetch.1 = .error fault) :
    relay.step .refresh =
      (.notRefreshed fault,
        { relay with source := { relay.source with fetches := relay.source.fetches + 1 } }) := by
  simp only [step, Alias.Registry.refresh, Alias.Source.fetch_snd, h]
  rfl

/-- A listing is installed by a refresh that succeeds, or because it is given. -/
theorem installs_eq_some_iff {relay : Relay} {step : Step} {listing : List Definition} :
    relay.installs step = some listing ↔
      (step = .refresh ∧ relay.source.fetch.1 = .ok listing) ∨ step = .replace listing ∨
        step = .install listing := by
  cases step with
  | refresh =>
      cases hfetch : relay.source.fetch.1 <;> simp [installs, hfetch, Except.toOption]
  | _ => simp [installs]

end Relay

namespace Operation

variable {bot : Bot} {executor : Executor}

/-! ### Events -/

/-- The listing that an event installs, if it does. -/
def installs (operation : Operation) : Event → Option (List Definition)
  | .relay step => operation.relay.installs step
  | .hear _ | .advance _ => none

/-- What an event may change. -/
def Frame (before after : Relay) : Event → Prop
  | .relay step => before.Frame after step
  | .hear _ | .advance _ => before.Chatted after

/-- **Frames.** Every event changes what it may change. -/
theorem frame_step (operation : Operation) (event : Event) :
    Frame operation.relay (operation.step event).relay event := by
  cases event with
  | relay step => exact operation.relay.frame_step step
  | hear message => exact .of_leads (Bot.leads_handle Relay.ports _ _ message operation.relay)
  | advance index =>
      rw [step]
      split
      · exact .refl _
      · next task _ => exact .of_leads (task.leads_step Relay.ports operation.relay)

/-- **The registry** goes from listing to listing. -/
theorem registry_step (operation : Operation) (event : Event) :
    (operation.step event).relay.registry =
      (operation.installs event).elim operation.relay.registry operation.relay.registry.replace := by
  cases event with
  | relay step => exact (operation.relay.effect_step step).registry_eq
  | hear message => rw [(operation.frame_step (.hear message)).frame]; rfl
  | advance index => rw [(operation.frame_step (.advance index)).frame]; rfl

/-! ### Listings -/

/-- The listings that are installed in some events, in order. -/
def installed (operation : Operation) : List Event → List (List Definition)
  | [] => []
  | event :: rest => (operation.installs event).toList ++ (operation.step event).installed rest

/-- What is installed by one event more. -/
theorem installed_concat (operation : Operation) (events : List Event) (event : Event) :
    operation.installed (events ++ [event]) =
      operation.installed events ++ ((events.foldl step operation).installs event).toList := by
  induction events generalizing operation with
  | nil => exact List.append_nil _
  | cons first rest ih => simp only [List.cons_append, installed, ih, List.foldl_cons, List.append_assoc]

/-- How many listings are installed in some events of an operation. -/
def builds (bot : Bot) (executor : Executor) (events : List Event) : Nat :=
  (installed { relay := { bot, executor } } events).length

/-- How many snapshots have been built after one event more. -/
theorem builds_concat (bot : Bot) (executor : Executor) (events : List Event) (event : Event) :
    builds bot executor (events ++ [event]) =
      builds bot executor events + ((run bot executor events).installs event).toList.length := by
  rw [builds, installed_concat, List.length_append]
  rfl

/-- There are no fewer of them later on. -/
theorem builds_le_of_prefix {earlier events : List Event} (h : earlier <+: events) :
    builds bot executor earlier ≤ builds bot executor events := by
  obtain ⟨later, rfl⟩ := h
  induction later using List.reverseRecOn with
  | nil => rw [List.append_nil]
  | append_singleton later event ih =>
      rw [← List.append_assoc, builds_concat]
      exact Nat.le_add_right_of_le ih

/-- **The clock** was read once for the registry, and once for each listing. -/
theorem clock_run (bot : Bot) (executor : Executor) (events : List Event) :
    (run bot executor events).relay.registry.clock = 1 + builds bot executor events := by
  induction events using List.reverseRecOn with
  | nil => rfl
  | append_singleton events event ih =>
      rw [run_concat, registry_step, builds_concat]
      cases (run bot executor events).installs event with
      | none => exact ih
      | some listing => exact congrArg (· + 1) ih

/-- The time of the commands is the last reading of the clock. -/
theorem builtAt_run (bot : Bot) (executor : Executor) (events : List Event) :
    (run bot executor events).relay.commands.builtAt = 1 + builds bot executor events := by
  rw [(sound_run bot executor events).offers, Snapshot.builtAt_build, clock_run]

/-- **The commands change by listings only.** In every operation, whatever has happened so far, the
next event

* changes nothing but what it may change: nothing at all when commands are looked up, the script and
  the log of the executor and the messages of the sink in chat, the messages of the sink, by one at
  most, for a notification;
* leaves the commands as they are unless it installs a listing, which then is all that the commands
  are made of, at a time that is later than that of all commands before;
* installs a listing only if it is a refresh that succeeds, a replacement or an installation;
* is one more fetch and nothing else if it is a refresh that fails, whatever the fault.

The runs of a relay, in which no task waits, are among the operations (`map_snd_run`). -/
theorem commands_change_by_listings_only (bot : Bot) (executor : Executor) (front : List Event)
    (event : Event) :
    let before := run bot executor front
    let after := run bot executor (front ++ [event])
    let built := builds bot executor (front ++ [event])
    Frame before.relay after.relay event ∧
      (before.installs event = none → after.relay.registry = before.relay.registry) ∧
      (∀ listing, before.installs event = some listing →
        after.relay.commands = .build listing (1 + built) ∧
          after.relay.commands.builtAt = 1 + built ∧
          ∀ earlier, earlier <+: front →
            (run bot executor earlier).relay.commands.builtAt <
              after.relay.commands.builtAt) ∧
      (∀ listing, before.installs event = some listing ↔
        (event = .relay .refresh ∧ before.relay.source.fetch.1 = .ok listing) ∨
          event = .relay (.replace listing) ∨ event = .relay (.install listing)) ∧
      ∀ fault, before.relay.source.fetch.1 = .error fault →
        before.relay.step .refresh =
          (.notRefreshed fault,
            { before.relay with
              source :=
                { before.relay.source with fetches := before.relay.source.fetches + 1 } }) := by
  intro before after built
  have hafter : after = before.step event := run_concat bot executor front event
  have hregistry := before.registry_step event
  rw [← hafter] at hregistry
  refine ⟨hafter ▸ before.frame_step event, fun hnone => ?_, fun listing hsome => ?_,
    fun listing => ?_, fun fault hfault => Relay.step_refresh_of_error hfault⟩
  · rw [hregistry, hnone, Option.elim_none]
  · have hbuilt : built = builds bot executor front + 1 := by
      rw [← List.length_singleton (a := listing), ← Option.toList_some, ← hsome]
      exact builds_concat bot executor front event
    have htime : after.relay.commands.builtAt = 1 + built :=
      builtAt_run bot executor (front ++ [event])
    refine ⟨?_, htime, fun earlier hearlier => ?_⟩
    · rw [Relay.commands, hregistry, hsome, Option.elim_some, Alias.Registry.replace,
        clock_run bot executor front, hbuilt, Nat.add_assoc]
    · have hle : builds bot executor earlier ≤ builds bot executor front :=
        builds_le_of_prefix hearlier
      rw [htime, builtAt_run]
      omega
  · cases event with
    | relay step => simpa [installs] using Relay.installs_eq_some_iff
    | _ => simp [installs]

/-- A listing is replaced by a refresh, and then the source goes down. -/
theorem commands_change_by_listings_only_refresh :
    let bot : Bot := ⟨"bot", "ops"⟩
    let executor : Executor := { fallback := .failure "down" }
    let deploy : Definition := { name := "deploy", formats := ["deploy"] }
    let status : Definition := { name := "status", formats := ["status"] }
    let front : List Event := [.relay (.replace [deploy]), .relay (.serve [status])]
    let refreshed := run bot executor (front ++ [.relay .refresh])
    let broken := run bot executor (front ++ [.relay (.failSource "offline")])
    (run bot executor front).installs (.relay .refresh) = some [status] ∧
      refreshed.relay.commands = .build [status] 3 ∧
      broken.relay.source.fetch.1 = .error (.transport "offline") ∧
      broken.relay.step .refresh =
        (.notRefreshed (.transport "offline"),
          { broken.relay with source := { broken.relay.source with fetches := 1 } }) := by
  intro bot executor deploy status front refreshed broken
  obtain ⟨-, -, hinstalled, -⟩ :=
    commands_change_by_listings_only bot executor front (.relay .refresh)
  obtain ⟨-, -, -, -, hfailed⟩ := commands_change_by_listings_only bot executor
    (front ++ [.relay (.failSource "offline")]) (.relay .refresh)
  exact ⟨rfl, (hinstalled [status] rfl).1, rfl, hfailed _ rfl⟩

end Operation

end Switchboard
