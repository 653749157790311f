import Switchboard.Proofs.Alias.Acknowledgements
import Switchboard.Proofs.Chat.Conversation

/-!
# One command, one request, one reply

In a conversation every message is done with on its own. `Stage` lists how far a message can
have come: it is ignored, its help was sent, or its task has taken no step, one step or all of
its steps, with the calls that belong to each of these. A step of its task takes a message to
the next stage (`Stage.advance`), and no other move touches it, so that the stage of a message
depends on its own steps only, in whatever order messages arrive and tasks go on, and whatever
executor and sink do.

## Main results

* `demand_eq_help_iff`, `demand_eq_command_iff`: what is asked for by a message.
* `exists_stage`: the stage of a message at the end of a conversation.
* `one_request_one_reply`: what a message causes, and that nothing else matters for it.
-/

namespace Switchboard.Chat

variable {σ : Type} {bot : Bot} {ports : Ports σ} {commands : Alias.Snapshot} {message : Incoming}
  {resolved : Alias.Resolved}

/-! ### What a message asks for -/

/-- A message asks for help: it is addressed to the bot, and its command is the word for help. -/
def Bot.AsksForHelp (bot : Bot) (message : Incoming) : Prop :=
  ∃ command, Mention.command? bot.name message.text = some command ∧
    Mention.sameIgnoringCase command.toList Bot.helpCommand

/-- A message is a command: it is addressed to the bot, does not ask for help, and resolves. -/
def Bot.Commands (bot : Bot) (commands : Alias.Snapshot) (message : Incoming)
    (resolved : Alias.Resolved) : Prop :=
  ∃ command, Mention.command? bot.name message.text = some command ∧
    ¬ Mention.sameIgnoringCase command.toList Bot.helpCommand ∧
      commands.resolve command = some resolved

/-- Help is demanded by the messages that ask for it. -/
theorem demand_eq_help_iff : bot.demand commands message = .help ↔ bot.AsksForHelp message := by
  unfold Bot.demand Bot.AsksForHelp
  cases Mention.command? bot.name message.text with
  | none => simp
  | some command =>
      by_cases hhelp : Mention.sameIgnoringCase command.toList Bot.helpCommand
      · simp [hhelp]
      · cases hresolve : commands.resolve command <;> simp [hhelp, hresolve]

/-- A command is demanded by the messages that give one. -/
theorem demand_eq_command_iff :
    bot.demand commands message = .command resolved ↔ bot.Commands commands message resolved := by
  unfold Bot.demand Bot.Commands
  cases Mention.command? bot.name message.text with
  | none => simp
  | some command =>
      by_cases hhelp : Mention.sameIgnoringCase command.toList Bot.helpCommand
      · simp [hhelp]
      · cases hresolve : commands.resolve command <;> simp [hhelp, hresolve]

/-- Nothing is demanded by the others. -/
theorem demand_eq_nothing_iff :
    bot.demand commands message = .nothing ↔
      ¬ bot.AsksForHelp message ∧ ∀ resolved, ¬ bot.Commands commands message resolved := by
  have hhelp : bot.AsksForHelp message ↔ bot.demand commands message = .help :=
    demand_eq_help_iff.symm
  simp only [hhelp, ← demand_eq_command_iff]
  cases bot.demand commands message <;> simp

/-! ### Stages -/

/-- How far a message can have come when its task has taken `n` steps: what became of it, and the
calls that it caused. -/
inductive Stage (bot : Bot) (commands : Alias.Snapshot) (message : Incoming) :
    (n : Nat) → Thread → List Call → Prop
  | ignored {n : Nat} (h : bot.demand commands message = .nothing) :
      Stage bot commands message n ⟨.ignored, .finished⟩ []
  | helped {n : Nat} {result : Except DeliveryFault Unit}
      (h : bot.demand commands message = .help) :
      Stage bot commands message n ⟨.helpSent, .finished⟩
        [.sent ⟨.room message.room, bot.helpText commands⟩ result]
  | waiting {resolved : Alias.Resolved} (h : bot.demand commands message = .command resolved) :
      Stage bot commands message 0
        ⟨.dispatched (.waiting (bot.request message resolved)),
          .waiting (bot.request message resolved)⟩ []
  | answered {resolved : Alias.Resolved} {answer : Alias.Answer}
      {choice : Fin Alias.Acknowledgement.templates.length}
      (h : bot.demand commands message = .command resolved) :
      Stage bot commands message 1
        ⟨.dispatched (.waiting (bot.request message resolved)),
          .answered message.room (.ofAnswer choice answer)⟩
        [.executed (bot.request message resolved) answer]
  | finished {n : Nat} {resolved : Alias.Resolved} {answer : Alias.Answer} {text : String}
      {result : Except DeliveryFault Unit}
      (h : bot.demand commands message = .command resolved) (htells : answer.Tells text) :
      Stage bot commands message (n + 2)
        ⟨.dispatched (.waiting (bot.request message resolved)), .finished⟩
        [.executed (bot.request message resolved) answer,
          .sent ⟨.room message.room, text⟩ result]

/-- A message that has been handled is at its first stage. -/
theorem stage_handle (bot : Bot) (ports : Ports σ) (commands : Alias.Snapshot)
    (message : Incoming) (state : σ) :
    let handled := bot.handle ports.recording commands message (state, [])
    Stage bot commands message 0 ⟨handled.1, handled.1.task?.getD .finished⟩ handled.2.2 := by
  intro handled
  cases hdemand : bot.demand commands message with
  | nothing =>
      have hhandled : handled = (.ignored, state, []) := by
        simp only [handled, Bot.handle, hdemand]
      rw [hhandled]
      exact .ignored hdemand
  | help =>
      have hhandled : handled = (.helpSent,
          (ports.recording.send ⟨.room message.room, bot.helpText commands⟩ (state, [])).2) := by
        simp only [handled, Bot.handle, hdemand]
      rw [hhandled]
      exact .helped hdemand
  | command resolved =>
      have hhandled : handled =
          (.dispatched (.waiting (bot.request message resolved)), state, []) := by
        simp only [handled, Bot.handle, hdemand]
      rw [hhandled]
      exact .waiting hdemand

/-- **A step** of its task takes a message to the next stage. -/
theorem Stage.advance {n : Nat} {thread : Thread} {calls : List Call}
    (h : Stage bot commands message n thread calls) (ports : Ports σ) (state : σ) :
    let stepped := thread.task.step ports.recording (state, [])
    Stage bot commands message (n + 1) { thread with task := stepped.1 }
      (calls ++ stepped.2.2) := by
  cases h with
  | ignored h => exact .ignored h
  | helped h => exact .helped h
  | waiting h => exact .answered h
  | answered h => exact .finished h (Alias.Answer.tells_message _ _)
  | finished h htells => exact .finished h htells

/-- What becomes of a message that asks for something. -/
def Bot.disposition (bot : Bot) (message : Incoming) : Demand → Disposition
  | .nothing => .ignored
  | .help => .helpSent
  | .command resolved => .dispatched (.waiting (bot.request message resolved))

/-- What a call asks for, apart from the text of a message. -/
def Call.address : Call → Alias.Request ⊕ Recipient
  | .executed request _ => .inl request
  | .sent message _ => .inr message.recipient

/-- What a message that asks for something calls for when its task has taken `n` steps. -/
def Bot.addresses (bot : Bot) (message : Incoming) (n : Nat) :
    Demand → List (Alias.Request ⊕ Recipient)
  | .nothing => []
  | .help => [.inr (.room message.room)]
  | .command resolved =>
    [.inl (bot.request message resolved), .inr (.room message.room)].take n

namespace Stage

variable {n : Nat} {thread : Thread} {calls : List Call}

/-- The outcome of handling a message follows from what it demands. -/
theorem disposition_eq (h : Stage bot commands message n thread calls) :
    thread.disposition = bot.disposition message (bot.demand commands message) := by
  cases h <;> simp only [Bot.disposition, *]

/-- The calls that were made for a message go where its demand says. -/
theorem map_address (h : Stage bot commands message n thread calls) :
    calls.map Call.address = bot.addresses message n (bot.demand commands message) := by
  cases h <;> simp [Bot.addresses, Call.address, *]

/-- Help was sent exactly to those who asked for it. -/
theorem disposition_eq_helpSent_iff (h : Stage bot commands message n thread calls) :
    thread.disposition = .helpSent ↔ bot.AsksForHelp message := by
  have hhelp : bot.AsksForHelp message ↔ bot.demand commands message = .help :=
    demand_eq_help_iff.symm
  rw [h.disposition_eq, hhelp]
  cases bot.demand commands message <;> simp [Bot.disposition]

/-- A task was dispatched exactly for the messages that give a command. -/
theorem disposition_eq_dispatched_iff (h : Stage bot commands message n thread calls) :
    (∃ task, thread.disposition = .dispatched task) ↔
      ∃ resolved, bot.Commands commands message resolved := by
  simp only [h.disposition_eq, ← demand_eq_command_iff]
  cases bot.demand commands message <;> simp [Bot.disposition]

/-- All other messages were ignored. -/
theorem disposition_eq_ignored_iff (h : Stage bot commands message n thread calls) :
    thread.disposition = .ignored ↔
      ¬ bot.AsksForHelp message ∧ ∀ resolved, ¬ bot.Commands commands message resolved := by
  rw [h.disposition_eq, ← demand_eq_nothing_iff]
  cases bot.demand commands message <;> simp [Bot.disposition]

/-- Nothing is called for a message that is ignored. -/
theorem calls_eq_of_ignored (h : Stage bot commands message n thread calls)
    (hignored : thread.disposition = .ignored) : calls = [] := by
  cases h with
  | ignored => rfl
  | helped | waiting | answered | finished => simp at hignored

/-- The one call for a message that asks for help sends it to the room. -/
theorem calls_eq_of_helpSent (h : Stage bot commands message n thread calls)
    (hhelp : thread.disposition = .helpSent) :
    ∃ result, calls = [.sent ⟨.room message.room, bot.helpText commands⟩ result] := by
  cases h with
  | helped => exact ⟨_, rfl⟩
  | ignored | waiting | answered | finished => simp at hhelp

/-- The calls of a command by the steps of its task. -/
theorem calls_of_command (h : Stage bot commands message n thread calls)
    (hcommand : bot.Commands commands message resolved) :
    (thread.task = .finished ↔ 2 ≤ n) ∧ (n = 0 → calls = []) ∧
      (n = 1 → ∃ answer, calls = [.executed (bot.request message resolved) answer]) ∧
      (thread.task = .finished → ∃ answer text result,
        calls = [.executed (bot.request message resolved) answer,
          .sent ⟨.room message.room, text⟩ result] ∧ answer.Tells text) := by
  have hdemand := demand_eq_command_iff.mpr hcommand
  cases h with
  | ignored h | helped h => rw [hdemand] at h; cases h
  | waiting h =>
      rw [hdemand] at h
      obtain rfl := Demand.command.inj h
      simp
  | answered h =>
      rw [hdemand] at h
      obtain rfl := Demand.command.inj h
      simp
  | finished h htells =>
      rw [hdemand] at h
      obtain rfl := Demand.command.inj h
      exact ⟨by simp, by simp, by simp, fun _ => ⟨_, _, _, rfl, htells⟩⟩

end Stage

namespace Conversation

/-- **The stage of a message** at the end of a conversation depends on the steps of its task. -/
theorem exists_stage (bot : Bot) (ports : Ports σ) (state : σ) (front : List Move)
    (commands : Alias.Snapshot) (message : Incoming) (back : List Move) :
    ∃ thread,
      (run bot ports state (front ++ .arrive commands message :: back)).threads[arrivals front]? =
          some thread ∧
        Stage bot commands message (advances (arrivals front) back) thread
          ((run bot ports state (front ++ .arrive commands message :: back)).calls
            (arrivals front)) := by
  induction back using List.reverseRecOn with
  | nil =>
      have hlength := length_threads_run bot ports state front
      obtain ⟨hthread, hcalls⟩ := step_arrive bot ports commands message hlength
      rw [calls_eq_nil_of_le bot ports state le_rfl, List.nil_append] at hcalls
      rw [run_concat, hcalls]
      exact ⟨_, hthread, stage_handle bot ports commands message _⟩
  | append_singleton back move ih =>
      obtain ⟨thread, hthread, hstage⟩ := ih
      rw [← List.cons_append, ← List.append_assoc, run_concat]
      by_cases hmove : move = .advance (arrivals front)
      · subst hmove
        obtain ⟨hthread', hcalls⟩ := step_advance bot ports hthread
        rw [hcalls, advances_concat_self]
        exact ⟨_, hthread', hstage.advance ports _⟩
      · obtain ⟨harrived, -⟩ := List.getElem?_eq_some_iff.mp hthread
        have hsubject := subject_ne hmove harrived
        rw [advances_concat_of_ne hmove, calls_step_of_ne hsubject]
        exact ⟨thread, thread_step_of_ne hsubject hthread, hstage⟩

/-- **One command, one request, one reply.** In every conversation, for every order of messages and
steps of tasks, and for every executor and sink:

* every call is done for a message that has arrived;
* help is sent for a message exactly when it asks for help, a task is made of it exactly when it
  is a command, and otherwise it is ignored;
* an ignored message causes no call, and one that asks for help a single message to its own room;
* a command causes nothing before the first step of its task, and then one request; once its task is
  finished, which takes two steps, it has caused this request and one message to its own room,
  whose text tells the very answer to this request (`Alias.Answer.Tells`);
* what becomes of a message, its request and the rooms of its replies are the same for any other
  executor and sink. -/
theorem one_request_one_reply (bot : Bot) (ports : Ports σ) (state : σ) (moves : List Move) :
    (∀ entry ∈ (run bot ports state moves).log, entry.1 < arrivals moves) ∧
    ∀ front commands message back, moves = front ++ .arrive commands message :: back →
      let conversation := run bot ports state moves
      let index := arrivals front
      let steps := advances index back
      ∃ thread, conversation.threads[index]? = some thread ∧
        (thread.disposition = .helpSent ↔ bot.AsksForHelp message) ∧
        ((∃ task, thread.disposition = .dispatched task) ↔
          ∃ resolved, bot.Commands commands message resolved) ∧
        (thread.disposition = .ignored ↔
          ¬ bot.AsksForHelp message ∧ ∀ resolved, ¬ bot.Commands commands message resolved) ∧
        (thread.disposition = .ignored → conversation.calls index = []) ∧
        (thread.disposition = .helpSent → ∃ result,
          conversation.calls index = [.sent ⟨.room message.room, bot.helpText commands⟩ result]) ∧
        (∀ resolved, bot.Commands commands message resolved →
          (thread.task = .finished ↔ 2 ≤ steps) ∧
          (steps = 0 → conversation.calls index = []) ∧
          (steps = 1 → ∃ answer,
            conversation.calls index = [.executed (bot.request message resolved) answer]) ∧
          (thread.task = .finished → ∃ answer text result,
            conversation.calls index =
                [.executed (bot.request message resolved) answer,
                  .sent ⟨.room message.room, text⟩ result] ∧
              answer.Tells text)) ∧
        ∀ (σ' : Type) (ports' : Ports σ') (state' : σ'),
          (run bot ports' state' moves).threads[index]?.map Thread.disposition =
              some thread.disposition ∧
            ((run bot ports' state' moves).calls index).map Call.address =
              (conversation.calls index).map Call.address := by
  refine ⟨lt_of_mem_log bot ports state moves, ?_⟩
  rintro front commands message back rfl conversation index steps
  obtain ⟨thread, hthread, hstage⟩ := exists_stage bot ports state front commands message back
  refine ⟨thread, hthread, hstage.disposition_eq_helpSent_iff, hstage.disposition_eq_dispatched_iff,
    hstage.disposition_eq_ignored_iff, hstage.calls_eq_of_ignored, hstage.calls_eq_of_helpSent,
    fun resolved hcommand => hstage.calls_of_command hcommand, fun σ' ports' state' => ?_⟩
  obtain ⟨thread', hthread', hstage'⟩ :=
    exists_stage bot ports' state' front commands message back
  refine ⟨?_, ?_⟩
  · rw [hthread', Option.map_some, hstage.disposition_eq, hstage'.disposition_eq]
  · rw [hstage'.map_address, hstage.map_address]

/-- A command whose request and whose reply fail, while another message asks for help: the reply
tells the failure. -/
theorem one_request_one_reply_status :
    ∃ answer text result,
      (run ⟨"bot", "ops"⟩ ⟨fun _ _ => (.failure "down", ()), fun _ _ => (.error ⟨"gone"⟩, ()),
          fun _ => Alias.Acknowledgement.around 0⟩ ()
        [.arrive (.build [{ name := "status", formats := ["status"] }] 1)
            ⟨"ann", "#a", "Bot status"⟩,
          .advance 0, .arrive (.empty 2) ⟨"bob", "#b", "@bot: HELP"⟩, .advance 0]).calls 0 =
        [.executed ⟨"status", "status", "status", "ann", "#a", "ops"⟩ answer,
          .sent ⟨.room "#a", text⟩ result] ∧
      answer.Tells text := by
  have hcommand : Bot.Commands ⟨"bot", "ops"⟩
      (.build [{ name := "status", formats := ["status"] }] 1) ⟨"ann", "#a", "Bot status"⟩
      ⟨"status", "status", "status"⟩ :=
    ⟨"status", by decide, by decide, by decide +kernel⟩
  obtain ⟨-, hmessages⟩ := one_request_one_reply ⟨"bot", "ops"⟩
    ⟨fun _ _ => (.failure "down", ()), fun _ _ => (.error ⟨"gone"⟩, ()),
      fun _ => Alias.Acknowledgement.around 0⟩ ()
    [.arrive (.build [{ name := "status", formats := ["status"] }] 1) ⟨"ann", "#a", "Bot status"⟩,
      .advance 0, .arrive (.empty 2) ⟨"bob", "#b", "@bot: HELP"⟩, .advance 0]
  obtain ⟨thread, -, -, -, -, -, -, hcalls, -⟩ := hmessages [] _ _ _ rfl
  obtain ⟨hfinished, -, -, hboth⟩ := hcalls _ hcommand
  exact hboth (hfinished.mpr (Nat.le_refl 2))

end Conversation

end Switchboard.Chat
