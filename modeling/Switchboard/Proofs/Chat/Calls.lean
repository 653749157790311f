import Mathlib.Logic.Relation
import Switchboard.Chat.Shell

/-!
# Chat only calls its ports

Whatever the bot does with messages, it acts on the state of the world through executor and sink
alone: every state that it leaves behind is one that calls of its ports lead to (`Ports.Leads`).
Which calls these are does not matter here. A relation between states that every call keeps is
therefore kept by tasks, by the handling of messages and by chat over a byte stream.

## Main results

* `Task.leads_runAll`: what tasks lead to.
* `Bot.leads_handleAll`, `Bot.leads_handleFully`: what the handling of messages leads to.
* `Shell.leads_run`: what chat over a byte stream leads to.
-/

namespace Switchboard.Chat

variable {σ : Type}

namespace Ports

/-- One call of executor or sink, whatever comes back. -/
inductive Calls (ports : Ports σ) : σ → σ → Prop
  | execute (request : Alias.Request) (state : σ) :
      Calls ports state (ports.execute request state).2
  | send (message : Outgoing) (state : σ) : Calls ports state (ports.send message state).2

/-- Some calls of executor and sink, one after the other. -/
abbrev Leads (ports : Ports σ) : σ → σ → Prop := Relation.ReflTransGen ports.Calls

end Ports

variable (ports : Ports σ)

/-! ### Tasks -/

namespace Task

/-- A step of a task leads on by its calls. -/
theorem leads_step (task : Task) (state : σ) : ports.Leads state (task.step ports state).2 := by
  cases task with
  | waiting request => exact .single (.execute request state)
  | answered room outcome => exact .single (.send ⟨.room room, outcome.message⟩ state)
  | finished => exact .refl

/-- A task that runs to its end leads on by its calls. -/
theorem leads_run (task : Task) (state : σ) : ports.Leads state (task.run ports state) :=
  (leads_step ports task state).trans (leads_step ports _ _)

/-- **Tasks** that are run one after the other. -/
theorem leads_runAll (tasks : List Task) (state : σ) :
    ports.Leads state (runAll ports tasks state) := by
  induction tasks generalizing state with
  | nil => exact .refl
  | cons task tasks ih => exact (leads_run ports task state).trans (ih _)

end Task

/-! ### Messages -/

namespace Bot

variable (bot : Bot) (commands : Alias.Snapshot)

/-- Handling a message leads on by its calls. -/
theorem leads_handle (message : Incoming) (state : σ) :
    ports.Leads state (bot.handle ports commands message state).2 := by
  unfold handle
  cases bot.demand commands message with
  | nothing => exact .refl
  | help => exact .single (.send _ state)
  | command resolved => exact .refl

/-- **Messages** that are handled in order. -/
theorem leads_handleAll (messages : List Incoming) (state : σ) :
    ports.Leads state (bot.handleAll ports commands messages state).2 := by
  induction messages generalizing state with
  | nil => exact .refl
  | cons message messages ih =>
      exact (leads_handle ports bot commands message state).trans (ih _)

/-- Handling a message together with its task leads on by its calls. -/
theorem leads_handleFully (message : Incoming) (state : σ) :
    ports.Leads state (bot.handleFully ports commands message state) := by
  have hhandle := leads_handle ports bot commands message state
  simp only [handleFully]
  split
  · exact hhandle.trans (Task.leads_run ports _ _)
  · exact hhandle

end Bot

/-! ### Streams -/

namespace Shell

variable (bot : Bot) (commands : Alias.Snapshot) (user : String)

/-- **Handling lines** leads on by the calls of all their messages. -/
theorem leads_handleLines (lines : List (List UInt8)) (state : σ) :
    ports.Leads state (handleLines bot ports commands user lines state).2 := by
  induction lines generalizing state with
  | nil => exact .refl
  | cons line lines ih =>
      rw [handleLines]
      split
      · exact .refl
      · next text _ =>
          refine .trans ?_ (ih _)
          rw [handleLine]
          split
          · exact .refl
          · exact Bot.leads_handleFully ports bot commands _ state

/-- **Chat over a byte stream**, also when it breaks off. -/
theorem leads_run (bytes : List UInt8) (state : σ) :
    ports.Leads state (run bot ports commands user bytes state).2 :=
  leads_handleLines ports bot commands user (lines bytes) state

end Shell

end Switchboard.Chat
