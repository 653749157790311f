import Mathlib.Tactic
import Switchboard.Chat.Handler

/-!
# Conversations

A conversation is the bot at work: messages arrive and are handled in order, and the tasks
that come out of them take their steps at any time and in any order, while executor and sink
share a state. `Conversation.step` is one move of it. Whatever a move asks of executor and
sink is written down together with the number of the message that it is done for, so that the
log says which message caused which call.

## Convention

The calls are written down by ports around the given ones (`Ports.recording`), which the bot
and its tasks use as they would use the given ones. The state goes on as it would without
them (`state_step_arrive`, `state_step_advance`).

## Main results

* `calls_step_of_ne`, `thread_step_of_ne`: a move concerns one message only.
* `lt_of_mem_log`: every call is done for a message that has arrived.
-/

namespace Switchboard.Chat

variable {σ : Type}

/-- A call of executor or sink, with what came back. -/
inductive Call
  | executed (request : Alias.Request) (answer : Alias.Answer)
  | sent (message : Outgoing) (result : Except DeliveryFault Unit)

/-- Ports that do what the given ones do, and write their calls down. -/
def Ports.recording (ports : Ports σ) : Ports (σ × List Call) where
  execute request state :=
    let (answer, inner) := ports.execute request state.1
    (answer, inner, state.2 ++ [.executed request answer])
  send message state :=
    let (result, inner) := ports.send message state.1
    (result, inner, state.2 ++ [.sent message result])
  choice state := ports.choice state.1

/-- Recording changes nothing about the steps of a task, whose calls are written behind those that
are there. -/
theorem Task.step_recording (ports : Ports σ) (task : Task) (state : σ) (calls : List Call) :
    task.step ports.recording (state, calls) =
      ((task.step ports state).1, (task.step ports state).2,
        calls ++ (task.step ports.recording (state, [])).2.2) := by
  cases task with
  | waiting request => rfl
  | answered room outcome => rfl
  | finished => simp [Task.step]

/-- Recording changes nothing about the handling of messages, whose calls are written behind those
that are there. -/
theorem Bot.handle_recording (bot : Bot) (ports : Ports σ) (commands : Alias.Snapshot)
    (message : Incoming) (state : σ) (calls : List Call) :
    bot.handle ports.recording commands message (state, calls) =
      ((bot.handle ports commands message state).1, (bot.handle ports commands message state).2,
        calls ++ (bot.handle ports.recording commands message (state, [])).2.2) := by
  unfold Bot.handle
  cases bot.demand commands message with
  | nothing => simp
  | help => rfl
  | command resolved => simp

/-- What became of a message. -/
structure Thread where
  disposition : Disposition
  /-- What is left of its task; a message without a task has nothing left to do. -/
  task : Task

/-- The bot at work. -/
structure Conversation (σ : Type) where
  state : σ
  /-- The messages so far, in the order of their arrival. -/
  threads : List Thread := []
  /-- The calls so far in their order, with the numbers of the messages that caused them. -/
  log : List (Nat × Call) := []

/-- What happens in a conversation. -/
inductive Move
  /-- A message arrives, at a time when there are the given commands. -/
  | arrive (commands : Alias.Snapshot) (message : Incoming)
  /-- The task of a message takes a step. Messages are numbered from zero. -/
  | advance (index : Nat)

/-- How many messages arrive. -/
def arrivals (moves : List Move) : Nat :=
  moves.countP fun
    | .arrive _ _ => true
    | .advance _ => false

/-- How many steps the task of a message takes. -/
def advances (index : Nat) (moves : List Move) : Nat :=
  moves.countP fun
    | .arrive _ _ => false
    | .advance j => j == index

/-- A step of a task counts for it. -/
theorem advances_concat_self (index : Nat) (moves : List Move) :
    advances index (moves ++ [.advance index]) = advances index moves + 1 := by
  rw [advances, List.countP_append]
  simp [advances]

/-- A move other than a step of a task does not count for it. -/
theorem advances_concat_of_ne {index : Nat} {move : Move} (h : move ≠ .advance index)
    (moves : List Move) : advances index (moves ++ [move]) = advances index moves := by
  rw [advances, List.countP_append, List.countP_singleton]
  cases move with
  | arrive commands message => rfl
  | advance j =>
      have hne : j ≠ index := fun hj => h (congrArg Move.advance hj)
      simp [advances, hne]

namespace Conversation

/-- One move. -/
def step (bot : Bot) (ports : Ports σ) (conversation : Conversation σ) : Move → Conversation σ
  | .arrive commands message =>
    let (disposition, state, calls) :=
      bot.handle ports.recording commands message (conversation.state, [])
    { state
      threads := conversation.threads ++ [⟨disposition, disposition.task?.getD .finished⟩]
      log := conversation.log ++ calls.map (conversation.threads.length, ·) }
  | .advance index =>
    match conversation.threads[index]? with
    | none => conversation
    | some thread =>
      let (task, state, calls) := thread.task.step ports.recording (conversation.state, [])
      { state
        threads := conversation.threads.set index { thread with task }
        log := conversation.log ++ calls.map (index, ·) }

/-- A conversation from its beginning. -/
def run (bot : Bot) (ports : Ports σ) (state : σ) (moves : List Move) : Conversation σ :=
  moves.foldl (step bot ports) { state }

/-- The calls that a message caused, in their order. -/
def calls (conversation : Conversation σ) (index : Nat) : List Call :=
  conversation.log.filterMap fun entry => if entry.1 = index then some entry.2 else none

variable {bot : Bot} {ports : Ports σ} {conversation : Conversation σ} {index : Nat}

/-- A conversation goes on move by move. -/
theorem run_concat (bot : Bot) (ports : Ports σ) (state : σ) (moves : List Move) (move : Move) :
    run bot ports state (moves ++ [move]) = (run bot ports state moves).step bot ports move := by
  rw [run, run, List.foldl_append]
  rfl

/-! ### The state -/

/-- What a message does at its arrival. -/
theorem state_step_arrive (commands : Alias.Snapshot) (message : Incoming) :
    (conversation.step bot ports (.arrive commands message)).state =
      (bot.handle ports commands message conversation.state).2 := by
  rw [step, Bot.handle_recording]

/-- What a task does in a step. -/
theorem state_step_advance {thread : Thread} (h : conversation.threads[index]? = some thread) :
    (conversation.step bot ports (.advance index)).state =
      (thread.task.step ports conversation.state).2 := by
  simp only [step, h]
  rw [Task.step_recording]

/-! ### Moves for one message -/

/-- The message that a move is done for. -/
def subject (conversation : Conversation σ) : Move → Nat
  | .arrive _ _ => conversation.threads.length
  | .advance index => index

/-- A message that arrives opens a thread, and no other move does. -/
theorem length_threads_step (move : Move) :
    (conversation.step bot ports move).threads.length =
      conversation.threads.length + arrivals [move] := by
  cases move with
  | arrive commands message => simp [step, arrivals]
  | advance index =>
      rw [step]
      split
      · rfl
      · simp [arrivals]

/-- There are as many threads as messages have arrived. -/
theorem length_threads_run (bot : Bot) (ports : Ports σ) (state : σ) (moves : List Move) :
    (run bot ports state moves).threads.length = arrivals moves := by
  induction moves using List.reverseRecOn with
  | nil => rfl
  | append_singleton moves move ih =>
      rw [run_concat, length_threads_step, ih, arrivals, arrivals, arrivals, List.countP_append]

/-- What the log gains by a move, all of it for one message, which has arrived. -/
theorem exists_log_step (bot : Bot) (ports : Ports σ) (conversation : Conversation σ)
    (move : Move) :
    ∃ new : List Call,
      (conversation.step bot ports move).log =
          conversation.log ++ new.map (conversation.subject move, ·) ∧
        (new = [] ∨
          conversation.subject move < (conversation.step bot ports move).threads.length) := by
  cases move with
  | arrive commands message =>
      refine ⟨_, rfl, Or.inr ?_⟩
      rw [length_threads_step]
      exact Nat.lt_succ_self _
  | advance index =>
      rw [length_threads_step, step]
      split
      · exact ⟨[], (List.append_nil _).symm, Or.inl rfl⟩
      · next hthread => exact ⟨_, rfl, Or.inr (List.getElem?_eq_some_iff.mp hthread).1⟩

/-- The calls that were made for a thread, out of those of one move. -/
theorem filterMap_tagged (calls : List Call) (i j : Nat) :
    ((calls.map (i, ·)).filterMap fun entry => if entry.1 = j then some entry.2 else none) =
      if i = j then calls else [] := by
  rw [List.filterMap_map]
  split
  · next h => simp [h]
  · next h => simp [h]

/-- **Calls.** A move causes no call of another message. -/
theorem calls_step_of_ne {move : Move} (h : conversation.subject move ≠ index) :
    (conversation.step bot ports move).calls index = conversation.calls index := by
  obtain ⟨new, hlog, -⟩ := exists_log_step bot ports conversation move
  rw [calls, hlog, List.filterMap_append, filterMap_tagged, if_neg h, List.append_nil]
  rfl

/-- **Threads.** A move leaves other messages as they are. -/
theorem thread_step_of_ne {move : Move} {thread : Thread}
    (h : conversation.subject move ≠ index) (hthread : conversation.threads[index]? = some thread) :
    (conversation.step bot ports move).threads[index]? = some thread := by
  cases move with
  | arrive commands message =>
      obtain ⟨hlt, -⟩ := List.getElem?_eq_some_iff.mp hthread
      rw [step, List.getElem?_append_left hlt, hthread]
  | advance j =>
      rw [step]
      split
      · exact hthread
      · exact (List.getElem?_set_ne h).trans hthread

/-- Nothing but the steps of its task is done for a message that has arrived. -/
theorem subject_ne {move : Move} (h : move ≠ .advance index)
    (harrived : index < conversation.threads.length) : conversation.subject move ≠ index := by
  cases move with
  | arrive commands message => exact Nat.ne_of_gt harrived
  | advance j => exact fun hj => h (congrArg Move.advance hj)

/-- The arrival of a message. -/
theorem step_arrive (bot : Bot) (ports : Ports σ) (commands : Alias.Snapshot) (message : Incoming)
    (hindex : conversation.threads.length = index) :
    let handled := bot.handle ports.recording commands message (conversation.state, [])
    (conversation.step bot ports (.arrive commands message)).threads[index]? =
        some ⟨handled.1, handled.1.task?.getD .finished⟩ ∧
      (conversation.step bot ports (.arrive commands message)).calls index =
        conversation.calls index ++ handled.2.2 := by
  intro handled
  subst hindex
  refine ⟨List.getElem?_concat_length, ?_⟩
  rw [calls, step, List.filterMap_append, filterMap_tagged, if_pos rfl]
  rfl

/-- A step of the task of a message. -/
theorem step_advance (bot : Bot) (ports : Ports σ) {thread : Thread}
    (hthread : conversation.threads[index]? = some thread) :
    (conversation.step bot ports (.advance index)).threads[index]? =
        some { thread with task := (thread.task.step ports.recording (conversation.state, [])).1 } ∧
      (conversation.step bot ports (.advance index)).calls index =
        conversation.calls index ++
          (thread.task.step ports.recording (conversation.state, [])).2.2 := by
  obtain ⟨hlt, -⟩ := List.getElem?_eq_some_iff.mp hthread
  rw [step, hthread]
  refine ⟨List.getElem?_set_self hlt, ?_⟩
  rw [calls, List.filterMap_append, filterMap_tagged, if_pos rfl]
  rfl

/-- **The log.** Every call is done for a message that has arrived. -/
theorem lt_of_mem_log (bot : Bot) (ports : Ports σ) (state : σ) (moves : List Move) :
    ∀ entry ∈ (run bot ports state moves).log, entry.1 < arrivals moves := by
  simp only [← length_threads_run bot ports state moves]
  induction moves using List.reverseRecOn with
  | nil => exact fun entry hentry => absurd hentry List.not_mem_nil
  | append_singleton moves move ih =>
      intro entry hentry
      obtain ⟨new, hlog, hnew⟩ := exists_log_step bot ports (run bot ports state moves) move
      rw [run_concat] at hentry ⊢
      rw [hlog, List.mem_append, List.mem_map] at hentry
      rcases hentry with hentry | ⟨call, hcall, rfl⟩
      · have hold := ih entry hentry
        rw [length_threads_step]
        omega
      · exact hnew.resolve_left (List.ne_nil_of_mem hcall)

/-- Nothing was called for a message that has not arrived. -/
theorem calls_eq_nil_of_le (bot : Bot) (ports : Ports σ) (state : σ) {moves : List Move}
    (h : arrivals moves ≤ index) : (run bot ports state moves).calls index = [] := by
  rw [calls, List.filterMap_eq_nil_iff]
  intro entry hentry
  have hlt := lt_of_mem_log bot ports state moves entry hentry
  rw [if_neg (Nat.ne_of_lt (lt_of_lt_of_le hlt h))]

end Conversation

end Switchboard.Chat
