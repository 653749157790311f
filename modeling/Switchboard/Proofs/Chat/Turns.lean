import Switchboard.Proofs.Chat.Conversation
import Switchboard.Proofs.Chat.Lines

/-!
# Chat over a byte stream goes turn by turn

In a conversation messages and steps of tasks come in any order. In the simplest order every
message has its turn: it arrives, its task takes its two steps, and only then the next message
arrives (`inTurn`). Chat over a byte stream is the conversation in this order, over the messages in
the lines of the stream (`Shell.messages`): the calls of executor and sink are the same, and so is
the state in which they leave the world behind.

## Main results

* `step_turn`: what a turn does to a conversation.
* `run_inTurn`: what a conversation turn by turn leads to.
* `Shell.run_in_turn`: chat over a byte stream, with the streams that are no text and the streams
  that are put together.
-/

namespace Switchboard.Chat

variable {σ : Type}

/-! ### Recorded calls -/

/-- A task that is run to its end takes two steps, and writes their calls. -/
theorem Task.run_recording (ports : Ports σ) (task : Task) (state : σ) (calls : List Call) :
    task.run ports.recording (state, calls) =
      (task.run ports state, calls ++ ((task.step ports.recording (state, [])).2.2 ++
        ((task.step ports state).1.step ports.recording
          ((task.step ports state).2, [])).2.2)) := by
  simp only [Task.run]
  rw [Task.step_recording ports task state calls]
  simp only
  rw [Task.step_recording, List.append_assoc]

/-- A task is finished after two steps. -/
theorem Task.step_step (ports : Ports σ) (task : Task) (state state' : σ) :
    ((task.step ports state).1.step ports state').1 = .finished := by
  cases task <;> rfl

/-- To handle a message fully is to handle it and to run what is left to do for it. -/
theorem Bot.handleFully_eq (bot : Bot) (ports : Ports σ) (commands : Alias.Snapshot)
    (message : Incoming) (state : σ) :
    bot.handleFully ports commands message state =
      ((bot.handle ports commands message state).1.task?.getD .finished).run ports
        (bot.handle ports commands message state).2 := by
  rw [Bot.handleFully]
  simp only
  split
  · next task h => rw [h, Option.getD_some]
  · next h =>
      rw [h]
      rfl

/-- A message is handled fully with its calls behind those that are there. -/
theorem Bot.handleFully_recording (bot : Bot) (ports : Ports σ) (commands : Alias.Snapshot)
    (message : Incoming) (state : σ) (calls : List Call) :
    bot.handleFully ports.recording commands message (state, calls) =
      (bot.handleFully ports commands message state,
        calls ++ (bot.handleFully ports.recording commands message (state, [])).2) := by
  simp only [Bot.handleFully_eq]
  rw [Bot.handle_recording bot ports commands message state calls,
    Bot.handle_recording bot ports commands message state []]
  simp only [Task.run_recording, List.nil_append, List.append_assoc]

namespace Conversation

/-! ### Turns -/

variable {bot : Bot} {ports : Ports σ} {commands : Alias.Snapshot}

/-- The task of the last message takes a step. -/
theorem step_advance_last (bot : Bot) (ports : Ports σ) (state : σ) (threads : List Thread)
    (thread : Thread) (log : List (Nat × Call)) :
    (⟨state, threads ++ [thread], log⟩ : Conversation σ).step bot ports
        (.advance threads.length) =
      ⟨(thread.task.step ports state).2,
        threads ++ [{ thread with task := (thread.task.step ports state).1 }],
        log ++ (thread.task.step ports.recording (state, [])).2.2.map (threads.length, ·)⟩ := by
  rw [step, List.getElem?_concat_length]
  simp only
  rw [List.set_append_right _ _ (Nat.le_refl _), Nat.sub_self, List.set_cons_zero,
    Task.step_recording]

/-- **A turn.** A message arrives and its task takes two steps. -/
theorem step_turn (conversation : Conversation σ) (message : Incoming) :
    let index := conversation.threads.length
    ((conversation.step bot ports (.arrive commands message)).step bot ports
        (.advance index)).step bot ports (.advance index) =
      ⟨bot.handleFully ports commands message conversation.state,
        conversation.threads ++ [⟨(bot.handle ports commands message conversation.state).1,
          .finished⟩],
        conversation.log ++
          (bot.handleFully ports.recording commands message (conversation.state, [])).2.map
            (index, ·)⟩ := by
  intro index
  rw [step, Bot.handle_recording]
  simp only
  rw [step_advance_last, step_advance_last]
  simp only [Bot.handleFully_eq, Task.step_step]
  rw [Bot.handle_recording bot ports commands message conversation.state []]
  simp only [Task.run_recording, List.nil_append, List.map_append, List.append_assoc]
  rfl

/-- The moves of a conversation in which every message has its turn. -/
def inTurn (commands : Alias.Snapshot) (messages : List Incoming) : List Move :=
  messages.zipIdx.flatMap fun (message, index) =>
    [.arrive commands message, .advance index, .advance index]

/-- A further message is handled when the others are done: it arrives, and its task takes two
steps. -/
theorem inTurn_concat (commands : Alias.Snapshot) (messages : List Incoming) (message : Incoming) :
    inTurn commands (messages ++ [message]) =
      inTurn commands messages ++ [.arrive commands message] ++ [.advance messages.length] ++
        [.advance messages.length] := by
  simp [inTurn, List.zipIdx_append]

/-- **Turn by turn.** A conversation in which every message has its turn handles one message after
the other fully. -/
theorem run_inTurn (bot : Bot) (ports : Ports σ) (commands : Alias.Snapshot)
    (messages : List Incoming) (state : σ) :
    let conversation := run bot ports state (inTurn commands messages)
    conversation.threads.length = messages.length ∧
      (∀ thread ∈ conversation.threads, thread.task = .finished) ∧
      messages.foldl (fun state message => bot.handleFully ports commands message state) state =
        conversation.state ∧
      messages.foldl (fun state message => bot.handleFully ports.recording commands message state)
          (state, []) =
        (conversation.state, conversation.log.map Prod.snd) := by
  induction messages using List.reverseRecOn with
  | nil => simp [inTurn, run]
  | append_singleton messages message ih =>
      obtain ⟨hlength, hfinished, hstate, hcalls⟩ := ih
      simp only [inTurn_concat, run_concat, ← hlength, step_turn, List.foldl_append,
        List.foldl_cons, List.foldl_nil, hstate, hcalls]
      refine ⟨by simp [hlength], ?_, trivial, ?_⟩
      · intro thread hthread
        rcases List.mem_append.mp hthread with hthread | hthread
        · exact hfinished thread hthread
        · rw [List.mem_singleton.mp hthread]
      · rw [Bot.handleFully_recording]
        simp

end Conversation

/-! ### Streams -/

namespace Shell

open Text

/-- The lines in front of the first one that is no text, as texts. -/
def texts (lines : List (List UInt8)) : List String :=
  (lines.takeWhile fun line => (Utf8.decode line).isSome).filterMap Utf8.decode

/-- The messages of a user in some lines: those that are not blank, up to the first that is no
text. -/
def messages (user : String) (lines : List (List UInt8)) : List Incoming :=
  ((texts lines).filter fun text => !isBlankText text).map (⟨user, room, ·⟩)

variable {bot : Bot} {ports : Ports σ} {commands : Alias.Snapshot} {user : String}

/-- Lines are handled as the messages in them. -/
theorem handleLines_snd (bot : Bot) (ports : Ports σ) (commands : Alias.Snapshot) (user : String)
    (lines : List (List UInt8)) (state : σ) :
    (handleLines bot ports commands user lines state).2 =
      (messages user (lines.map content)).foldl
        (fun state message => bot.handleFully ports commands message state) state := by
  induction lines generalizing state with
  | nil => rfl
  | cons line lines ih =>
      rw [handleLines, text, List.map_cons, messages, texts, List.takeWhile_cons]
      cases hdecode : Utf8.decode (content line) with
      | none => rfl
      | some text =>
          simp only [Option.isSome_some, if_true, List.filterMap_cons_some hdecode]
          rw [ih, handleLine]
          cases hblank : isBlankText text <;> simp [messages, texts, hblank]

/-- Lines are handled to the end when all of them are texts. -/
theorem handleLines_fst_eq_ok_iff {lines : List (List UInt8)} {state : σ} :
    (handleLines bot ports commands user lines state).1 = .ok () ↔
      ∀ line ∈ lines.map content, ∃ text, Utf8.encode text = line := by
  induction lines generalizing state with
  | nil => simp [handleLines]
  | cons line lines ih =>
      simp only [← Utf8.decode_eq_some_iff] at ih ⊢
      rw [handleLines, text, List.map_cons, List.forall_mem_cons]
      cases hdecode : Utf8.decode (content line) with
      | none => simp
      | some text => simp [ih]

/-- What stands behind a line that is no text does not matter. -/
theorem messages_append_cons (user : String) (front : List (List UInt8)) {line : List UInt8}
    (hline : ∀ text, Utf8.encode text ≠ line) (back : List (List UInt8)) :
    messages user (front ++ line :: back) = messages user front := by
  have hnone : Utf8.decode line = none :=
    Option.eq_none_iff_forall_ne_some.mpr fun text => mt Utf8.decode_eq_some_iff.mp (hline text)
  have hstop : (front ++ line :: back).takeWhile (fun line => (Utf8.decode line).isSome) =
      front.takeWhile fun line => (Utf8.decode line).isSome := by
    rw [List.takeWhile_append]
    split
    · next h =>
        rw [List.takeWhile_cons_of_neg (by simp [hnone]), List.append_nil]
        exact ((List.takeWhile_prefix _).eq_of_length h).symm
    · rfl
  rw [messages, texts, hstop]
  rfl

/-- Lines are handled one part after the other, unless one of the first part is no text. -/
theorem handleLines_append {front : List (List UInt8)} {state : σ}
    (h : (handleLines bot ports commands user front state).1 = .ok ()) (back : List (List UInt8)) :
    handleLines bot ports commands user (front ++ back) state =
      handleLines bot ports commands user back
        (handleLines bot ports commands user front state).2 := by
  induction front generalizing state with
  | nil => rfl
  | cons line front ih =>
      rw [List.cons_append, handleLines, handleLines]
      rw [handleLines] at h
      cases htext : text line with
      | error reason => simp [htext] at h
      | ok text =>
          rw [htext] at h
          exact ih h

/-- **Chat over a byte stream.** For every stream, and for every executor and sink:

* chat is the conversation turn by turn over the messages in the lines of the stream: it leaves the
  same state behind, it makes the same calls in the same order, and every task is finished before
  the next message arrives;
* chat fails exactly when a line is no text, and what stands behind this line does not matter;
* behind a complete stream on which it succeeds, chat goes on as over a stream of its own. -/
theorem run_in_turn (bot : Bot) (ports : Ports σ) (commands : Alias.Snapshot) (user : String)
    (bytes : List UInt8) (state : σ) :
    let conversation := Conversation.run bot ports state
      (Conversation.inTurn commands (messages user (contents bytes)))
    (run bot ports commands user bytes state).2 = conversation.state ∧
      (run bot ports.recording commands user bytes (state, [])).2 =
        (conversation.state, conversation.log.map Prod.snd) ∧
      (∀ thread ∈ conversation.threads, thread.task = .finished) ∧
      ((run bot ports commands user bytes state).1 = .ok () ↔
        ∀ line ∈ contents bytes, ∃ text, Utf8.encode text = line) ∧
      (∀ front line back, contents bytes = front ++ line :: back →
        (∀ text, Utf8.encode text ≠ line) →
          messages user (contents bytes) = messages user front) ∧
      (Complete bytes → (run bot ports commands user bytes state).1 = .ok () → ∀ back,
        run bot ports commands user (bytes ++ back) state =
          run bot ports commands user back (run bot ports commands user bytes state).2) := by
  intro conversation
  obtain ⟨-, hfinished, hstate, hcalls⟩ :=
    Conversation.run_inTurn bot ports commands (messages user (contents bytes)) state
  refine ⟨?_, ?_, hfinished, ?_, fun front line back hbytes hline => ?_,
    fun hcomplete hok back => ?_⟩
  · rw [run, handleLines_snd, map_content_lines]
    exact hstate
  · rw [run, handleLines_snd, map_content_lines]
    exact hcalls
  · rw [run, handleLines_fst_eq_ok_iff, map_content_lines]
  · rw [hbytes, messages_append_cons user front hline]
  · rw [run, lines_append hcomplete]
    exact handleLines_append hok (lines back)

/-- The stream `bot status⏎⏎` with a carriage return, and behind it a line that is no text. -/
theorem run_in_turn_status :
    let bot : Bot := ⟨"bot", "ops"⟩
    let ports : Ports Nat :=
      ⟨fun _ n => (.failure "down", n + 1), fun _ n => (.error ⟨"gone"⟩, n + 10), Alias.Acknowledgement.around⟩
    let commands : Alias.Snapshot := .build [{ name := "status", formats := ["status"] }] 1
    let front : List UInt8 :=
      [0x62, 0x6F, 0x74, 0x20, 0x73, 0x74, 0x61, 0x74, 0x75, 0x73, 0x0D, 0x0A, 0x0A]
    Complete front ∧ (run bot ports commands "ann" front 0).1 = .ok () ∧
      run bot ports commands "ann" (front ++ [0xFF, 0x0A, 0x62]) 0 =
        run bot ports commands "ann" [0xFF, 0x0A, 0x62] (run bot ports commands "ann" front 0).2 ∧
      contents [0xFF, 0x0A, 0x62] = [] ++ [0xFF] :: [[0x62]] ∧
      (∀ text, Utf8.encode text ≠ [0xFF]) ∧
      messages "ann" (contents [0xFF, 0x0A, 0x62]) = messages "ann" [] := by
  intro bot ports commands front
  have hcomplete : Complete front := by
    right
    decide
  have hok : (run bot ports commands "ann" front 0).1 = .ok () := by decide
  have hline : ∀ text, Utf8.encode text ≠ [0xFF] := by
    intro text htext
    have hnone : Utf8.decode [0xFF] = none := by decide
    exact Option.some_ne_none _ ((Utf8.decode_eq_some_iff.mpr htext).symm.trans hnone)
  have hcontents : contents [0xFF, 0x0A, 0x62] = [] ++ [0xFF] :: [[0x62]] := by decide
  obtain ⟨-, -, -, -, -, happend⟩ := run_in_turn bot ports commands "ann" front 0
  obtain ⟨-, -, -, -, hmessages, -⟩ := run_in_turn bot ports commands "ann" [0xFF, 0x0A, 0x62] 0
  exact ⟨hcomplete, hok, happend hcomplete hok _, hcontents, hline,
    hmessages _ _ _ hcontents hline⟩

end Shell

end Switchboard.Chat
