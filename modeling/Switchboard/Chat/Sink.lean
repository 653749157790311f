import Switchboard.Chat.Message

/-!
# Where messages are sent

A sink is asked to send one message at a time; it may refuse, and it may change its state. The
recording sink keeps what it was asked to send, unless it is told to refuse everything.
-/

namespace Switchboard.Chat

/-- A way to send messages, which acts on a state. -/
abbrev Sink (σ : Type) := Outgoing → σ → Except DeliveryFault Unit × σ

/-- A sink that keeps the messages it sends, in order, or refuses all of them. -/
structure Recording where
  /-- Why messages are refused, if they are. -/
  refusal : Option String := none
  sent : List Outgoing := []
  deriving DecidableEq, Repr

/-- Sends by recording. -/
def Recording.sink : Sink Recording := fun message recording =>
  match recording.refusal with
  | some reason => (.error ⟨reason⟩, recording)
  | none => (.ok (), { recording with sent := recording.sent ++ [message] })

end Switchboard.Chat
