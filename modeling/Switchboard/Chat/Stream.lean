import Switchboard.Chat.Message

/-!
# Messages written to a stream

A stream takes the lines of messages as bytes. It may have a limit on the bytes that it takes in
all: a write beyond the limit fills the room that is left and then fails. Its flush after each
message may fail as well.
-/

namespace Switchboard.Chat

/-- A stream of bytes with an optional limit. -/
structure Stream where
  /-- How many bytes the stream takes in all. -/
  limit : Option Nat
  /-- Whether flushing fails. -/
  flushFails : Bool
  /-- The bytes taken so far. -/
  written : List UInt8
  deriving Repr

namespace Stream

/-- How many of `n` further bytes the stream takes. -/
def taken (stream : Stream) (n : Nat) : Nat :=
  match stream.limit with
  | none => n
  | some limit => min n (limit - stream.written.length)

/-- Writes the line of a message and flushes. -/
def send (stream : Stream) (message : Outgoing) : Except DeliveryFault Unit × Stream :=
  let bytes := Text.Utf8.encode message.line
  let count := stream.taken bytes.length
  let after := { stream with written := stream.written ++ bytes.take count }
  if count < bytes.length then (.error ⟨"writer full"⟩, after)
  else if stream.flushFails then (.error ⟨"flush refused"⟩, after)
  else (.ok (), after)

/-- Sends messages in order and collects the results. -/
def sendAll (stream : Stream) : List Outgoing → List (Except DeliveryFault Unit) × Stream
  | [] => ([], stream)
  | message :: rest =>
    let (result, after) := stream.send message
    let (results, last) := after.sendAll rest
    (result :: results, last)

end Stream

end Switchboard.Chat
