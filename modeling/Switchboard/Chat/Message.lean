import Switchboard.Text.Utf8

/-!
# Chat messages

A message comes from a user in a room, and a reply goes to a room or, privately, to a user.
-/

namespace Switchboard.Chat

/-- A message posted by a user in a room. -/
structure Incoming where
  user : String
  room : String
  text : String
  deriving DecidableEq, Repr

/-- Where a message goes. -/
inductive Recipient
  | room (name : String)
  /-- A single user, privately. -/
  | user (name : String)
  deriving DecidableEq, Repr

/-- The name of the room or of the user. -/
def Recipient.name : Recipient → String
  | room name => name
  | user name => name

/-- A message to be sent. -/
structure Outgoing where
  recipient : Recipient
  text : String
  deriving DecidableEq, Repr

/-- The line that shows a message on a terminal: the recipient in brackets, a user with an at sign,
then the text. -/
def Outgoing.line (message : Outgoing) : String :=
  match message.recipient with
  | .room name => "[" ++ name ++ "] " ++ message.text ++ "\n"
  | .user name => "[@" ++ name ++ "] " ++ message.text ++ "\n"

/-- Why a message was not delivered. -/
structure DeliveryFault where
  reason : String
  deriving DecidableEq, Repr

/-- The fault in words. -/
def DeliveryFault.message (fault : DeliveryFault) : String :=
  "chat delivery failed: " ++ fault.reason

end Switchboard.Chat
