import Switchboard.Chat.Sink
import Switchboard.Notification.Payload

/-!
# The webhook of notifications

A notification posted to the webhook is answered with an acknowledgement, which tells whether the
message went out. At most one message is sent, and none unless the body is decoded and names where
it goes.
-/

namespace Switchboard.Notification

/-- What became of a notification. -/
inductive Status
  | completed
  | failed
  deriving DecidableEq, Repr

/-- The word for a status. -/
def Status.word : Status → String
  | completed => "completed"
  | failed => "failed"

/-- The answer to a notification. -/
structure Acknowledgement where
  status : Status
  detail : String
  deriving DecidableEq, Repr

namespace Acknowledgement

/-- The answer to a notification that was posted. -/
def completed : Acknowledgement := ⟨.completed, "Message posted successfully"⟩

/-- The answer to a notification that was not posted. -/
def failed (fault : Fault) : Acknowledgement :=
  ⟨.failed, "An error occurred trying to post the message: " ++ fault.message⟩

/-- The fields of an answer. -/
def record : Json.Record Acknowledgement where
  name := "WebhookAck"
  types := [Status, String]
  fields :=
    ({ key := "status", codec := .words Status.word [.completed, .failed] },
      { key := "msg", codec := .text }, ())
  parts answer := (answer.status, answer.detail, ())
  make := fun (status, detail, _) => ⟨status, detail⟩

/-- Answers as JSON objects. -/
def codec : Json.Codec Acknowledgement := record.codec

end Acknowledgement

/-- The message that a body asks to post. -/
def read (contentType : Option String) (body : List UInt8) : Except Fault Chat.Outgoing := do
  (← Payload.decode contentType body).outgoing

/-- Posts the message that a body asks to post. -/
def deliver {σ : Type} (sink : Chat.Sink σ) (contentType : Option String) (body : List UInt8)
    (state : σ) : Acknowledgement × σ :=
  match read contentType body with
  | .error fault => (.failed fault, state)
  | .ok message =>
    match sink message state with
    | (.ok (), state) => (.completed, state)
    | (.error fault, state) => (.failed (.undelivered fault), state)

namespace Webhook

/-- A request to the webhook. -/
structure Request where
  method : String
  /-- The path, and a query behind a question mark. -/
  target : String
  contentType : Option String
  body : List UInt8

/-- The answer to a request. -/
structure Response where
  status : Nat
  body : String
  deriving DecidableEq, Repr

/-- The path to which notifications are posted. -/
def path : List Char := "/hubot/st2".toList

/-- How many bytes a body may have. -/
def bodyLimit : Nat := 2 * 1024 * 1024

/-- Characters that a header value may hold: spaces, tabs and visible ASCII characters. -/
def isHeaderChar (c : Char) : Bool := c = '\t' || (' ' ≤ c && c ≤ '~')

/-- A content type, unless it holds characters that are not allowed there. -/
def usable (contentType : Option String) : Option String :=
  contentType.filter fun text => text.toList.all isHeaderChar

/-- Answers a request. -/
def respond {σ : Type} (sink : Chat.Sink σ) (request : Request) (state : σ) : Response × σ :=
  if request.target.toList.takeWhile (· ≠ '?') ≠ path then (⟨404, ""⟩, state)
  else if request.method ≠ "POST" then (⟨405, ""⟩, state)
  else if bodyLimit < request.body.length then
    (⟨413, "Failed to buffer the request body: length limit exceeded"⟩, state)
  else
    let (answer, state) := deliver sink (usable request.contentType) request.body state
    (⟨200, Acknowledgement.codec.write answer⟩, state)

end Webhook

end Switchboard.Notification
