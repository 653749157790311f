import Switchboard.Chat.Wire
import Switchboard.Notification.Form
import Switchboard.Notification.Layout
import Switchboard.Text.Blank

/-!
# Result notifications

The automation service posts a notification when an execution has a result. Its body is a JSON
object or a form, and in both the notification itself may be wrapped once more, as JSON text in a
field called `payload`.

A notification goes privately to its user only when the user is named and the flag `whisper` is the
JSON value `true`. In every other case it goes to its channel, below a line that names the user if
there is one.
-/

namespace Switchboard.Notification

open Json

/-- A notification. -/
structure Payload where
  message : Value
  user : Option String
  channel : Option String
  whisper : Value
  deriving Repr

/-- Why a notification was not posted. -/
inductive Fault
  /-- The body is not a usable notification. -/
  | malformedBody (reason : String)
  /-- The field `payload` is not JSON. -/
  | malformedPayload (reason : String)
  | missingRecipient
  | undelivered (fault : Chat.DeliveryFault)
  deriving DecidableEq, Repr

/-- The fault in words. -/
def Fault.message : Fault → String
  | malformedBody reason => "malformed notification body: " ++ reason
  | malformedPayload reason => "malformed payload field: " ++ reason
  | missingRecipient => "notification names no channel to post to"
  | undelivered fault => fault.message

namespace Payload

/-- The fields of a notification. -/
def record : Record Payload where
  name := "NotificationPayload"
  types := [Value, Option String, Option String, Value]
  fields :=
    ({ key := "message", codec := .any, absent := some .null },
      { key := "user", codec := .optional .text, absent := some none },
      { key := "channel", codec := .optional .text, absent := some none },
      { key := "whisper", codec := .any, absent := some .null }, ())
  parts payload := (payload.message, payload.user, payload.channel, payload.whisper, ())
  make := fun (message, user, channel, whisper, _) => ⟨message, user, channel, whisper⟩

/-- Notifications as JSON objects. -/
def codec : Codec Payload := record.codec

/-! ### Decoding -/

/-- The notification without fields. -/
def blank : Payload := ⟨.null, none, none, .null⟩

/-- A string or `null`, as a field of a notification. -/
def nullable : Value → Except Cause (Option String)
  | .null => .ok none
  | .string s => .ok (some s)
  | .bool b => .error (.mismatch (.bool b) "a string")
  | .number n => .error (.mismatch (.number n) "a string")
  | .array _ => .error (.mismatch .array "a string")
  | .object _ => .error (.mismatch .object "a string")

/-- A notification with one more member of its object. Unknown members are ignored. -/
def withMember (payload : Payload) (key : String) (value : Value) : Except Cause Payload :=
  if key = "message" then .ok { payload with message := value }
  else if key = "user" then (nullable value).map fun user => { payload with user }
  else if key = "channel" then (nullable value).map fun channel => { payload with channel }
  else if key = "whisper" then .ok { payload with whisper := value }
  else .ok payload

/-- The notification that the members of an object are. -/
def ofMembers (payload : Payload) : Members → Except Cause Payload
  | [] => .ok payload
  | (key, value) :: rest => do ofMembers (← payload.withMember key value) rest

/-- The notification that a value is. -/
def ofValue : Value → Except Fault Payload
  | .object members =>
    match ofMembers blank members with
    | .ok payload => .ok payload
    | .error cause => .error (.malformedBody cause.message)
  | _ => .error (.malformedBody "notification is not a JSON object")

/-- The content type of forms. -/
def formType : List Char := "application/x-www-form-urlencoded".toList

/-- Whether a content type, parameters aside, is that of forms. -/
def isForm : Option String → Bool
  | none => false
  | some contentType =>
    let mime := Text.Blank.trim (contentType.toList.takeWhile (· ≠ ';'))
    mime.map Char.toLower == formType

/-- The value that a body holds: an object of strings for a form, and any JSON value otherwise. -/
def envelope (contentType : Option String) (body : List UInt8) : Except Fault Value :=
  if isForm contentType then
    .ok (.object (Members.ofList ((Form.decode body).map fun (key, value) => (key, .string value))))
  else
    match Value.parseBytes body with
    | .ok value => .ok value
    | .error fault => .error (.malformedBody (fault.message body))

/-- The notification in an envelope: what its field `payload` holds as JSON text, or the envelope
itself when there is no such field, or none but `null` and the empty string. -/
def unwrap (envelope : Value) : Except Fault Value :=
  match envelope.get? "payload" with
  | none | some .null => .ok envelope
  | some (.string s) =>
    if s.isEmpty then .ok envelope
    else
      match Value.parse s with
      | .ok value => .ok value
      | .error fault => .error (.malformedPayload (fault.message (Text.Utf8.encode s)))
  | some _ => .error (.malformedPayload "expected a JSON document in a string")

/-- The notification in a body. -/
def decode (contentType : Option String) (body : List UInt8) : Except Fault Payload := do
  ofValue (← unwrap (← envelope contentType body))

/-! ### The message to post -/

/-- A text that is not empty. -/
def nonEmpty (text : Option String) : Option String := text.filter fun s => !s.isEmpty

/-- The user, if one is named. -/
def sender (payload : Payload) : Option String := nonEmpty payload.user

/-- Whether the message is meant for the user alone. -/
def isWhisper (payload : Payload) : Bool :=
  match payload.whisper with
  | .bool true => true
  | _ => false

/-- A message to the channel. -/
def toChannel (payload : Payload) (text : String) : Except Fault Chat.Outgoing :=
  match nonEmpty payload.channel with
  | some channel => .ok ⟨.room channel, text⟩
  | none => .error .missingRecipient

/-- The message to post. -/
def outgoing (payload : Payload) : Except Fault Chat.Outgoing :=
  let text := Layout.text payload.message
  match payload.sender with
  | some user =>
    if payload.isWhisper then .ok ⟨.user user, text⟩
    else payload.toChannel (user ++ " :\n" ++ text)
  | none => payload.toChannel text

end Payload

end Switchboard.Notification
