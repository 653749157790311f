import Switchboard.Chat.Message
import Switchboard.Json.Record

/-!
# Chat messages as JSON

A recipient is an object that tells its kind, a room or a user, and its name. The two members come in
either order; the name is checked as soon as the kind is known.
-/

namespace Switchboard.Chat

/-- The fields of an incoming message. -/
def Incoming.record : Json.Record Incoming where
  name := "IncomingMessage"
  types := [String, String, String]
  fields :=
    ({ key := "user", codec := .text }, { key := "room", codec := .text },
      { key := "text", codec := .text }, ())
  parts message := (message.user, message.room, message.text, ())
  make := fun (user, room, text, _) => ⟨user, room, text⟩

/-- Incoming messages as JSON objects. -/
def Incoming.codec : Json.Codec Incoming := Incoming.record.codec

namespace Recipient

open Json Json.Reader

/-- The kinds of recipients. -/
inductive Kind
  | room
  | user
  deriving DecidableEq, Repr

/-- The word for a kind. -/
def Kind.word : Kind → String
  | .room => "room"
  | .user => "user"

/-- The recipient of a kind with a name. -/
def Kind.named : Kind → String → Recipient
  | .room, name => .room name
  | .user, name => .user name

/-- The kind of a recipient. -/
def kind : Recipient → Kind
  | .room _ => .room
  | .user _ => .user

/-- Kinds as JSON strings. -/
def Kind.codec : Codec Kind := .words Kind.word [.room, .user]

/-- What is expected in place of a recipient, in words. -/
def expected : String := "adjacently tagged enum Recipient"

/-- What is known of a recipient while its members are read. -/
structure Draft where
  kind : Option Kind := none
  /-- A name that came before the kind. -/
  early : Option Value := none
  name : Option String := none

/-- The name that a value is. -/
def nameOf (value : Value) (left : List UInt8) : Except Fault String :=
  let mismatch (found : Found) : Except Fault String := refuse (.mismatch found "a string") left
  match value with
  | .string name => .ok name
  | .null => mismatch .null
  | .bool b => mismatch (.bool b)
  | .number n => mismatch (.number n)
  | .array _ => mismatch .array
  | .object _ => mismatch .object

/-- Reads the value of a member of a recipient. -/
def member (levels : Nat) (key : String) (draft : Draft) : Reader Draft := fun bytes =>
  if key = "kind" then
    if draft.kind.isSome then refuse (.duplicateField key) bytes
    else do
      let (kind, left) ← Kind.codec.read levels (← colon bytes)
      match draft.early with
      | none => return ({ draft with kind := some kind }, left)
      | some value => return ({ draft with kind := some kind, name := some (← nameOf value left) }, left)
  else if key = "name" then
    if draft.early.isSome || draft.name.isSome then refuse (.duplicateField key) bytes
    else if draft.kind.isSome then do
      let (name, left) ← stringAs "a string" (← colon bytes)
      return ({ draft with name := some name }, left)
    else do
      let (value, left) ← value levels (← colon bytes)
      return ({ draft with early := some value }, left)
  else do
    let left ← skip (← colon bytes)
    return (draft, left)

/-- Reads a recipient from behind the opening bracket of an object. -/
def ofObject (levels : Nat) : Reader Recipient := fun bytes => do
  let (draft, left) ← members (member levels) (bytes.length + 1) true {} bytes
  match draft.kind, draft.name with
  | none, _ => refuse (.missingField "kind") left
  | some _, none => refuse (.missingField "name") left
  | some kind, some name => return (kind.named name, left)

/-- The kind and the name of a recipient, as the items of an array. -/
def parts : Fields [Kind, String] :=
  ({ key := "kind", codec := Kind.codec }, { key := "name", codec := .text }, ())

/-- Reads a recipient from behind the opening bracket of an array. -/
def ofArray (levels : Nat) : Reader Recipient := fun bytes =>
  (Fields.ofItems expected levels parts 0 false bytes).map fun ((kind, name, _), left) =>
    (kind.named name, left)

/-- Recipients as JSON objects. -/
def codec : Codec Recipient where
  encode recipient :=
    .object [("kind", Kind.codec.encode recipient.kind), ("name", .string recipient.name)]
  read levels bytes :=
    match skipSpace bytes with
    | [] => refuse .unfinishedValue []
    | b :: r =>
      if b = byte '[' then
        match levels with
        | 0 => refuse .tooDeep r
        | inner + 1 => ofArray inner r
      else if b = byte '\x7b' then
        match levels with
        | 0 => refuse .tooDeep r
        | inner + 1 => ofObject inner r
      else refuseKind expected b r

end Recipient

/-- The fields of an outgoing message. -/
def Outgoing.record : Json.Record Outgoing where
  name := "OutgoingMessage"
  types := [Recipient, String]
  fields := ({ key := "recipient", codec := Recipient.codec }, { key := "text", codec := .text }, ())
  parts message := (message.recipient, message.text, ())
  make := fun (recipient, text, _) => ⟨recipient, text⟩

/-- Outgoing messages as JSON objects. -/
def Outgoing.codec : Json.Codec Outgoing := Outgoing.record.codec

end Switchboard.Chat
