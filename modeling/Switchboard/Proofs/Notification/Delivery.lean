import Switchboard.Notification.Webhook
import Switchboard.Proofs.Json.Writing

/-!
# Delivery of notifications

A notification that is posted to the webhook is answered in any case, and the answer tells what
became of it: the body is no notification, the notification names no recipient, the sink refused
the message, or the message went out. Only in the last two cases was the sink asked at all, and
then once. To see this, the sink is replaced by one that writes down what it is asked to send
(`Sink.logged`) and does the same otherwise.

Where a message goes is stated apart from how it is sent (`Payload.Routes`). What is whispered goes
to the user who is named, whatever channel the notification may name as well.

## Main results

* `routes_of_outgoing`: where the message of a notification goes, and what it says.
* `exists_outgoing_iff`: which notifications have a message.
* `deliver_logged`: what a sink is asked to send.
* `settled_deliver`: what becomes of a notification.
* `respond_all_or_nothing`: the answer of the webhook, and what was sent.
-/

namespace Switchboard.Chat

/-- A sink that does what the given one does, and writes down the messages that it was asked to send
with what came of them. -/
def Sink.logged {σ : Type} (sink : Sink σ) :
    Sink (σ × List (Outgoing × Except DeliveryFault Unit)) := fun message state =>
  let (result, after) := sink message state.1
  (result, after, state.2 ++ [(message, result)])

end Switchboard.Chat

namespace Switchboard.Notification

open Chat (Outgoing DeliveryFault Sink)
open Json (Value)

namespace Payload

variable {payload : Payload} {message : Outgoing} {user : String}

/-! ### Recipients -/

/-- The notification is meant for a user alone. -/
def Whispers (payload : Payload) (user : String) : Prop :=
  payload.user = some user ∧ user ≠ "" ∧ payload.whisper = .bool true

/-- The notification says where it goes. -/
def NamesRecipient (payload : Payload) : Prop :=
  (∃ user, payload.Whispers user) ∨ ∃ channel, payload.channel = some channel ∧ channel ≠ ""

/-- A message is addressed as a notification says. -/
structure Routes (payload : Payload) (message : Outgoing) : Prop where
  /-- It goes privately to the user for whom the notification is meant alone, and then -/
  to_user_iff : ∀ user, message.recipient = .user user ↔ payload.Whispers user
  /-- the channel of the notification has no part in it. -/
  apart_from_channel : ∀ user, message.recipient = .user user →
    message.text = Layout.text payload.message ∧
      ∀ channel, { payload with channel }.outgoing = .ok message
  /-- Any other message goes to the channel, below a line for the user if one is named. -/
  to_channel : (∀ user, ¬ payload.Whispers user) → ∃ channel,
    payload.channel = some channel ∧ channel ≠ "" ∧ message.recipient = .room channel ∧
      ((∃ user, payload.user = some user ∧ user ≠ "" ∧
          message.text = user ++ " :\n" ++ Layout.text payload.message) ∨
        (∀ user, payload.user = some user → user = "") ∧
          message.text = Layout.text payload.message)

/-- An empty text counts as none. -/
theorem nonEmpty_eq_some_iff {text : Option String} {s : String} :
    nonEmpty text = some s ↔ text = some s ∧ s ≠ "" := by
  rw [nonEmpty, Option.filter_eq_some_iff]
  simp

/-- When there is no text that counts. -/
theorem nonEmpty_eq_none_iff {text : Option String} :
    nonEmpty text = none ↔ ∀ s, text = some s → s = "" := by
  rw [nonEmpty, Option.filter_eq_none_iff]
  simp

/-- Only the value true makes a whisper. -/
theorem isWhisper_iff : payload.isWhisper = true ↔ payload.whisper = .bool true := by
  unfold isWhisper
  split
  · next h => simp [h]
  · next h => simpa using h

/-- A whisper needs somebody it is for. -/
theorem whispers_iff : payload.Whispers user ↔ payload.sender = some user ∧ payload.isWhisper := by
  rw [Whispers, sender, nonEmpty_eq_some_iff, isWhisper_iff, and_assoc]

/-- What is whispered is whispered whatever the channel. -/
theorem Whispers.apart_from_channel (h : payload.Whispers user) (channel : Option String) :
    { payload with channel }.Whispers user :=
  h

/-- A whispered notification goes to its user. -/
theorem outgoing_of_whispers (h : payload.Whispers user) :
    payload.outgoing = .ok ⟨.user user, Layout.text payload.message⟩ := by
  obtain ⟨hsender, hwhisper⟩ := whispers_iff.mp h
  simp only [outgoing, hsender, hwhisper, if_true]

/-- The line above a message that goes to a channel. -/
def heading (payload : Payload) : String := payload.sender.elim "" (· ++ " :\n")

/-- Any other notification goes to its channel. -/
theorem outgoing_of_not_whispers (h : ∀ user, ¬ payload.Whispers user) :
    payload.outgoing = payload.toChannel (payload.heading ++ Layout.text payload.message) := by
  unfold outgoing heading
  cases hsender : payload.sender with
  | none => rw [Option.elim_none, String.empty_append]
  | some user =>
      have hwhisper : ¬ payload.isWhisper :=
        fun hwhisper => h user (whispers_iff.mpr ⟨hsender, hwhisper⟩)
      simp only [Option.elim_some, if_neg hwhisper]

/-- A named user stands in the first line of the text, and otherwise nothing does. -/
theorem text_heading_cases (payload : Payload) (text : String) :
    (∃ user, payload.user = some user ∧ user ≠ "" ∧
        payload.heading ++ text = user ++ " :\n" ++ text) ∨
      (∀ user, payload.user = some user → user = "") ∧ payload.heading ++ text = text := by
  unfold heading
  cases hsender : payload.sender with
  | none => exact .inr ⟨nonEmpty_eq_none_iff.mp hsender, String.empty_append⟩
  | some user =>
      obtain ⟨huser, hne⟩ := nonEmpty_eq_some_iff.mp hsender
      exact .inl ⟨user, huser, hne, rfl⟩

/-- A text for a channel is sent to the room of this name. -/
theorem toChannel_eq_ok_iff {text : String} :
    payload.toChannel text = .ok message ↔
      ∃ channel, payload.channel = some channel ∧ channel ≠ "" ∧ message = ⟨.room channel, text⟩ := by
  unfold toChannel
  cases hchannel : nonEmpty payload.channel with
  | none =>
      have hempty := nonEmpty_eq_none_iff.mp hchannel
      constructor
      · intro h
        cases h
      · rintro ⟨channel, hsome, hne, -⟩
        exact absurd (hempty channel hsome) hne
  | some channel =>
      obtain ⟨hsome, hne⟩ := nonEmpty_eq_some_iff.mp hchannel
      constructor
      · intro h
        exact ⟨channel, hsome, hne, (Except.ok.inj h).symm⟩
      · rintro ⟨channel', hsome', -, rfl⟩
        rw [Option.some.inj (hsome.symm.trans hsome')]

/-- **Where a message goes** is what its notification says. -/
theorem routes_of_outgoing (h : payload.outgoing = .ok message) : payload.Routes message := by
  by_cases hwhispers : ∃ user, payload.Whispers user
  · obtain ⟨user, hwhispers⟩ := hwhispers
    obtain rfl := Except.ok.inj ((outgoing_of_whispers hwhispers).symm.trans h)
    exact
      { to_user_iff := fun other =>
          ⟨fun h => Chat.Recipient.user.inj h ▸ hwhispers,
            fun h => congrArg _ (Option.some.inj (hwhispers.1.symm.trans h.1))⟩
        apart_from_channel := fun other _ =>
          ⟨rfl, fun channel => outgoing_of_whispers (hwhispers.apart_from_channel channel)⟩
        to_channel := fun hnone => absurd hwhispers (hnone user) }
  · have hnone := not_exists.mp hwhispers
    rw [outgoing_of_not_whispers hnone, toChannel_eq_ok_iff] at h
    obtain ⟨channel, hchannel, hne, rfl⟩ := h
    exact
      { to_user_iff := fun other =>
          ⟨fun h => Chat.Recipient.noConfusion h, fun h => absurd h (hnone other)⟩
        apart_from_channel := fun other h => Chat.Recipient.noConfusion h
        to_channel := fun _ => ⟨channel, hchannel, hne, rfl, text_heading_cases payload _⟩ }

/-- A notification has a message when it says where it goes. -/
theorem exists_outgoing_iff : (∃ message, payload.outgoing = .ok message) ↔ payload.NamesRecipient := by
  by_cases hwhispers : ∃ user, payload.Whispers user
  · obtain ⟨user, hwhispers⟩ := hwhispers
    exact ⟨fun _ => .inl ⟨user, hwhispers⟩, fun _ => ⟨_, outgoing_of_whispers hwhispers⟩⟩
  · rw [outgoing_of_not_whispers (not_exists.mp hwhispers)]
    simp only [toChannel_eq_ok_iff, NamesRecipient, hwhispers, false_or]
    constructor
    · rintro ⟨message, channel, hchannel, hne, -⟩
      exact ⟨channel, hchannel, hne⟩
    · rintro ⟨channel, hchannel, hne⟩
      exact ⟨_, channel, hchannel, hne, rfl⟩

/-- A payload can lack nothing but its recipient. -/
theorem eq_missingRecipient_of_outgoing {fault : Fault} (h : payload.outgoing = .error fault) :
    fault = .missingRecipient := by
  by_cases hwhispers : ∃ user, payload.Whispers user
  · obtain ⟨user, hwhispers⟩ := hwhispers
    rw [outgoing_of_whispers hwhispers] at h
    cases h
  · rw [outgoing_of_not_whispers (not_exists.mp hwhispers), toChannel] at h
    split at h
    · cases h
    · exact (Except.error.inj h).symm

end Payload

/-! ### The answer -/

variable {σ : Type} {sink : Sink σ} {contentType : Option String} {body : List UInt8} {state : σ}

/-- Nothing is sent when there is no message. -/
theorem deliver_of_error {fault : Fault} (h : read contentType body = .error fault) :
    deliver sink contentType body state = (.failed fault, state) := by
  rw [deliver, h]

/-- The answer when a sink was asked to send a message. -/
def Acknowledgement.ofSent : Except DeliveryFault Unit → Acknowledgement
  | .ok () => .completed
  | .error fault => .failed (.undelivered fault)

/-- A message that was read is sent, and the answer tells what the sink said. -/
theorem deliver_of_ok {message : Outgoing} (h : read contentType body = .ok message) :
    deliver sink contentType body state =
      (.ofSent (sink message state).1, (sink message state).2) := by
  rw [deliver, h]
  simp only
  cases hsent : sink message state with
  | mk result after => cases result <;> rfl

/-- The message that is sent, if there is one, with what comes of it. -/
def attempts (sink : Sink σ) (message : Except Fault Outgoing) (state : σ) :
    List (Outgoing × Except DeliveryFault Unit) :=
  message.toOption.toList.map fun message => (message, (sink message state).1)

/-- **What a sink is asked to send** is the message that was read, if there is one. -/
theorem deliver_logged (sink : Sink σ) (contentType : Option String) (body : List UInt8)
    (state : σ) :
    deliver sink.logged contentType body (state, []) =
      ((deliver sink contentType body state).1, (deliver sink contentType body state).2,
        attempts sink (read contentType body) state) := by
  cases h : read contentType body with
  | error fault =>
      rw [deliver_of_error h, deliver_of_error h]
      rfl
  | ok message =>
      rw [deliver_of_ok h, deliver_of_ok h]
      rfl

/-- What becomes of a notification, by the payload that was decoded: the answer to it, the state it
leaves behind, and what the sink was asked to send. -/
structure Settled (sink : Sink σ) (state : σ) (decoded : Except Fault Payload)
    (answer : Acknowledgement) (after : σ) (sent : List (Outgoing × Except DeliveryFault Unit)) :
    Prop where
  length_sent_le : sent.length ≤ 1
  /-- The notification is completed when there is a payload which says where it goes, and the sink
  takes the message. -/
  completed_iff : answer.status = .completed ↔ ∃ payload message, decoded = .ok payload ∧
    payload.NamesRecipient ∧ payload.outgoing = .ok message ∧ (sink message state).1 = .ok ()
  /-- Nothing is sent when there is no payload, -/
  of_fault : ∀ fault, decoded = .error fault → sent = [] ∧ after = state ∧
    answer = ⟨.failed, "An error occurred trying to post the message: " ++ fault.message⟩
  /-- or when the payload says not where it goes. -/
  of_unaddressed : ∀ payload, decoded = .ok payload → ¬ payload.NamesRecipient →
    sent = [] ∧ after = state ∧
      answer = ⟨.failed, "An error occurred trying to post the message: " ++
        Fault.missingRecipient.message⟩
  /-- Otherwise its message is sent, and the answer tells the fault of a sink that refuses it. -/
  of_addressed : ∀ payload, decoded = .ok payload → payload.NamesRecipient → ∃ message,
    payload.outgoing = .ok message ∧ payload.Routes message ∧
      sent = [(message, (sink message state).1)] ∧ after = (sink message state).2 ∧
      ∀ fault, (sink message state).1 = .error fault →
        answer = ⟨.failed, "An error occurred trying to post the message: " ++ fault.message⟩

variable {payload : Payload}

/-- A body that is refused is settled without a message. -/
theorem settled_fault (sink : Sink σ) (state : σ) (fault : Fault) :
    Settled sink state (.error fault) (.failed fault) state [] where
  length_sent_le := Nat.zero_le 1
  completed_iff := by simp [Acknowledgement.failed]
  of_fault := by
    rintro _ ⟨⟩
    exact ⟨rfl, rfl, rfl⟩
  of_unaddressed := by
    rintro payload ⟨⟩
  of_addressed := by
    rintro payload ⟨⟩

/-- A payload without a recipient is settled without a message. -/
theorem settled_unaddressed (sink : Sink σ) (state : σ) (h : ¬ payload.NamesRecipient) :
    Settled sink state (.ok payload) (.failed .missingRecipient) state [] where
  length_sent_le := Nat.zero_le 1
  completed_iff := by simp [Acknowledgement.failed, h]
  of_fault := by
    rintro fault ⟨⟩
  of_unaddressed := by
    rintro _ ⟨⟩ -
    exact ⟨rfl, rfl, rfl⟩
  of_addressed := by
    rintro _ ⟨⟩ hnames
    exact absurd hnames h

/-- A message is settled by sending it once. -/
theorem settled_message (sink : Sink σ) (state : σ) {message : Outgoing}
    (h : payload.outgoing = .ok message) :
    Settled sink state (.ok payload) (.ofSent (sink message state).1) (sink message state).2
      [(message, (sink message state).1)] where
  length_sent_le := Nat.le_refl 1
  completed_iff := by
    have hnames := Payload.exists_outgoing_iff.mp ⟨message, h⟩
    cases hsent : (sink message state).1 with
    | error fault => simp [Acknowledgement.ofSent, Acknowledgement.failed, h, hsent]
    | ok _ => simp [Acknowledgement.ofSent, Acknowledgement.completed, h, hsent, hnames]
  of_fault := by
    rintro fault ⟨⟩
  of_unaddressed := by
    rintro _ ⟨⟩ hnone
    exact absurd (Payload.exists_outgoing_iff.mp ⟨message, h⟩) hnone
  of_addressed := by
    rintro _ ⟨⟩ -
    refine ⟨message, h, Payload.routes_of_outgoing h, rfl, rfl, fun fault hsent => ?_⟩
    rw [hsent]
    rfl

/-- **What becomes of a notification** when it is delivered. A payload that has no message lacks a
recipient: there is no other fault left. -/
theorem settled_deliver (sink : Sink σ) (contentType : Option String) (body : List UInt8)
    (state : σ) :
    Settled sink state (Payload.decode contentType body) (deliver sink contentType body state).1
      (deliver sink contentType body state).2 (attempts sink (read contentType body) state) := by
  cases hdecoded : Payload.decode contentType body with
  | error fault =>
      have hread : read contentType body = .error fault := by
        rw [read, hdecoded]
        rfl
      rw [deliver_of_error hread, hread]
      exact settled_fault sink state fault
  | ok payload =>
      have hread : read contentType body = payload.outgoing := by
        rw [read, hdecoded]
        rfl
      cases houtgoing : payload.outgoing with
      | error fault =>
          obtain rfl := Payload.eq_missingRecipient_of_outgoing houtgoing
          rw [houtgoing] at hread
          rw [deliver_of_error hread, hread]
          refine settled_unaddressed sink state fun hnames => ?_
          obtain ⟨message, hmessage⟩ := Payload.exists_outgoing_iff.mpr hnames
          rw [houtgoing] at hmessage
          cases hmessage
      | ok message =>
          rw [houtgoing] at hread
          rw [deliver_of_ok hread, hread]
          exact settled_message sink state houtgoing

/-- The JSON text of an answer holds the word for the status and the details. -/
theorem Acknowledgement.parse_write (answer : Acknowledgement) :
    Value.parse (codec.write answer) =
      .ok (.object [("status", .string answer.status.word), ("msg", .string answer.detail)]) := by
  have hfits : Json.Fits Value.maxLevels (codec.encode answer) := by
    change Json.Fits (126 + 1)
      (.object [("status", .string answer.status.word), ("msg", .string answer.detail)])
    simp [Json.Fits]
  exact Value.parse_text hfits

namespace Webhook

/-- A notification is posted to the webhook, with a body that is not too long. -/
structure Request.IsPost (request : Request) : Prop where
  path : request.target.toList.takeWhile (· ≠ '?') = path
  method : request.method = "POST"
  limit : request.body.length ≤ bodyLimit

/-- **The answer to a notification**: always the same status, and what became of it. -/
theorem respond_of_isPost {request : Request} (h : request.IsPost) (sink : Sink σ) (state : σ) :
    respond sink request state =
      (⟨200, Acknowledgement.codec.write
          (deliver sink (usable request.contentType) request.body state).1⟩,
        (deliver sink (usable request.contentType) request.body state).2) := by
  rw [respond, if_neg (not_not.mpr h.path), if_neg (not_not.mpr h.method),
    if_neg (Nat.not_lt.mpr h.limit)]

/-- **All or nothing.** For every notification that is posted, and for every sink, the answer has
status 200 and an acknowledgement as its body, and the acknowledgement tells what became of the
notification (`Settled`): a message was sent to where the notification says, or nothing was sent. -/
theorem respond_all_or_nothing {request : Request} (h : request.IsPost) (sink : Sink σ)
    (state : σ) :
    ∃ answer after sent,
      respond sink request state = (⟨200, Acknowledgement.codec.write answer⟩, after) ∧
      respond sink.logged request (state, []) =
        (⟨200, Acknowledgement.codec.write answer⟩, after, sent) ∧
      Value.parse (Acknowledgement.codec.write answer) =
        .ok (.object [("status", .string answer.status.word), ("msg", .string answer.detail)]) ∧
      Settled sink state (Payload.decode (usable request.contentType) request.body) answer after
        sent := by
  have hlogged := respond_of_isPost h sink.logged (state, [])
  rw [deliver_logged] at hlogged
  exact ⟨_, _, _, respond_of_isPost h sink state, hlogged, Acknowledgement.parse_write _,
    settled_deliver sink _ _ state⟩

/-- A whispered greeting which the sink refuses. The channel `ops` does not get it. -/
theorem respond_all_or_nothing_whisper :
    let greeting : Value := .object [("message", .string "hi"), ("user", .string "ann"),
      ("channel", .string "ops"), ("whisper", .bool true)]
    let request : Request := ⟨"POST", "/hubot/st2", none, Text.Utf8.encode greeting.text⟩
    let sink : Sink Nat := fun _ count => (.error ⟨"gone"⟩, count + 1)
    request.IsPost ∧ ∃ response after, respond sink.logged request (0, []) =
      (response, after, [(⟨.user "ann", "hi"⟩, .error ⟨"gone"⟩)]) := by
  intro greeting request sink
  have hpost : request.IsPost := ⟨by decide, rfl, by decide⟩
  refine ⟨hpost, ?_⟩
  have hfits : Json.Fits Value.maxLevels greeting := by
    change Json.Fits (126 + 1) _
    simp [greeting, Json.Fits]
  have hdecoded : Payload.decode (usable request.contentType) request.body =
      .ok ⟨.string "hi", some "ann", some "ops", .bool true⟩ := by
    have hparse : Value.parseBytes request.body = .ok greeting := Value.parse_text hfits
    have hform : ¬ Payload.isForm (usable request.contentType) := by decide
    rw [Payload.decode, Payload.envelope, if_neg hform, hparse]
    rfl
  obtain ⟨answer, after, sent, -, hlogged, -, hsettled⟩ := respond_all_or_nothing hpost sink 0
  obtain ⟨message, hmessage, -, rfl, -⟩ :=
    hsettled.of_addressed _ hdecoded (.inl ⟨"ann", rfl, by decide, rfl⟩)
  obtain rfl : ⟨.user "ann", "hi"⟩ = message := Except.ok.inj hmessage
  exact ⟨_, _, hlogged⟩

end Webhook

end Switchboard.Notification
