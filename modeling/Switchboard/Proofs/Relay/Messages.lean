import Switchboard.Alias.Definition
import Switchboard.Alias.Request
import Switchboard.Chat.Wire
import Switchboard.Notification.Webhook
import Switchboard.Proofs.Alias.Identifiers
import Switchboard.Proofs.Json.Records

/-!
# Messages between the parts

What the parts of the relay tell each other and the automation service goes over the wire as JSON.
Nearly all of it are records, whose codecs are faithful as soon as the codecs of their fields are.
Two are not: an identifier is a string with a form of its own, and a recipient is an object whose
members depend on each other, so that the name is taken for a string only behind the kind.

The message and the flag of a notification are any JSON values. They are read back if they are exact,
and the object around them takes one level of the nesting that the reader allows.

## Main results

* `Chat.Recipient.codec_faithful`: recipients.
* `Notification.Payload.codec_faithful`: notifications.
* `Relay.messages_roundTrip`: all messages are read back, and written again with the same text.
* `Notification.Payload.parse_write_tooDeep`: one level more is refused.
-/

namespace Switchboard

open Json Json.Reader

/-! ### Commands -/

namespace Alias

/-- **Definitions** are read back as they were written. A description is left out only if there is none,
and then it is the default. -/
theorem Definition.codec_faithful (levels : Nat) (definition : Definition) :
    codec.Faithful (levels + 2) definition := by
  have hdescription : (Codec.optional .text).Faithful (levels + 1) definition.description :=
    Codec.optional_faithful fun s _ => ⟨Value.noConfusion, Codec.text_faithful (levels + 1) s⟩
  refine Record.codec_faithful (by decide) rfl ⟨Codec.text_faithful _ _, ?_, ?_, trivial⟩
  · change if definition.description.isNone then some none = some definition.description else _
    split
    · next hnone => rw [Option.isNone_iff_eq_none.mp hnone]
    · exact hdescription
  · exact Codec.list_faithful fun s _ => Codec.text_faithful levels s

/-- **Commands** that were resolved are read back. -/
theorem Resolved.codec_faithful (levels : Nat) (resolved : Resolved) :
    codec.Faithful (levels + 1) resolved :=
  Record.codec_faithful (by decide) rfl ⟨Codec.text_faithful _ _, Codec.text_faithful _ _,
    Codec.text_faithful _ _, trivial⟩

/-- **Requests** are read back. -/
theorem Request.codec_faithful (levels : Nat) (request : Request) :
    codec.Faithful (levels + 1) request :=
  Record.codec_faithful (by decide) rfl ⟨Codec.text_faithful _ _, Codec.text_faithful _ _,
    Codec.text_faithful _ _, Codec.text_faithful _ _, Codec.text_faithful _ _,
    Codec.text_faithful _ _, trivial⟩

end Alias

/-! ### Chat messages -/

namespace Chat

/-- **Messages** from the chat are read back. -/
theorem Incoming.codec_faithful (levels : Nat) (message : Incoming) :
    codec.Faithful (levels + 1) message :=
  Record.codec_faithful (by decide) rfl ⟨Codec.text_faithful _ _, Codec.text_faithful _ _,
    Codec.text_faithful _ _, trivial⟩

namespace Recipient

/-- Different kinds of messages have different words. -/
theorem Kind.word_injective : Function.Injective Kind.word := by
  intro k k' h
  cases k <;> cases k' <;> first | rfl | exact absurd h (by decide)

/-- The kind of a message is read back from its word. -/
theorem Kind.codec_faithful (levels : Nat) (k : Kind) : Kind.codec.Faithful levels k := by
  refine Codec.words_faithful Kind.word_injective ?_
  cases k <;> simp

/-- Before the name, the kind is noted. -/
theorem takesMember_kind (levels : Nat) (k : Kind) :
    TakesMember (member levels) (IsStrictText levels) ("kind", Kind.codec.encode k) {}
      { kind := some k } := by
  intro before behind bytes rest hbefore hbehind htext hrest
  have hread := (Kind.codec_faithful levels k).reads hbehind htext hrest
  simp only [member, if_true, Option.isSome_none, Bool.false_eq_true, if_false,
    colon_gap_append hbefore, hread, bind, Except.bind]
  rfl

/-- Behind the kind, the name is a string. -/
theorem takesMember_name (levels : Nat) (k : Kind) (name : String) :
    TakesMember (member levels) (IsStrictText levels) ("name", .string name) { kind := some k }
      { kind := some k, name := some name } := by
  intro before behind bytes rest hbefore hbehind htext _
  have hkey : ¬ "name" = "kind" := by decide
  rw [IsStrictText] at htext
  simp only [member, if_neg hkey, if_true, Option.isSome_none, Option.isSome_some, Bool.or_false,
    Bool.false_eq_true, if_false, colon_gap_append hbefore, bind, Except.bind,
    stringAs_quoted _ hbehind htext]
  rfl

/-- **Recipients** are read back: the kind is written in front of the name. -/
theorem codec_faithful (levels : Nat) (recipient : Recipient) :
    codec.Faithful (levels + 1) recipient where
  fits := by
    change Fits (levels + 1) (.object [("kind", Kind.codec.encode recipient.kind),
      ("name", .string recipient.name)])
    rw [Fits]
    refine ⟨by simp, ?_⟩
    simp only [List.forall_mem_cons]
    exact ⟨(Kind.codec_faithful levels _).fits, Codec.fits_string levels _, by simp⟩
  reads := by
    intro gap bytes rest hgap hbytes _
    have htakes := TakesMembers.cons (takesMember_kind levels recipient.kind)
      (.cons (takesMember_name levels recipient.kind recipient.name) .nil)
    obtain ⟨r, hskip, hmembers⟩ := members_object hgap hbytes htakes rest
    have hbracket : byte '\x7b' ≠ byte '[' := by decide
    simp only [codec, hskip, if_neg hbracket, if_true, ofObject, hmembers, bind, Except.bind]
    cases recipient <;> rfl

end Recipient

/-- **Messages** to the chat are read back. -/
theorem Outgoing.codec_faithful (levels : Nat) (message : Outgoing) :
    codec.Faithful (levels + 2) message :=
  Record.codec_faithful (by decide) rfl ⟨Recipient.codec_faithful levels _,
    Codec.text_faithful _ _, trivial⟩

end Chat

/-! ### Notifications -/

namespace Notification

/-- The two results have different words. -/
theorem Status.word_injective : Function.Injective Status.word := by
  intro s s' h
  cases s <;> cases s' <;> first | rfl | exact absurd h (by decide)

/-- **Acknowledgements** of notifications are read back. -/
theorem Acknowledgement.codec_faithful (levels : Nat) (answer : Acknowledgement) :
    codec.Faithful (levels + 1) answer := by
  have hstatus : (Codec.words Status.word [.completed, .failed]).Faithful levels answer.status := by
    refine Codec.words_faithful Status.word_injective ?_
    cases answer.status <;> simp
  exact Record.codec_faithful (by decide) rfl ⟨hstatus, Codec.text_faithful _ _, trivial⟩

/-- **Notifications** are read back: a named user is a string, and where there is none `null` is
written. -/
theorem Payload.codec_faithful {levels : Nat} {payload : Payload}
    (hmessage : IsExact levels payload.message) (hwhisper : IsExact levels payload.whisper) :
    codec.Faithful (levels + 1) payload := by
  have hnullable (text : Option String) : (Codec.optional .text).Faithful levels text :=
    Codec.optional_faithful fun s _ => ⟨Value.noConfusion, Codec.text_faithful levels s⟩
  exact Record.codec_faithful (by decide) rfl ⟨Codec.any_faithful hmessage,
    hnullable payload.user, hnullable payload.channel, Codec.any_faithful hwhisper, trivial⟩

/-! ### The limit of the nesting -/

namespace Payload

open Text.Utf8 (encodeChars)

/-- Arrays in each other. -/
def nested : Nat → Value
  | 0 => .null
  | n + 1 => .array [nested n]

/-- A nested array begins with as many brackets. -/
theorem encodeChars_nested (n : Nat) (rest : List UInt8) :
    ∃ left, encodeChars (nested (n + 1)).chars ++ rest =
      byte '[' :: (encodeChars (nested n).chars ++ left) := by
  refine ⟨byte ']' :: rest, ?_⟩
  change encodeChars ('[' :: ((nested n).chars ++ [']'])) ++ rest = _
  rw [encodeChars_cons rfl, encodeChars_append, List.cons_append, List.append_assoc]
  rfl

/-- Arrays that are nested deeper than there are levels are refused at the first bracket that is
too much. -/
theorem value_nested_tooDeep {levels n : Nat} (h : levels < n) (rest : List UInt8) :
    ∃ left, value levels (encodeChars (nested n).chars ++ rest) = .error ⟨.tooDeep, left⟩ := by
  induction levels generalizing n rest with
  | zero =>
      obtain ⟨n, rfl⟩ := Nat.exists_eq_succ_of_ne_zero (Nat.ne_of_gt h)
      obtain ⟨left, hleft⟩ := encodeChars_nested n rest
      refine ⟨encodeChars (nested n).chars ++ left, ?_⟩
      rw [hleft]
      rfl
  | succ levels ih =>
      obtain ⟨n, rfl⟩ := Nat.exists_eq_succ_of_ne_zero (Nat.ne_of_gt (Nat.zero_lt_of_lt h))
      obtain ⟨m, rfl⟩ := Nat.exists_eq_succ_of_ne_zero
        (Nat.ne_of_gt (Nat.zero_lt_of_lt (Nat.lt_of_succ_lt_succ h)))
      obtain ⟨left, hleft⟩ := encodeChars_nested (m + 1) rest
      obtain ⟨more, hmore⟩ := encodeChars_nested m left
      obtain ⟨fault, hfault⟩ := ih (Nat.lt_of_succ_lt_succ h) left
      refine ⟨fault, ?_⟩
      have hclose : byte '[' ≠ byte ']' := by decide
      have hskip : skipSpace (encodeChars (nested (m + 1)).chars ++ left) =
          byte '[' :: (encodeChars (nested m).chars ++ more) := by
        rw [hmore]
        exact skipSpace_cons (by decide) _
      rw [hleft, value_cons (by decide), if_neg (by decide), if_neg (by decide), if_neg (by decide),
        if_neg (by decide), if_neg (by decide), if_neg (by decide), if_pos rfl]
      simp only
      rw [(items_eq hclose hskip).1, itemAndMore, ← hmore, hfault]
      rfl

/-- A notification is written with its message first. -/
theorem encodeChars_payload (payload : Payload) :
    ∃ left, encodeChars (codec.encode payload).chars =
      byte '\x7b' :: (encodeChars (Value.quote "message") ++
        byte ':' :: (encodeChars payload.message.chars ++ left)) := by
  refine ⟨encodeChars (',' :: Value.memberChars (record.fields.encode
    (record.parts payload)).tail ++ ['\x7d']), ?_⟩
  change encodeChars ('\x7b' :: (Value.quote "message" ++ ':' :: payload.message.chars ++
    ',' :: Value.memberChars _ ++ ['\x7d'])) = _
  rw [encodeChars_cons rfl]
  simp only [List.append_assoc, List.cons_append, encodeChars_append,
    encodeChars_cons (show Text.Utf8.encodeChar ':' = [byte ':'] from rfl)]
  rfl

/-- **The limit is sharp.** A message that is nested as deep as a whole text may be is one level too
much for a notification. -/
theorem parse_write_tooDeep {payload : Payload} {n : Nat} (hn : Value.maxLevels ≤ n)
    (hmessage : payload.message = nested n) :
    ∃ left, codec.parse (codec.write payload) = .error ⟨.tooDeep, left⟩ := by
  obtain ⟨tail, htail⟩ := encodeChars_payload payload
  obtain ⟨left, hleft⟩ := value_nested_tooDeep (show 126 < n from hn) tail
  obtain ⟨content, hcontent, hquote⟩ := IsQuoted.of_quote "message"
  rw [hquote, hmessage] at htail
  have hcolon := colon_gap_append isGap_nil (encodeChars (nested n).chars ++ tail)
  rw [List.nil_append] at hcolon
  have hmember : record.fields.memberOrSkip 126 "message" (Fields.noSlots record.types)
      (byte ':' :: (encodeChars (nested n).chars ++ tail)) = .error ⟨.tooDeep, left⟩ := by
    simp only [Fields.memberOrSkip, record, Fields.member, if_true, Fields.noSlots,
      Option.isSome_none, Bool.false_eq_true, if_false, hcolon, Codec.any, hleft, bind, Except.bind]
  have hbracket : byte '\x7b' ≠ byte '[' := by decide
  have hread : codec.read Value.maxLevels (encodeChars (codec.encode payload).chars) =
      .error ⟨.tooDeep, left⟩ := by
    rw [htail]
    simp only [List.append_assoc, List.cons_append, List.nil_append]
    simp only [codec, Record.codec, skipSpace_cons (show ¬ isSpace (byte '\x7b') by decide),
      if_neg hbracket, if_true, Value.maxLevels, Record.ofObject,
      (members_eq (skipSpace_cons (show ¬ isSpace (byte '"') by decide) _)).1, memberAndMore,
      string_content_append hcontent, hmember, bind, Except.bind]
  refine ⟨left, ?_⟩
  rw [Codec.parse, Codec.parseBytes, whole, Codec.write, Value.text, Text.Utf8.encode,
    String.toList_ofList, hread]
  rfl

end Payload

end Notification

/-! ### All messages -/

namespace Relay

/-- **Messages are read back.** What is written of a message is read as the same message, and written
again with the same text, whatever characters its strings hold and whatever the bits of an identifier
are. The message and the flag of a notification are values without doubles and repeated keys, and are
nested no deeper than the reader allows: 127 levels, of which the notification itself is one. -/
theorem messages_roundTrip :
    (∀ request, Alias.Request.codec.RoundTrips request) ∧
    (∀ resolved, Alias.Resolved.codec.RoundTrips resolved) ∧
    (∀ message, Chat.Incoming.codec.RoundTrips message) ∧
    (∀ recipient, Chat.Recipient.codec.RoundTrips recipient) ∧
    (∀ message, Chat.Outgoing.codec.RoundTrips message) ∧
    (∀ answer, Notification.Acknowledgement.codec.RoundTrips answer) ∧
    (∀ definition, Alias.Definition.codec.RoundTrips definition) ∧
    (∀ id, Alias.DispatchId.codec.RoundTrips id) ∧
    ∀ payload : Notification.Payload, IsExact (Value.maxLevels - 1) payload.message →
      IsExact (Value.maxLevels - 1) payload.whisper →
      Notification.Payload.codec.RoundTrips payload := by
  refine ⟨?_, ?_, ?_, ?_, ?_, ?_, ?_, ?_, ?_⟩
  · exact fun request => (request.codec_faithful 126).roundTrips
  · exact fun resolved => (resolved.codec_faithful 126).roundTrips
  · exact fun message => (message.codec_faithful 126).roundTrips
  · exact fun recipient => (recipient.codec_faithful 126).roundTrips
  · exact fun message => (message.codec_faithful 125).roundTrips
  · exact fun answer => (answer.codec_faithful 126).roundTrips
  · exact fun definition => (definition.codec_faithful 125).roundTrips
  · exact fun id => (id.codec_faithful 127).roundTrips
  · exact fun payload hmessage hwhisper =>
      (Notification.Payload.codec_faithful hmessage hwhisper).roundTrips

/-- A notification to a user alone, with a nested message: it is read back. -/
theorem messages_roundTrip_whisper :
    let message := Value.object [("id", .number (.int (-7))), ("log", .array [.null, .string "é\n"])]
    Notification.Payload.codec.RoundTrips ⟨message, some "anna", none, .bool true⟩ := by
  intro message
  have hmessage : IsExact (Value.maxLevels - 1) message := by
    change IsExact (124 + 1 + 1) (.object _)
    simp [IsExact, IsSixtyFourBit]
  have hwhisper : IsExact (Value.maxLevels - 1) (.bool true) := by
    rw [IsExact]
    trivial
  obtain ⟨-, -, -, -, -, -, -, -, hpayload⟩ := messages_roundTrip
  exact hpayload ⟨message, some "anna", none, .bool true⟩ hmessage hwhisper

end Relay

end Switchboard
