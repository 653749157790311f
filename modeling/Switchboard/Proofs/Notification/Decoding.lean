import Switchboard.Proofs.Json.Acceptance
import Switchboard.Proofs.Json.Members
import Switchboard.Proofs.Notification.Envelopes

/-!
# Which bodies are notifications

A body is decoded in three steps: to an envelope, from the envelope to a notification, and from the
notification to its fields. Each step is described here without the readers: what is JSON by the
grammar of its texts, what the form content type is by its spelling, and the fields by the members
of an object. A step that fails says how, and no body fails in more than one way; so a body is
refused for its field `payload`, refused as a whole, or decoded.

## Main results

* `isForm_iff`: the content types of forms.
* `unwrap_of_selects`, `unwrap_of_hasUnusablePayload`: which notification an envelope holds.
* `ofMembers_eq_ok_iff`: the fields of an object.
* `decode_cases`: which bodies are refused, how, and what the others are decoded as.
-/

namespace Switchboard.Notification.Payload

open Json
open Text.Utf8 (encode)

/-! ### Envelopes -/

/-- A content type is given, and it is that of forms. -/
def IsForms (contentType : Option String) : Prop :=
  ∃ type, contentType = some type ∧ IsFormType type

/-- **Forms** are told by their content type: by nothing else than its name in any case, with white
space around it and parameters behind. -/
theorem isForm_iff {contentType : Option String} : isForm contentType ↔ IsForms contentType := by
  refine ⟨fun h => ?_, fun ⟨type, htype, hform⟩ => htype ▸ isForm_of_isFormType hform⟩
  cases contentType with
  | none => exact absurd h (by simp [isForm])
  | some type =>
      obtain ⟨before, behind, hmime, hbefore, hbehind⟩ :=
        Text.Blank.exists_eq_append_trim (type.toList.takeWhile (· ≠ ';'))
      refine ⟨type, rfl, before, _, behind, type.toList.dropWhile (· ≠ ';'), ?_, hbefore,
        eq_of_beq h, hbehind, fun c hc => ?_⟩
      · rw [← hmime, List.takeWhile_append_dropWhile]
      · have hhead := List.head?_dropWhile_not (fun c => decide (c ≠ ';')) type.toList
        rw [Option.mem_def.mp hc] at hhead
        simpa using hhead

/-- Whether bytes are a text of some value. -/
def IsJson (bytes : List UInt8) : Prop := ∃ value, IsDocument Value.maxLevels value bytes

/-- The object of the fields of a form. The last value of a repeated name counts. -/
def formFields (body : List UInt8) : Value :=
  .object (Members.ofList ((Form.decode body).map fun (key, value) => (key, .string value)))

/-- The value that a body holds: the fields of a form, or what the body is a text of. -/
def IsEnvelope (contentType : Option String) (body : List UInt8) (envelope : Value) : Prop :=
  (IsForms contentType ∧ envelope = formFields body) ∨
    (¬ IsForms contentType ∧ IsDocument Value.maxLevels envelope body)

/-- Parsing fails for what is not JSON. -/
theorem exists_parseBytes_error_iff {bytes : List UInt8} :
    (∃ fault, Value.parseBytes bytes = .error fault) ↔ ¬ IsJson bytes := by
  have hok (value : Value) :
      IsDocument Value.maxLevels value bytes ↔ Value.parseBytes bytes = .ok value :=
    ⟨Value.parseBytes_of_isDocument, Value.isDocument_of_parseBytes⟩
  simp only [IsJson, hok]
  cases Value.parseBytes bytes <;> simp

variable {contentType : Option String} {body : List UInt8}

/-- A body is read as the value that its content type makes of it. -/
theorem envelope_of_isEnvelope {value : Value} (h : IsEnvelope contentType body value) :
    envelope contentType body = .ok value := by
  rw [IsEnvelope, ← isForm_iff] at h
  rcases h with ⟨hform, rfl⟩ | ⟨hform, hdocument⟩
  · exact if_pos hform
  · rw [envelope, if_neg hform, Value.parseBytes_of_isDocument hdocument]

/-- A body without an envelope is malformed. -/
theorem envelope_of_not_isJson (hform : ¬ IsForms contentType) (hjson : ¬ IsJson body) :
    ∃ reason, envelope contentType body = .error (.malformedBody reason) := by
  rw [← isForm_iff] at hform
  obtain ⟨fault, hfault⟩ := exists_parseBytes_error_iff.mpr hjson
  rw [envelope, if_neg hform, hfault]
  exact ⟨_, rfl⟩

/-- A body has an envelope, unless it is neither a form nor JSON. -/
theorem exists_isEnvelope_or (contentType : Option String) (body : List UInt8) :
    (∃ value, IsEnvelope contentType body value) ∨ (¬ IsForms contentType ∧ ¬ IsJson body) := by
  by_cases hform : IsForms contentType
  · exact .inl ⟨_, .inl ⟨hform, rfl⟩⟩
  · by_cases hjson : IsJson body
    · obtain ⟨value, hvalue⟩ := hjson
      exact .inl ⟨value, .inr ⟨hform, hvalue⟩⟩
    · exact .inr ⟨hform, hjson⟩

/-! ### Notifications in envelopes -/

/-- The field `payload` of an envelope holds a text. -/
def Wraps (envelope : Value) (text : String) : Prop :=
  ∃ members, envelope = .object members ∧
    Members.get? members "payload" = some (.string text) ∧ text ≠ ""

/-- The field `payload` of an envelope is there, but it is neither `null` nor a string. -/
def HasStrangePayload (envelope : Value) : Prop :=
  ∃ members field, envelope = .object members ∧ Members.get? members "payload" = some field ∧
    field ≠ .null ∧ ∀ text, field ≠ .string text

/-- The notification in an envelope: the envelope itself if it is no wrapper, and otherwise the
value that the wrapped text is a text of. It is unwrapped once and not again. -/
def Selects (envelope notification : Value) : Prop :=
  (IsBare envelope ∧ notification = envelope) ∨
    ∃ text, Wraps envelope text ∧ IsDocument Value.maxLevels notification (encode text)

/-- The field `payload` is neither `null` nor a string, or it wraps a text that is not JSON. -/
def HasUnusablePayload (envelope : Value) : Prop :=
  HasStrangePayload envelope ∨ ∃ text, Wraps envelope text ∧ ¬ IsJson (encode text)

/-- An envelope has no payload, a text for one, or something else. -/
theorem isBare_or_wraps_or_strange (envelope : Value) :
    IsBare envelope ∨ (∃ text, Wraps envelope text) ∨ HasStrangePayload envelope := by
  have other (h : ∀ members, envelope ≠ .object members) : IsBare envelope :=
    fun members hmembers => absurd hmembers (h members)
  cases envelope with
  | object members =>
      have bare (h : Members.get? members "payload" = none ∨
          Members.get? members "payload" = some .null ∨
          Members.get? members "payload" = some (.string "")) : IsBare (.object members) := by
        rintro _ ⟨⟩
        exact h
      cases hget : Members.get? members "payload" with
      | none => exact .inl (bare (.inl hget))
      | some field =>
          have strange (hnull : field ≠ .null) (hstring : ∀ text, field ≠ .string text) :
              HasStrangePayload (.object members) := ⟨members, field, rfl, hget, hnull, hstring⟩
          cases field with
          | null => exact .inl (bare (.inr (.inl hget)))
          | string text =>
              by_cases hempty : text = ""
              · exact .inl (bare (.inr (.inr (hempty ▸ hget))))
              · exact .inr (.inl ⟨text, members, rfl, hget, hempty⟩)
          | _ => exact .inr (.inr (strange (by simp) (by simp)))
  | _ => exact .inl (other (by simp))

/-- The text of a payload is read as a document. -/
theorem unwrap_of_wraps {envelope : Value} {text : String} (h : Wraps envelope text) :
    unwrap envelope =
      (Value.parseBytes (encode text)).mapError fun fault =>
        .malformedPayload (fault.message (encode text)) := by
  obtain ⟨members, rfl, hget, hne⟩ := h
  have hempty : text.isEmpty = false := by simpa using hne
  have hparse : Value.parse text = Value.parseBytes (encode text) := rfl
  rw [unwrap, Value.get?, hget]
  simp only [hempty, Bool.false_eq_true, if_false, hparse]
  cases Value.parseBytes (encode text) <;> rfl

/-- A payload that is no text is refused. -/
theorem unwrap_of_hasStrangePayload {envelope : Value} (h : HasStrangePayload envelope) :
    ∃ reason, unwrap envelope = .error (.malformedPayload reason) := by
  obtain ⟨members, field, rfl, hget, hnull, hstring⟩ := h
  rw [unwrap, Value.get?, hget]
  cases field with
  | null => exact absurd rfl hnull
  | string text => exact absurd rfl (hstring text)
  | _ => exact ⟨_, rfl⟩

/-- **Unwrapping** gives the notification in the envelope. -/
theorem unwrap_of_selects {envelope notification : Value} (h : Selects envelope notification) :
    unwrap envelope = .ok notification := by
  rcases h with ⟨hbare, rfl⟩ | ⟨text, hwraps, hdocument⟩
  · exact unwrap_of_isBare hbare
  · rw [unwrap_of_wraps hwraps, Value.parseBytes_of_isDocument hdocument]
    rfl

/-- **Unwrapping fails** for a field `payload` that is unusable. -/
theorem unwrap_of_hasUnusablePayload {envelope : Value} (h : HasUnusablePayload envelope) :
    ∃ reason, unwrap envelope = .error (.malformedPayload reason) := by
  rcases h with hstrange | ⟨text, hwraps, hjson⟩
  · exact unwrap_of_hasStrangePayload hstrange
  · obtain ⟨fault, hfault⟩ := exists_parseBytes_error_iff.mpr hjson
    rw [unwrap_of_wraps hwraps, hfault]
    exact ⟨_, rfl⟩

/-- An envelope holds a notification, unless its field `payload` is unusable. -/
theorem exists_selects_or (envelope : Value) :
    (∃ notification, Selects envelope notification) ∨ HasUnusablePayload envelope := by
  rcases isBare_or_wraps_or_strange envelope with hbare | ⟨text, hwraps⟩ | hstrange
  · exact .inl ⟨envelope, .inl ⟨hbare, rfl⟩⟩
  · by_cases hjson : IsJson (encode text)
    · obtain ⟨notification, hdocument⟩ := hjson
      exact .inl ⟨notification, .inr ⟨text, hwraps, hdocument⟩⟩
    · exact .inr (.inr ⟨text, hwraps, hjson⟩)
  · exact .inr (.inl hstrange)

/-! ### Fields of a notification -/

/-- A member that names somebody or nobody: a string or `null`, where it is not missing. -/
def IsNaming (members : Members) (key : String) : Prop :=
  ∀ value, Members.get? members key = some value → value = .null ∨ ∃ name, value = .string name

/-- The string under a key, if there is one. -/
def nameUnder (members : Members) (key : String) : Option String :=
  (Members.get? members key).bind Value.string?

/-- A name may be null or a string. -/
theorem map_nullable_eq_ok_iff {α : Type} {value : Value} {f : Option String → α} {x : α} :
    (nullable value).map f = .ok x ↔
      (value = .null ∨ ∃ name, value = .string name) ∧ x = f value.string? := by
  cases value <;> simp [nullable, Except.map, Value.string?, eq_comm]

/-- A notification after the members of an object. -/
def settled (start : Payload) (members : Members) : Payload where
  message := (Members.get? members "message").getD start.message
  user := ((Members.get? members "user").map Value.string?).getD start.user
  channel := ((Members.get? members "channel").map Value.string?).getD start.channel
  whisper := (Members.get? members "whisper").getD start.whisper

/-- Whether a key names somebody, member by member. -/
theorem isNaming_cons {key : String} {value : Value} {rest : Members}
    (h : key ∉ rest.map Prod.fst) (k : String) :
    IsNaming ((key, value) :: rest) k ↔
      (k = key → value = .null ∨ ∃ name, value = .string name) ∧ IsNaming rest k := by
  simp only [IsNaming, Members.get?_cons]
  by_cases hk : k = key
  · subst hk
    simp [Members.get?_eq_none_iff.mpr h]
  · simp [hk]

/-- A notification after one more member, if the member is of the right kind. -/
theorem withMember_eq_ok_iff {start next : Payload} {key : String} {value : Value} :
    start.withMember key value = .ok next ↔
      (key = "user" ∨ key = "channel" → value = .null ∨ ∃ name, value = .string name) ∧
        next = settled start [(key, value)] := by
  unfold withMember
  by_cases hmessage : key = "message"
  · subst hmessage
    simp [settled, Members.get?_cons, Members.get?_nil, eq_comm]
  by_cases huser : key = "user"
  · subst huser
    simp [settled, Members.get?_cons, Members.get?_nil, map_nullable_eq_ok_iff]
  by_cases hchannel : key = "channel"
  · subst hchannel
    simp [settled, Members.get?_cons, Members.get?_nil, map_nullable_eq_ok_iff]
  by_cases hwhisper : key = "whisper"
  · subst hwhisper
    simp [settled, Members.get?_cons, Members.get?_nil, eq_comm]
  · simp only [hmessage, huser, hchannel, hwhisper, if_false, settled, Members.get?_cons,
      Members.get?_nil, Ne.symm hmessage, Ne.symm huser, Ne.symm hchannel, Ne.symm hwhisper,
      Option.map_none, Option.getD_none, or_self, false_imp_iff, true_and, Except.ok.injEq]
    exact eq_comm

/-- Members with different keys are read one after another. -/
theorem settled_cons (start : Payload) {key : String} {value : Value} {rest : Members}
    (h : key ∉ rest.map Prod.fst) :
    settled (settled start [(key, value)]) rest = settled start ((key, value) :: rest) := by
  have hkey := Members.get?_eq_none_iff.mpr h
  have hfield {α : Type} (f : Value → α) (k : String) (old : α) :
      ((Members.get? rest k).map f).getD
          (((Members.get? [(key, value)] k).map f).getD old) =
        ((Members.get? ((key, value) :: rest) k).map f).getD old := by
    rw [Members.get?_cons, Members.get?_cons]
    by_cases hk : k = key
    · rw [if_pos hk, if_pos hk, hk, hkey]
      rfl
    · rw [if_neg hk, if_neg hk]
      rfl
  have hvalue (k : String) (old : Value) := hfield id k old
  simp only [Option.map_id_fun, id] at hvalue
  simp only [settled, hfield, hvalue]

/-- **The fields** of an object with different keys. An unknown member changes nothing, and one that
names somebody must be a string or `null`. -/
theorem ofMembers_eq_ok_iff {members : Members} (h : (members.map Prod.fst).Nodup)
    {start payload : Payload} :
    ofMembers start members = .ok payload ↔
      IsNaming members "user" ∧ IsNaming members "channel" ∧ payload = settled start members := by
  induction members generalizing start with
  | nil => simp [ofMembers, IsNaming, settled, Members.get?_nil, eq_comm]
  | cons member rest ih =>
      obtain ⟨key, value⟩ := member
      obtain ⟨hkey, hrest⟩ := List.nodup_cons.mp h
      have hstep : ofMembers start ((key, value) :: rest) = .ok payload ↔
          ∃ next, start.withMember key value = .ok next ∧ ofMembers next rest = .ok payload := by
        rw [ofMembers]
        exact ⟨exists_of_bind_eq_ok, fun ⟨next, hnext, hmore⟩ => by rw [hnext]; exact hmore⟩
      rw [hstep, isNaming_cons hkey, isNaming_cons hkey, ← settled_cons start hkey]
      simp only [withMember_eq_ok_iff, ih hrest]
      grind

/-! ### Decoding -/

/-- What is read as a notification: an object whose members `user` and `channel` name somebody or
nobody. -/
def IsNotification (value : Value) : Prop :=
  ∃ members, value = .object members ∧ IsNaming members "user" ∧ IsNaming members "channel"

/-- The notification that the members of an object are. -/
def payloadOf (members : Members) : Payload where
  message := (Members.get? members "message").getD .null
  user := nameUnder members "user"
  channel := nameUnder members "channel"
  whisper := (Members.get? members "whisper").getD .null

/-- What members settle in a payload without fields. -/
theorem settled_blank (members : Members) : settled blank members = payloadOf members := by
  have hname (value : Option Value) :
      (value.map Value.string?).getD none = value.bind Value.string? := by
    cases value <;> rfl
  rw [settled, payloadOf, nameUnder, nameUnder, ← hname, ← hname]
  rfl

/-- **When an object is a payload**, and which one. -/
theorem ofValue_eq_ok_iff {members : Members} (h : (members.map Prod.fst).Nodup)
    {payload : Payload} :
    ofValue (.object members) = .ok payload ↔
      IsNaming members "user" ∧ IsNaming members "channel" ∧ payload = payloadOf members := by
  rw [← settled_blank, ← ofMembers_eq_ok_iff h, ofValue]
  cases ofMembers blank members <;> simp

/-- Objects that are read have no key twice. -/
theorem nodup_of_isDocument {levels : Nat} {members : Members} {bytes : List UInt8}
    (h : IsDocument levels (.object members) bytes) : (members.map Prod.fst).Nodup := by
  obtain ⟨before, middle, behind, -, hmiddle, -, -⟩ := h
  cases levels with
  | zero => rw [IsText] at hmiddle; exact hmiddle.elim
  | succ inner =>
      rw [IsText] at hmiddle
      obtain ⟨entries, _, -, rfl, -⟩ := hmiddle
      exact Members.nodup_ofList entries

/-- An object that is selected has no key twice. -/
theorem nodup_of_selects {envelope : Value} {members : Members}
    (henvelope : IsEnvelope contentType body envelope) (h : Selects envelope (.object members)) :
    (members.map Prod.fst).Nodup := by
  rcases h with ⟨-, rfl⟩ | ⟨text, -, hdocument⟩
  · rcases henvelope with ⟨-, hfields⟩ | ⟨-, hdocument⟩
    · rw [formFields, Value.object.injEq] at hfields
      exact hfields ▸ Members.nodup_ofList _
    · exact nodup_of_isDocument hdocument
  · exact nodup_of_isDocument hdocument

/-- The body is refused for its field `payload`. -/
def RefusesPayload (contentType : Option String) (body : List UInt8) : Prop :=
  ∃ envelope, IsEnvelope contentType body envelope ∧ HasUnusablePayload envelope

/-- The body is refused as a whole: it has no envelope, or what is in the envelope is not a
notification. -/
def RefusesBody (contentType : Option String) (body : List UInt8) : Prop :=
  (¬ IsForms contentType ∧ ¬ IsJson body) ∨
    ∃ envelope notification, IsEnvelope contentType body envelope ∧
      Selects envelope notification ∧ ¬ IsNotification notification

/-- The body holds a notification with some members. -/
def Holds (contentType : Option String) (body : List UInt8) (members : Members) : Prop :=
  ∃ envelope, IsEnvelope contentType body envelope ∧ Selects envelope (.object members) ∧
    IsNaming members "user" ∧ IsNaming members "channel"

/-- Every body is refused in one of two ways or holds a notification. -/
theorem refuses_or_holds (contentType : Option String) (body : List UInt8) :
    RefusesPayload contentType body ∨ RefusesBody contentType body ∨
      ∃ members, Holds contentType body members := by
  rcases exists_isEnvelope_or contentType body with ⟨envelope, henvelope⟩ | hnone
  · rcases exists_selects_or envelope with ⟨notification, hselects⟩ | hunusable
    · by_cases hnotification : IsNotification notification
      · obtain ⟨members, rfl, hnaming⟩ := hnotification
        exact .inr (.inr ⟨members, envelope, henvelope, hselects, hnaming⟩)
      · exact .inr (.inl (.inr ⟨envelope, notification, henvelope, hselects, hnotification⟩))
    · exact .inl ⟨envelope, henvelope, hunusable⟩
  · exact .inr (.inl (.inl hnone))

/-- Decoding a body is decoding the value that it selects. -/
theorem decode_of_selects {envelope notification : Value}
    (henvelope : IsEnvelope contentType body envelope) (h : Selects envelope notification) :
    decode contentType body = ofValue notification := by
  rw [decode, envelope_of_isEnvelope henvelope]
  simp only [bind, Except.bind, unwrap_of_selects h]

/-- A body whose payload is refused is refused for its payload. -/
theorem decode_of_refusesPayload (h : RefusesPayload contentType body) :
    ∃ reason, decode contentType body = .error (.malformedPayload reason) := by
  obtain ⟨envelope, henvelope, hunusable⟩ := h
  obtain ⟨reason, hreason⟩ := unwrap_of_hasUnusablePayload hunusable
  rw [decode, envelope_of_isEnvelope henvelope]
  simp only [bind, Except.bind, hreason]
  exact ⟨reason, rfl⟩

/-- A body that is no value is refused as a body. -/
theorem decode_of_refusesBody (h : RefusesBody contentType body) :
    ∃ reason, decode contentType body = .error (.malformedBody reason) := by
  rcases h with ⟨hform, hjson⟩ | ⟨envelope, notification, henvelope, hselects, hnot⟩
  · obtain ⟨reason, hreason⟩ := envelope_of_not_isJson hform hjson
    rw [decode, hreason]
    exact ⟨reason, rfl⟩
  · rw [decode_of_selects henvelope hselects]
    refine (ofValue_cases notification).resolve_left fun haccepted => hnot ?_
    obtain ⟨payload, hpayload⟩ := haccepted
    cases notification with
    | object members =>
        obtain ⟨huser, hchannel, -⟩ :=
          (ofValue_eq_ok_iff (nodup_of_selects henvelope hselects)).mp hpayload
        exact ⟨members, rfl, huser, hchannel⟩
    | _ => exact absurd hpayload (by simp [ofValue])

/-- A body that holds the members of a payload is decoded to it. -/
theorem decode_of_holds {members : Members} (h : Holds contentType body members) :
    decode contentType body = .ok (payloadOf members) := by
  obtain ⟨envelope, henvelope, hselects, huser, hchannel⟩ := h
  rw [decode_of_selects henvelope hselects]
  exact (ofValue_eq_ok_iff (nodup_of_selects henvelope hselects)).mpr ⟨huser, hchannel, rfl⟩

/-- No body is refused in both ways. -/
theorem RefusesPayload.not_refusesBody (h : RefusesPayload contentType body) :
    ¬ RefusesBody contentType body := by
  intro hbody
  obtain ⟨_, hpayload⟩ := decode_of_refusesPayload h
  obtain ⟨_, hother⟩ := decode_of_refusesBody hbody
  exact absurd (hpayload.symm.trans hother) (by simp)

/-- No body that holds a notification is refused. -/
theorem Holds.not_refuses {members : Members} (h : Holds contentType body members) :
    ¬ RefusesPayload contentType body ∧ ¬ RefusesBody contentType body := by
  have hdecode := decode_of_holds h
  refine ⟨fun hpayload => ?_, fun hbody => ?_⟩
  · obtain ⟨_, hother⟩ := decode_of_refusesPayload hpayload
    exact absurd (hdecode.symm.trans hother) (by simp)
  · obtain ⟨_, hother⟩ := decode_of_refusesBody hbody
    exact absurd (hdecode.symm.trans hother) (by simp)

/-- **Decoding.** For every content type and every body:

* The field `payload` is told to be malformed exactly if the envelope is an object in which it is
  neither missing nor `null` nor a string, or a string that is not empty and not JSON.
* The body is told to be malformed exactly if it is neither a form nor JSON, or the notification in
  it is not an object, or has a member `user` or `channel` that is neither `null` nor a string.
* It is decoded exactly in the cases that are left, and then to the fields of the notification. -/
theorem decode_cases (contentType : Option String) (body : List UInt8) :
    ((∃ reason, decode contentType body = .error (.malformedPayload reason)) ↔
        RefusesPayload contentType body) ∧
      ((∃ reason, decode contentType body = .error (.malformedBody reason)) ↔
        RefusesBody contentType body) ∧
      ((∃ payload, decode contentType body = .ok payload) ↔
        ¬ RefusesPayload contentType body ∧ ¬ RefusesBody contentType body) ∧
      ∀ payload, decode contentType body = .ok payload ↔
        ∃ members, Holds contentType body members ∧ payload = payloadOf members := by
  rcases refuses_or_holds contentType body with hpayload | hbody | ⟨members, hholds⟩
  · obtain ⟨reason, hdecode⟩ := decode_of_refusesPayload hpayload
    have hholds (members : Members) : ¬ Holds contentType body members :=
      fun hholds => hholds.not_refuses.1 hpayload
    simp [hdecode, hpayload, hpayload.not_refusesBody, hholds]
  · obtain ⟨reason, hdecode⟩ := decode_of_refusesBody hbody
    have hpayload : ¬ RefusesPayload contentType body := fun h => h.not_refusesBody hbody
    have hholds (members : Members) : ¬ Holds contentType body members :=
      fun hholds => hholds.not_refuses.2 hbody
    simp [hdecode, hpayload, hbody, hholds]
  · obtain ⟨hpayload, hbody⟩ := hholds.not_refuses
    have hdecode := decode_of_holds hholds
    refine ⟨by simp [hdecode, hpayload], by simp [hdecode, hbody],
      by simp [hdecode, hpayload, hbody], fun payload => ⟨fun h => ?_, ?_⟩⟩
    · exact ⟨members, hholds, Except.ok.inj (h.symm.trans hdecode)⟩
    · rintro ⟨other, hother, rfl⟩
      exact decode_of_holds hother

end Switchboard.Notification.Payload
