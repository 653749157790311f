import Switchboard.Notification.Payload
import Switchboard.Proofs.Json.Writing
import Switchboard.Proofs.Notification.Forms
import Switchboard.Proofs.Text.Ascii

/-!
# Envelopes of notifications

A notification can be posted as a JSON body, as a JSON string in the field `payload` of a JSON
body, and as the field `payload` of a form. A body that holds the notification itself is read
once and one that wraps it is read twice, so the three agree only if unwrapping gives back the very
text that was wrapped, and if the notification is not taken for a wrapper itself. The latter is
what `IsBare` asks for.

## Main results

* `isForm_of_isFormType`: forms are told by their content type.
* `decode_bare`, `decode_wrapped`, `decode_form`: what is decoded from each of the three bodies.
* `decode_envelopes`: the three bodies of a text are decoded alike.
-/

namespace Switchboard.Notification.Payload

open Json
open Text.Utf8 (encode encodeChars)

/-! ### The three bodies -/

/-- An object is no wrapper if it has no field `payload`, or none but `null` and the empty string.
Other values are no wrappers. -/
def IsBare (value : Value) : Prop :=
  ∀ members, value = .object members →
    Members.get? members "payload" = none ∨ Members.get? members "payload" = some .null ∨
      Members.get? members "payload" = some (.string "")

/-- A value that wraps a text in its field `payload`. -/
def wrapper (text : String) : Value := .object [("payload", .string text)]

/-- The bytes in front of the text in a form. -/
def formPrefix : List UInt8 := encode "payload" ++ [0x3D]

/-- A content type of forms: the name of the type in letters of either case, with white space
around it, and parameters behind a semicolon. -/
def IsFormType (contentType : String) : Prop :=
  ∃ before name behind parameters : List Char,
    contentType.toList = before ++ name ++ behind ++ parameters ∧
    (∀ c ∈ before, Text.isBlank c) ∧ name.map Char.toLower = formType ∧
    (∀ c ∈ behind, Text.isBlank c) ∧ ∀ c ∈ parameters.head?, c = ';'

/-- What the text of a notification is decoded as, when it is not JSON as told by `refusal`. -/
def ofText (refusal : String → Fault) (text : String) : Except Fault Payload :=
  match Value.parse text with
  | .ok value => ofValue value
  | .error fault => .error (refusal (fault.message (encode text)))

/-- A value is a notification, or a malformed body. -/
theorem ofValue_cases (value : Value) :
    (∃ payload, ofValue value = .ok payload) ∨
      ∃ reason, ofValue value = .error (.malformedBody reason) := by
  unfold ofValue
  split
  · split
    · exact .inl ⟨_, rfl⟩
    · exact .inr ⟨_, rfl⟩
  · exact .inr ⟨_, rfl⟩

/-- A value that is no wrapper is the notification itself. -/
theorem unwrap_of_isBare {value : Value} (h : IsBare value) : unwrap value = .ok value := by
  unfold unwrap
  cases value with
  | object members =>
      rw [Value.get?]
      rcases h members rfl with hget | hget | hget
      · rw [hget]
      · rw [hget]
      · rw [hget]
        rfl
  | null => rfl
  | bool b => rfl
  | number n => rfl
  | string s => rfl
  | array items => rfl

/-- **A wrapper** is decoded as the text in it. -/
theorem unwrap_wrapper {text : String} (hne : text ≠ "") :
    (unwrap (wrapper text) >>= ofValue) = ofText .malformedPayload text := by
  have hempty : text.isEmpty = false := by simpa using hne
  have hget : (wrapper text).get? "payload" = some (.string text) := rfl
  rw [unwrap, hget]
  simp only [hempty, Bool.false_eq_true, if_false, ofText]
  cases Value.parse text <;> rfl

variable {contentType : Option String} {text : String} {body : List UInt8}

/-- The body is the notification. -/
theorem decode_bare (htype : ¬ isForm contentType)
    (hbare : ∀ value, Value.parse text = .ok value → IsBare value) :
    decode contentType (encode text) = ofText .malformedBody text := by
  have hparse : Value.parseBytes (encode text) = Value.parse text := rfl
  rw [decode, envelope, if_neg htype, hparse, ofText]
  cases h : Value.parse text with
  | error fault => rfl
  | ok value =>
      simp only [bind, Except.bind, unwrap_of_isBare (hbare value h)]

/-- The body wraps the notification in a JSON string. -/
theorem decode_wrapped (hne : text ≠ "") (htype : ¬ isForm contentType)
    (hbody : IsDocument Value.maxLevels (wrapper text) body) :
    decode contentType body = ofText .malformedPayload text := by
  rw [decode, envelope, if_neg htype, Value.parseBytes_of_isDocument hbody]
  exact unwrap_wrapper hne

/-- The body wraps the notification in a form. -/
theorem decode_form (hne : text ≠ "") (htype : isForm contentType)
    (hbody : Form.IsEscaped (encode text) body) :
    decode contentType (formPrefix ++ body) = ofText .malformedPayload text := by
  have hname : Form.IsEscaped (encode "payload") (encode "payload") := by
    have hpart := Form.isEscaped_encodePart "payload"
    rwa [show Form.encodePart "payload" = encode "payload" by decide] at hpart
  have hfields : Form.decode (formPrefix ++ body) = [("payload", text)] := by
    rw [formPrefix, List.append_assoc, List.singleton_append]
    exact Form.decode_field hname (by decide) hbody
  rw [decode, envelope, if_pos htype, hfields]
  exact unwrap_wrapper hne

/-! ### The content type of forms -/

/-- The letters and signs of the name of the type, in either case. -/
theorem apart_of_toLower_mem {c : Char} (h : c.toLower ∈ formType) :
    c ≠ ';' ∧ ¬ Text.isBlank c := by
  have hascii : c.toNat < 0x80 := by
    have hname : formType.all fun d => decide (d.toNat < 0x80) := by decide
    rcases Text.toLower_cases c with hself | hascii
    · rw [hself] at h
      exact of_decide_eq_true (List.all_eq_true.mp hname c h)
    · exact hascii
  have hall : ∀ n < 0x80, (Char.ofNat n).toLower ∈ formType →
      Char.ofNat n ≠ ';' ∧ ¬ Text.isBlank (Char.ofNat n) := by decide
  exact Text.forall_ascii (P := fun c => c.toLower ∈ formType → c ≠ ';' ∧ ¬ Text.isBlank c) hall
    hascii h

/-- **Forms** are told by their content type, whatever the case of its letters, and whatever
parameters follow. -/
theorem isForm_of_isFormType {contentType : String} (h : IsFormType contentType) :
    isForm (some contentType) := by
  obtain ⟨before, name, behind, parameters, htext, hbefore, hname, hbehind, hparameters⟩ := h
  have hmem : ∀ c ∈ name, c ≠ ';' ∧ ¬ Text.isBlank c := fun c hc =>
    apart_of_toLower_mem (hname ▸ List.mem_map_of_mem hc)
  have hsemicolon : ¬ Text.isBlank ';' := by decide
  have hblank {cs : List Char} (hcs : ∀ c ∈ cs, Text.isBlank c) : ∀ c ∈ cs, c ≠ ';' := by
    rintro c hc rfl
    exact hsemicolon (hcs _ hc)
  have hfront : ∀ c ∈ before ++ name ++ behind, (decide (c ≠ ';')) = true := by
    simp only [List.mem_append, decide_eq_true_eq]
    rintro c ((hc | hc) | hc)
    · exact hblank hbefore c hc
    · exact (hmem c hc).1
    · exact hblank hbehind c hc
  have htake : contentType.toList.takeWhile (· ≠ ';') = before ++ name ++ behind := by
    rw [htext, List.takeWhile_append_of_pos hfront]
    cases parameters with
    | nil => simp
    | cons c parameters => simp [hparameters c rfl]
  rw [isForm, htake, Text.Blank.trim_append hbefore (fun c hc => (hmem c hc).2) hbehind, hname]
  exact beq_self_eq_true formType

/-! ### Agreement -/

/-- **Envelopes agree.** Let a text that is not empty be no wrapper, in case it is JSON at all. As
the body itself, as a JSON string in the field `payload` of a JSON body, and as the field `payload`
of a form, it is decoded as follows.

* If it is JSON, all three give what the value is decoded as: a notification, or a malformed body
  for one and the same reason.
* If it is not JSON, the body itself is malformed, and in the other two the field is, for the same
  reason. -/
theorem decode_envelopes {text : String} (hne : text ≠ "")
    (hbare : ∀ value, Value.parse text = .ok value → IsBare value)
    {bareType wrappedType : Option String} {contentType : String} (hbareType : ¬ isForm bareType)
    (hwrappedType : ¬ isForm wrappedType) (hcontentType : IsFormType contentType)
    {wrapped form : List UInt8} (hwrapped : IsDocument Value.maxLevels (wrapper text) wrapped)
    (hform : Form.IsEscaped (encode text) form) :
    match Value.parse text with
    | .ok value =>
      decode bareType (encode text) = ofValue value ∧
      decode wrappedType wrapped = ofValue value ∧
      decode (some contentType) (formPrefix ++ form) = ofValue value ∧
      ((∃ payload, ofValue value = .ok payload) ∨
        ∃ reason, ofValue value = .error (.malformedBody reason))
    | .error fault =>
      decode bareType (encode text) = .error (.malformedBody (fault.message (encode text))) ∧
      decode wrappedType wrapped = .error (.malformedPayload (fault.message (encode text))) ∧
      decode (some contentType) (formPrefix ++ form) =
        .error (.malformedPayload (fault.message (encode text))) := by
  have hforms : isForm (some contentType) := isForm_of_isFormType hcontentType
  rw [decode_bare hbareType hbare, decode_wrapped hne hwrappedType hwrapped,
    decode_form hne hforms hform, ofText, ofText]
  cases Value.parse text with
  | error fault => exact ⟨rfl, rfl, rfl⟩
  | ok value => exact ⟨rfl, rfl, rfl, ofValue_cases value⟩

/-- The message `hi` as a JSON body, wrapped in a JSON body, and wrapped in a form. -/
theorem decode_envelopes_greeting :
    decode (some "application/json") (encode "\x7b\"message\":\"hi\"\x7d") =
        .ok ⟨.string "hi", none, none, .null⟩ ∧
      decode none (encode "\x7b\"payload\":\"\x7b\\\"message\\\":\\\"hi\\\"\x7d\"\x7d") =
        .ok ⟨.string "hi", none, none, .null⟩ ∧
      decode (some " Application/X-WWW-form-urlencoded; charset=utf-8")
          (encode "payload=%7B%22message%22%3A%22hi%22%7D") =
        .ok ⟨.string "hi", none, none, .null⟩ := by
  set text := "\x7b\"message\":\"hi\"\x7d"
  have hfits (key s : String) : Fits Value.maxLevels (.object [(key, .string s)]) :=
    ⟨List.nodup_singleton key, List.forall_mem_singleton.mpr trivial⟩
  have hparse : Value.parse text = .ok (.object [("message", .string "hi")]) := by
    have hwritten : (Value.object [("message", .string "hi")]).text = text := by decide
    exact hwritten ▸ Value.parse_text (hfits "message" "hi")
  have hbare : ∀ value, Value.parse text = .ok value → IsBare value := by
    intro value hvalue members hmembers
    rw [hparse, hmembers] at hvalue
    obtain rfl := Value.object.inj (Except.ok.inj hvalue)
    exact .inl (by decide)
  have hwrapped := isDocument_text (hfits "payload" text)
  have hform := Form.isEscaped_encodePart text
  have hspace : Text.isBlank ' ' := by decide
  have hhead : "; charset=utf-8".toList.head? = some ';' := by decide
  have htype : IsFormType " Application/X-WWW-form-urlencoded; charset=utf-8" :=
    ⟨[' '], "Application/X-WWW-form-urlencoded".toList, [], "; charset=utf-8".toList,
      by decide, List.forall_mem_singleton.mpr hspace, by decide,
      List.forall_mem_nil _, fun c hc => (Option.some.inj (hhead.symm.trans hc)).symm⟩
  have hjson : ¬ isForm (some "application/json") := by decide
  have hnone : ¬ isForm none := by decide
  have hagree := decode_envelopes (by decide) hbare hjson hnone htype hwrapped hform
  rw [hparse] at hagree
  obtain ⟨hfirst, hsecond, hthird, -⟩ := hagree
  refine ⟨hfirst, ?_, ?_⟩
  · have hbody : (wrapper text).text =
        "\x7b\"payload\":\"\x7b\\\"message\\\":\\\"hi\\\"\x7d\"\x7d" := by decide
    exact hbody ▸ hsecond
  · have hbody : formPrefix ++ Form.encodePart text =
        encode "payload=%7B%22message%22%3A%22hi%22%7D" := by decide
    exact hbody ▸ hthird

end Switchboard.Notification.Payload
