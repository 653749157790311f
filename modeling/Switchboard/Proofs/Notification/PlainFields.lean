import Switchboard.Proofs.Notification.Decoding

/-!
# Notifications of plain fields

A form that does not wrap its notification has the fields of the notification as its own, and so
every field is a string. The same notification can be posted as a JSON object of strings. The two
bodies are written in quite different ways, but both keep every pair, and both take the last value
of a key that is repeated; so they are decoded alike. The flag `whisper` is a string there if it is
given at all, and never the value `true`: such a notification goes to its channel.

## Main results

* `isObjectText_text`: the compact text of an object is one of its texts, repeated keys included.
* `holds_form`, `holds_json`: the members of the notification in either body.
* `decode_strings`: the two bodies are decoded alike.
-/

namespace Switchboard

namespace Json

open Reader (byte)
open Text.Utf8 (encodeChars)

/-- The members of an object of strings. -/
def strings (pairs : List (String × String)) : List (String × Value) :=
  pairs.map fun (key, value) => (key, .string value)

/-- The texts of an object that is written with some pairs in order. A key may be repeated. -/
def IsObjectText : List (String × String) → List UInt8 → Prop :=
  Spaced fun pairs bytes =>
    ∃ body, IsBody (IsMember IsQuoted) pairs body ∧ bytes = byte '{' :: (body ++ [byte '}'])

/-- A member with a string is one with a quoted text. -/
theorem isMember_string {levels : Nat} {pair : String × String} {bytes : List UInt8} :
    IsMember (IsText levels) (pair.1, .string pair.2) bytes ↔ IsMember IsQuoted pair bytes := by
  simp only [IsMember, IsText]

/-- The object has the members that were written, each key with its last value. -/
theorem isDocument_of_isObjectText {levels : Nat} {pairs : List (String × String)}
    {bytes : List UInt8} (h : IsObjectText pairs bytes) :
    IsDocument (levels + 1) (.object (Members.ofList (strings pairs))) bytes := by
  refine h.imp fun middle hmiddle => ?_
  obtain ⟨body, hbody, hbytes⟩ := hmiddle
  rw [IsText]
  refine ⟨strings pairs, body, hbody.transfer (R := fun pair member =>
    member = (pair.1, .string pair.2)) ?_ ?_, rfl, hbytes⟩
  · rintro pair _ middle rfl hpair
    exact isMember_string.mpr hpair
  · exact List.forall₂_map_right_iff.mpr (List.forall₂_same.mpr fun pair _ => rfl)

/-- The compact text of an object of strings is one of its texts, also if a key is repeated. -/
theorem isObjectText_text (pairs : List (String × String)) :
    IsObjectText pairs (Text.Utf8.encode (Value.object (strings pairs)).text) := by
  rw [Text.Utf8.encode, Value.text, String.toList_ofList, Value.chars, List.cons_append,
    encodeChars_cons rfl, encodeChars_append]
  have hbody : IsBody (IsMember (IsText 0)) (strings pairs)
      (encodeChars (Value.memberChars (strings pairs))) := by
    refine isBody_memberChars (List.forall_mem_map.mpr fun pair _ => ?_)
    rw [IsText, Value.chars]
    exact .of_quote pair.2
  refine spaced_self ⟨_, hbody.transfer (R := fun member pair =>
    member = (pair.1, .string pair.2)) ?_ ?_, rfl⟩
  · rintro _ pair middle rfl hmember
    exact isMember_string.mp hmember
  · exact List.forall₂_map_left_iff.mpr (List.forall₂_same.mpr fun pair _ => rfl)

end Json

namespace Notification.Payload

open Json
open Text.Utf8 (encode)

/-- In an object of strings the last value of a key counts. -/
theorem get?_ofList_strings (pairs : List (String × String)) (key : String) :
    Members.get? (Members.ofList (strings pairs)) key =
      (pairs.reverse.lookup key).map Value.string := by
  rw [Members.get?_ofList, strings, ← List.map_reverse]
  induction pairs.reverse with
  | nil => rfl
  | cons pair rest ih =>
      rw [List.map_cons, List.lookup_cons, List.lookup_cons, ih]
      cases key == pair.1 <;> rfl

/-- The members `user` and `channel` of an object of strings name somebody or nobody. -/
theorem isNaming_strings (pairs : List (String × String)) (key : String) :
    IsNaming (Members.ofList (strings pairs)) key := by
  intro value hvalue
  rw [get?_ofList_strings, Option.map_eq_some_iff] at hvalue
  obtain ⟨name, -, rfl⟩ := hvalue
  exact .inr ⟨name, rfl⟩

/-- The name under a key is the last string that was given for it. -/
theorem nameUnder_strings (pairs : List (String × String)) (key : String) :
    nameUnder (Members.ofList (strings pairs)) key = pairs.reverse.lookup key := by
  rw [nameUnder, get?_ofList_strings]
  cases pairs.reverse.lookup key <;> rfl

variable {pairs : List (String × String)}

/-- Without a field `payload` the object is the notification itself. -/
theorem selects_strings (h : ∀ pair ∈ pairs, pair.1 ≠ "payload") :
    Selects (.object (Members.ofList (strings pairs)))
      (.object (Members.ofList (strings pairs))) := by
  refine .inl ⟨?_, rfl⟩
  rintro _ ⟨⟩
  have hnone : pairs.reverse.lookup "payload" = none :=
    List.lookup_eq_none_iff.mpr fun pair hpair =>
      bne_iff_ne.mpr (h pair (List.mem_reverse.mp hpair)).symm
  rw [get?_ofList_strings, hnone]
  exact .inl rfl

/-- **A form** that is written with the pairs holds their members. -/
theorem holds_form (h : ∀ pair ∈ pairs, pair.1 ≠ "payload") {contentType : Option String}
    (htype : IsForms contentType) :
    Holds contentType (Form.encode pairs) (Members.ofList (strings pairs)) := by
  refine ⟨_, .inl ⟨htype, ?_⟩, selects_strings h, isNaming_strings pairs _,
    isNaming_strings pairs _⟩
  rw [formFields, Form.decode_encode]
  rfl

/-- **A JSON object** that is written with the pairs holds the same members. -/
theorem holds_json (h : ∀ pair ∈ pairs, pair.1 ≠ "payload") {contentType : Option String}
    (htype : ¬ IsForms contentType) {body : List UInt8} (hbody : IsObjectText pairs body) :
    Holds contentType body (Members.ofList (strings pairs)) :=
  ⟨_, .inr ⟨htype, isDocument_of_isObjectText hbody⟩, selects_strings h,
    isNaming_strings pairs _, isNaming_strings pairs _⟩

/-- The notification that an object of strings is. -/
theorem payloadOf_strings (pairs : List (String × String)) :
    payloadOf (Members.ofList (strings pairs)) =
      { message := ((pairs.reverse.lookup "message").map Value.string).getD .null
        user := pairs.reverse.lookup "user"
        channel := pairs.reverse.lookup "channel"
        whisper := ((pairs.reverse.lookup "whisper").map Value.string).getD .null } := by
  rw [payloadOf, get?_ofList_strings, get?_ofList_strings, nameUnder_strings, nameUnder_strings]

/-- **Plain fields.** Let no key of some pairs be `payload`. The form of the pairs, and every JSON
text of an object with the same members in the same order, are decoded to one and the same
notification: each field is the last value of its key, and missing or `null` without one. It is not
meant for the user alone. -/
theorem decode_strings (h : ∀ pair ∈ pairs, pair.1 ≠ "payload")
    {formType jsonType : Option String} (hform : IsForms formType) (hjson : ¬ IsForms jsonType)
    {body : List UInt8} (hbody : IsObjectText pairs body) :
    ∃ payload : Payload,
      decode formType (Form.encode pairs) = .ok payload ∧
      decode jsonType body = .ok payload ∧
      payload.message = ((pairs.reverse.lookup "message").map Value.string).getD .null ∧
      payload.user = pairs.reverse.lookup "user" ∧
      payload.channel = pairs.reverse.lookup "channel" ∧
      payload.whisper = ((pairs.reverse.lookup "whisper").map Value.string).getD .null ∧
      payload.isWhisper = false := by
  have hform := decode_of_holds (holds_form h hform)
  have hjson := decode_of_holds (holds_json h hjson hbody)
  rw [payloadOf_strings] at hform hjson
  refine ⟨_, hform, hjson, rfl, rfl, rfl, rfl, ?_⟩
  rw [isWhisper]
  cases pairs.reverse.lookup "whisper" <;> rfl

/-- Signs that both encodings escape, an empty value, and a repeated key, under the content types
with parameters. -/
theorem decode_strings_repeated :
    ∃ pairs : List (String × String),
      pairs = [("message", "first"), ("user", "a&b=+%"), ("", ""), ("whisper", "true"),
        ("message", "\"é\"")] ∧
      (∀ pair ∈ pairs, pair.1 ≠ "payload") ∧
      decode (some "application/x-www-form-urlencoded; charset=utf-8") (Form.encode pairs) =
        .ok ⟨.string "\"é\"", some "a&b=+%", none, .string "true"⟩ ∧
      decode (some "application/json") (encode (Value.object (strings pairs)).text) =
        .ok ⟨.string "\"é\"", some "a&b=+%", none, .string "true"⟩ := by
  refine ⟨_, rfl, by decide, ?_⟩
  have hform : IsForms (some "application/x-www-form-urlencoded; charset=utf-8") :=
    isForm_iff.mp (by decide)
  have hjson : ¬ IsForms (some "application/json") := isForm_iff.not.mp (by decide)
  have hkeys : ∀ pair ∈ [("message", "first"), ("user", "a&b=+%"), ("", ""), ("whisper", "true"),
      ("message", "\"é\"")], pair.1 ≠ "payload" := by decide
  obtain ⟨⟨message, user, channel, whisper⟩, hfirst, hsecond, hmessage, huser, hchannel, hwhisper,
    -⟩ := decode_strings hkeys hform hjson (isObjectText_text _)
  obtain rfl : message = .string "\"é\"" := hmessage
  obtain rfl : user = some "a&b=+%" := huser
  obtain rfl : channel = none := hchannel
  obtain rfl : whisper = .string "true" := hwhisper
  exact ⟨hfirst, hsecond⟩

end Notification.Payload

end Switchboard
