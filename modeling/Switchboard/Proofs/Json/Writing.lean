import Switchboard.Proofs.Json.StrictTexts

/-!
# Written texts

The compact text that is written for a value is one of its texts, so it is read back. This takes
what no text can do without: levels enough for the nesting, objects in which no key is repeated,
and numbers that are read as they are written. `Fits` asks for it at every place of a value.

## Main results

* `isStrictText_chars`: the compact text is a text.
* `Value.parse_text`: it is read back.
-/

namespace Switchboard.Json

open Reader (byte)
open Text.Utf8 (encodeChar encodeChars)

/-- Whether a value is read back from its compact text with some levels. -/
def Fits : (levels : Nat) → Value → Prop
  | _, .null => True
  | _, .bool _ => True
  | _, .number n => IsNumberText n (encodeChars n.text)
  | _, .string _ => True
  | 0, .array _ => False
  | inner + 1, .array items => ∀ item ∈ items, Fits inner item
  | 0, .object _ => False
  | inner + 1, .object members =>
    (members.map Prod.fst).Nodup ∧ ∀ member ∈ members, Fits inner member.2

/-! ### Bytes of a text -/

/-- Bytes of texts one behind the other. -/
theorem encodeChars_append (cs ds : List Char) :
    encodeChars (cs ++ ds) = encodeChars cs ++ encodeChars ds := List.flatMap_append

/-- A character that is written in one byte. -/
theorem encodeChars_cons {c : Char} (hc : encodeChar c = [byte c]) (cs : List Char) :
    encodeChars (c :: cs) = byte c :: encodeChars cs := by
  rw [encodeChars, List.flatMap_cons, hc]
  rfl

/-- A text without space around it. -/
theorem spaced_self {α : Type} {text : α → List UInt8 → Prop} {x : α} {bytes : List UInt8}
    (h : text x bytes) : Spaced text x bytes :=
  ⟨[], bytes, [], isGap_nil, h, isGap_nil, by simp⟩

/-! ### The parts of a text -/

section Parts

variable {text : Value → List UInt8 → Prop}

/-- **Items** are written as a body. -/
theorem isBody_itemChars {items : List Value}
    (h : ∀ item ∈ items, text item (encodeChars item.chars)) :
    IsBody text items (encodeChars (Value.itemChars items)) := by
  induction items with
  | nil => exact .inl ⟨rfl, isGap_nil⟩
  | cons item rest ih =>
      obtain ⟨hitem, hrest⟩ := List.forall_mem_cons.mp h
      cases rest with
      | nil => exact .inr (.last (spaced_self hitem))
      | cons next rest =>
          rcases ih hrest with ⟨hnil, -⟩ | hseparated
          · exact absurd hnil (List.cons_ne_nil next rest)
          · rw [Value.itemChars, encodeChars_append, encodeChars_cons rfl]
            · exact .inr (.cons (spaced_self hitem) hseparated)
            · exact List.cons_ne_nil next rest

/-- A member is written as its key, a colon and its value. -/
theorem isMember_chars {member : String × Value}
    (h : text member.2 (encodeChars member.2.chars)) :
    IsMember text member (encodeChars (Value.quote member.1 ++ ':' :: member.2.chars)) := by
  refine ⟨_, [], [], _, .of_quote member.1, isGap_nil, isGap_nil, h, ?_⟩
  rw [encodeChars_append, encodeChars_cons rfl, List.append_nil, List.nil_append]

/-- **Members** are written as a body. -/
theorem isBody_memberChars {members : Members}
    (h : ∀ member ∈ members, text member.2 (encodeChars member.2.chars)) :
    IsBody (IsMember text) members (encodeChars (Value.memberChars members)) := by
  induction members with
  | nil => exact .inl ⟨rfl, isGap_nil⟩
  | cons member rest ih =>
      obtain ⟨hmember, hrest⟩ := List.forall_mem_cons.mp h
      have hfirst := spaced_self (isMember_chars hmember)
      cases rest with
      | nil => exact .inr (.last hfirst)
      | cons next rest =>
          rcases ih hrest with ⟨hnil, -⟩ | hseparated
          · exact absurd hnil (List.cons_ne_nil next rest)
          · rw [Value.memberChars, encodeChars_append, encodeChars_cons rfl]
            · exact .inr (.cons hfirst hseparated)
            · exact List.cons_ne_nil next rest

end Parts

/-! ### Values -/

/-- **The compact text** of a value is one of its texts, and repeats no key. -/
theorem isStrictText_chars {levels : Nat} {v : Value} (h : Fits levels v) :
    IsStrictText levels v (encodeChars v.chars) := by
  induction levels using Nat.strong_induction_on generalizing v with
  | _ levels ih =>
      cases v with
      | null => rw [IsStrictText]; rfl
      | bool b =>
          cases b with
          | false => rw [IsStrictText]; rfl
          | true => rw [IsStrictText]; rfl
      | number n =>
          rw [Fits] at h
          rw [IsStrictText, Value.chars]
          exact h
      | string s =>
          rw [IsStrictText, Value.chars]
          exact .of_quote s
      | array items =>
          cases levels with
          | zero => rw [Fits] at h; exact h.elim
          | succ inner =>
              rw [Fits] at h
              rw [IsStrictText, Value.chars, List.cons_append, encodeChars_cons rfl,
                encodeChars_append]
              exact ⟨_, isBody_itemChars fun item hitem =>
                ih inner (Nat.lt_succ_self inner) (h item hitem), rfl⟩
      | object members =>
          cases levels with
          | zero => rw [Fits] at h; exact h.elim
          | succ inner =>
              rw [Fits] at h
              rw [IsStrictText, Value.chars, List.cons_append, encodeChars_cons rfl,
                encodeChars_append]
              exact ⟨h.1, _, isBody_memberChars fun member hmember =>
                ih inner (Nat.lt_succ_self inner) (h.2 member hmember), rfl⟩

/-- **A value** that is nested within the limit is written as a document. -/
theorem isDocument_text {levels : Nat} {v : Value} (h : Fits levels v) :
    IsDocument levels v (Text.Utf8.encode v.text) := by
  rw [Text.Utf8.encode, Value.text, String.toList_ofList]
  exact spaced_self (isStrictText_chars h).isText

/-- **Parsing** gives back a value from its compact text. -/
theorem Value.parse_text {v : Value} (h : Fits maxLevels v) : parse v.text = .ok v :=
  parseBytes_of_isDocument (isDocument_text h)

end Switchboard.Json
