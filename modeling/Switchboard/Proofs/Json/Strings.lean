import Switchboard.Json.Reader
import Switchboard.Proofs.Text.Utf8

/-!
# Strings in JSON texts

`IsCharText` lists the ways in which a character can be written inside a string: as it is, by a
letter behind a backslash, or by the digits of one or two sixteen-bit units. `IsQuoted` puts
any of them one after another between quotes. The reader of strings gives back the characters,
whichever ways were taken, and the writer of compact texts takes one of them.

## Main results

* `Reader.stringBytes_charText_append`: a written character in front of the rest of a string.
* `Reader.string_content_append`: a string is read back from behind its opening quote.
* `IsQuoted.of_quote`: strings as they are written are among the texts of strings.
-/

namespace Switchboard.Json

open Text.Utf8 (encodeChar encodeChars)

/-! ### The ways to write a string -/

/-- The ways to write a character inside a string. -/
inductive IsCharText : Char → List UInt8 → Prop
  /-- Quotes, backslashes and control characters cannot be written as they are. -/
  | plain {c : Char} (hquote : c ≠ '"') (hslash : c ≠ '\\') (hcontrol : 0x20 ≤ c.toNat) :
      IsCharText c (encodeChar c)
  | letter {e b : UInt8} (h : Reader.simpleEscape e = some b) :
      IsCharText (Char.ofNat b.toNat) [Reader.byte '\\', e]
  | unit {h₁ h₂ h₃ h₄ : UInt8} {n : Nat} (h : Reader.hexFour h₁ h₂ h₃ h₄ = some n)
      (hlow : ¬ Reader.isLowSurrogate n) (hhigh : ¬ Reader.isHighSurrogate n) :
      IsCharText (Char.ofNat n) [Reader.byte '\\', Reader.byte 'u', h₁, h₂, h₃, h₄]
  | pair {h₁ h₂ h₃ h₄ l₁ l₂ l₃ l₄ : UInt8} {n m : Nat} (h : Reader.hexFour h₁ h₂ h₃ h₄ = some n)
      (hhigh : Reader.isHighSurrogate n) (l : Reader.hexFour l₁ l₂ l₃ l₄ = some m)
      (hlow : Reader.isLowSurrogate m) :
      IsCharText (Reader.pairChar n m)
        [Reader.byte '\\', Reader.byte 'u', h₁, h₂, h₃, h₄,
          Reader.byte '\\', Reader.byte 'u', l₁, l₂, l₃, l₄]

/-- Characters written one after another. -/
inductive IsContent : List Char → List UInt8 → Prop
  | nil : IsContent [] []
  | cons {c : Char} {cs : List Char} {front back : List UInt8} (hc : IsCharText c front)
      (hcs : IsContent cs back) : IsContent (c :: cs) (front ++ back)

/-- The texts of a string. -/
def IsQuoted (s : String) (bytes : List UInt8) : Prop :=
  ∃ content, IsContent s.toList content ∧
    bytes = Reader.byte '"' :: content ++ [Reader.byte '"']

/-! ### Reading -/

namespace Reader

/-- Bytes are put in front one part after the other. -/
theorem push_push (front back : List UInt8) (result : Except Fault (List UInt8 × List UInt8)) :
    push front (push back result) = push (front ++ back) result := by
  cases result with
  | error fault => rfl
  | ok read => simp [push, Except.map]

/-- Whether a byte stands for itself inside a string. -/
def IsPlain (b : UInt8) : Prop := b ≠ byte '"' ∧ b ≠ byte '\\' ∧ ¬ b < 0x20

/-- Bytes that stand for themselves come in as they are. -/
theorem stringBytes_plain_append {front : List UInt8} (hfront : ∀ b ∈ front, IsPlain b)
    (rest : List UInt8) : stringBytes (front ++ rest) = push front (stringBytes rest) := by
  induction front with
  | nil =>
      rw [List.nil_append]
      cases stringBytes rest <;> rfl
  | cons b front ih =>
      obtain ⟨⟨hquote, hslash, hcontrol⟩, hfront⟩ := List.forall_mem_cons.mp hfront
      rw [List.cons_append, stringBytes.eq_def]
      simp only [if_neg hquote, if_neg hslash, if_neg hcontrol]
      rw [ih hfront, push_push, List.singleton_append]

/-- The bytes of a character stand for themselves if the character does. -/
theorem isPlain_of_mem_encodeChar {c : Char} (hquote : c ≠ '"') (hslash : c ≠ '\\')
    (hcontrol : 0x20 ≤ c.toNat) {b : UInt8} (h : b ∈ encodeChar c) : IsPlain b := by
  have hvalue : b.toNat = c.toNat ∨ 0x80 ≤ b.toNat :=
    (Text.Utf8.plain_or_high_of_mem_encodeChar h).imp And.right id
  have apart (d : Char) (hd : c ≠ d) (hlow : (byte d).toNat = d.toNat) (hascii : d.toNat < 0x80) :
      b ≠ byte d := by
    rintro rfl
    rcases hvalue with hsame | hhigh
    · exact hd (Char.toNat_inj.mp (hsame.symm.trans hlow))
    · omega
  refine ⟨apart '"' hquote rfl (by decide), apart '\\' hslash rfl (by decide), ?_⟩
  rw [UInt8.lt_iff_toNat_lt, show (0x20 : UInt8).toNat = 0x20 from rfl]
  omega

/-- The letters that stand for a character stand for an ASCII character, and `u` is none of them. -/
theorem simpleEscape_eq_some {e b : UInt8} (h : simpleEscape e = some b) :
    e ≠ byte 'u' ∧ encodeChar (Char.ofNat b.toNat) = [b] := by
  have hu : e ≠ byte 'u' := by
    rintro rfl
    have hnone : simpleEscape (byte 'u') = none := by decide
    exact Option.some_ne_none b (h.symm.trans hnone)
  refine ⟨hu, ?_⟩
  unfold simpleEscape at h
  split at h
  · next hself =>
      rw [← Option.some.inj h]
      rcases hself with rfl | rfl | rfl <;> decide
  · repeat'
      split at h
      · rw [← Option.some.inj h]
        decide
    exact absurd h (by simp)

/-- **One character.** A written character in front of the rest of a string is read as the
character, whichever way it is written. -/
theorem stringBytes_charText_append {c : Char} {front : List UInt8} (h : IsCharText c front)
    (rest : List UInt8) :
    stringBytes (front ++ rest) = push (encodeChar c) (stringBytes rest) := by
  have hslash : ¬ byte '\\' = byte '"' := by decide
  cases h with
  | plain hquote hslash hcontrol =>
      exact stringBytes_plain_append
        (fun b hb => isPlain_of_mem_encodeChar hquote hslash hcontrol hb) rest
  | letter hletter =>
      obtain ⟨hu, hself⟩ := simpleEscape_eq_some hletter
      rw [hself, List.cons_append, List.singleton_append, stringBytes.eq_def]
      simp only [if_neg hslash, if_neg hu, if_true, hletter]
  | unit hn hlow hhigh =>
      rw [stringBytes.eq_def]
      simp only [List.cons_append, List.nil_append, if_neg hslash, if_true, hn, if_neg hlow,
        if_neg hhigh]
  | pair hn hhigh hm hlow =>
      have hnot : ¬ isLowSurrogate _ := fun hn => by
        simp only [isHighSurrogate, isLowSurrogate, Bool.and_eq_true, decide_eq_true_eq] at hn hhigh
        exact Nat.lt_irrefl _ (lt_of_le_of_lt (hn.1.trans hhigh.2) (by decide))
      rw [stringBytes.eq_def]
      simp only [List.cons_append, List.nil_append, if_neg hslash, if_true, hn, if_neg hnot,
        if_pos hhigh, hm, if_pos hlow]

/-- **The content** of a string is read up to the closing quote, whatever follows. -/
theorem stringBytes_content_append {cs : List Char} {content : List UInt8}
    (h : IsContent cs content) (rest : List UInt8) :
    stringBytes (content ++ byte '"' :: rest) = .ok (encodeChars cs, rest) := by
  induction h with
  | nil =>
      rw [List.nil_append, stringBytes.eq_def]
      simp only [if_true]
      rfl
  | cons hc _ ih =>
      rw [List.append_assoc, stringBytes_charText_append hc, ih]
      rfl

/-- **Strings** are read back from behind their opening quote. -/
theorem string_content_append {s : String} {content : List UInt8} (h : IsContent s.toList content)
    (rest : List UInt8) : string (content ++ byte '"' :: rest) = .ok (s, rest) := by
  unfold string
  rw [stringBytes_content_append h]
  simp only [bind, Except.bind, Text.Utf8.decode_encodeChars, String.ofList_toList]
  rfl

end Reader

/-! ### Writing -/

/-- Control characters are written by the digits of their code points. -/
theorem isCharText_control {c : Char} (hc : c.toNat < 0x20) :
    IsCharText c (encodeChars
      ['\\', 'u', '0', '0', Text.Hex.digit (c.toNat / 16), Text.Hex.digit (c.toNat % 16)]) := by
  have hall : ∀ n < 0x20,
      (Reader.hexFour 0x30 0x30 (.ofNat (Text.Hex.digit (n / 16)).toNat)
          (.ofNat (Text.Hex.digit (n % 16)).toNat) = some n ∧
        ¬ Reader.isLowSurrogate n ∧ ¬ Reader.isHighSurrogate n) ∧
      encodeChars ['\\', 'u', '0', '0', Text.Hex.digit (n / 16), Text.Hex.digit (n % 16)] =
        [Reader.byte '\\', Reader.byte 'u', 0x30, 0x30,
          .ofNat (Text.Hex.digit (n / 16)).toNat, .ofNat (Text.Hex.digit (n % 16)).toNat] := by
    decide
  obtain ⟨⟨hn, hlow, hhigh⟩, hbytes⟩ := hall c.toNat hc
  have htext := IsCharText.unit hn hlow hhigh
  rwa [Char.ofNat_toNat, ← hbytes] at htext

/-- A character as it is written inside a string. -/
theorem isCharText_escape (c : Char) : IsCharText c (encodeChars (Value.escape c)) := by
  unfold Value.escape
  split
  · exact IsCharText.letter (e := 0x22) (b := 0x22) (by decide)
  · exact IsCharText.letter (e := 0x5C) (b := 0x5C) (by decide)
  · exact IsCharText.letter (e := 0x62) (b := 0x08) (by decide)
  · exact IsCharText.letter (e := 0x66) (b := 0x0C) (by decide)
  · exact IsCharText.letter (e := 0x6E) (b := 0x0A) (by decide)
  · exact IsCharText.letter (e := 0x72) (b := 0x0D) (by decide)
  · exact IsCharText.letter (e := 0x74) (b := 0x09) (by decide)
  · next hquote hslash _ _ _ _ _ =>
      split
      · next hcontrol => exact isCharText_control hcontrol
      · next hcontrol =>
          have hself : encodeChars [c] = encodeChar c := List.flatMap_singleton encodeChar c
          rw [hself]
          exact IsCharText.plain hquote hslash (Nat.not_lt.mp hcontrol)

/-- A text that is escaped is content of a string. -/
theorem isContent_escape (cs : List Char) :
    IsContent cs (encodeChars (cs.flatMap Value.escape)) := by
  induction cs with
  | nil => exact .nil
  | cons c cs ih =>
      have happend : encodeChars ((c :: cs).flatMap Value.escape) =
          encodeChars (Value.escape c) ++ encodeChars (cs.flatMap Value.escape) := by
        rw [List.flatMap_cons]
        exact List.flatMap_append
      rw [happend]
      exact .cons (isCharText_escape c) ih

/-- **Strings as they are written** are among the texts of strings. -/
theorem IsQuoted.of_quote (s : String) : IsQuoted s (encodeChars (Value.quote s)) := by
  refine ⟨_, isContent_escape s.toList, ?_⟩
  simp only [Value.quote, Value.quoteChars, encodeChars, List.cons_append, List.flatMap_cons,
    List.flatMap_append, List.flatMap_nil, List.append_nil]
  rfl

end Switchboard.Json
