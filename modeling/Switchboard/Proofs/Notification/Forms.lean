import Switchboard.Notification.Form
import Switchboard.Proofs.Net.Percent
import Switchboard.Proofs.Text.Pieces
import Switchboard.Proofs.Text.Utf8

/-!
# Texts in form bodies

`IsEscaped` lists the ways in which bytes can be written in the value of a form field: a byte as it
is, a space as a plus sign, and any byte by two digits of base sixteen, in small letters or in
capitals. Whichever ways are taken, a form of one field is read back, and the writer of forms
takes one of them.

## Main results

* `unescape_isEscaped`: escaped bytes are read back.
* `decode_field`: a form of a single field.
* `isEscaped_encodePart`: what the writer of forms writes is escaped.
-/

namespace Switchboard

namespace Notification.Form

/-! ### Reading -/

/-- The ways to write a byte in the value of a field. -/
inductive IsEscapedByte : UInt8 → List UInt8 → Prop
  /-- Percent signs, ampersands and plus signs cannot be written as they are. -/
  | plain {b : UInt8} (hpercent : b ≠ 0x25) (hampersand : b ≠ 0x26) (hplus : b ≠ 0x2B) :
      IsEscapedByte b [b]
  | space : IsEscapedByte 0x20 [0x2B]
  | digits {h l : UInt8} {x y : Nat} (hx : Text.Hex.byteValue? h = some x)
      (hy : Text.Hex.byteValue? l = some y) : IsEscapedByte (.ofNat (16 * x + y)) [0x25, h, l]

/-- Bytes written one after another in the value of a field. -/
inductive IsEscaped : List UInt8 → List UInt8 → Prop
  | nil : IsEscaped [] []
  | cons {b : UInt8} {bs front back : List UInt8} (hb : IsEscapedByte b front)
      (hbs : IsEscaped bs back) : IsEscaped (b :: bs) (front ++ back)

/-- Digits are neither plus signs nor ampersands. -/
theorem digit_ne {h : UInt8} {x : Nat} (hx : Text.Hex.byteValue? h = some x) :
    h ≠ 0x2B ∧ h ≠ 0x26 := by
  refine ⟨?_, ?_⟩
  · rintro rfl
    exact Option.some_ne_none x (hx.symm.trans (by decide))
  · rintro rfl
    exact Option.some_ne_none x (hx.symm.trans (by decide))

/-- An escaped byte is read, whatever follows. -/
theorem unescape_append {b : UInt8} {front : List UInt8} (hb : IsEscapedByte b front)
    (rest : List UInt8) : unescape (front ++ rest) = b :: unescape rest := by
  unfold unescape
  cases hb with
  | plain hpercent _ hplus =>
      rw [List.singleton_append, List.map_cons, if_neg hplus, Net.Percent.decode_cons hpercent]
  | space => exact Net.Percent.decode_cons (by decide) _
  | digits hx hy =>
      have hpercent : (0x25 : UInt8) ≠ 0x2B := by decide
      rw [List.cons_append, List.cons_append, List.singleton_append, List.map_cons, List.map_cons,
        List.map_cons, if_neg hpercent, if_neg (digit_ne hx).1, if_neg (digit_ne hy).1,
        Net.Percent.decode_digits hx hy]

/-- **Escaped bytes** are read back. -/
theorem unescape_isEscaped {content bytes : List UInt8} (h : IsEscaped content bytes) :
    unescape bytes = content := by
  induction h with
  | nil => rfl
  | cons hb _ ih => rw [unescape_append hb, ih]

/-- Escaped bytes do not end a field. -/
theorem not_mem_of_isEscaped {content bytes : List UInt8} (h : IsEscaped content bytes) :
    0x26 ∉ bytes := by
  induction h with
  | nil => exact List.not_mem_nil
  | cons hb _ ih =>
      rw [List.mem_append, not_or]
      refine ⟨?_, ih⟩
      cases hb with
      | plain _ hampersand _ => simpa using hampersand.symm
      | space => decide
      | digits hx hy => simpa using ⟨(digit_ne hx).2.symm, (digit_ne hy).2.symm⟩

/-- **An escaped text** is read back. -/
theorem part_isEscaped {s : String} {bytes : List UInt8}
    (h : IsEscaped (Text.Utf8.encode s) bytes) : part bytes = s := by
  rw [part, unescape_isEscaped h, Text.Utf8.encode, Text.Utf8.decodeLenient_encodeChars,
    String.ofList_toList]

/-- The ways to write a field: its name without an equals sign, and its value. -/
def IsField (pair : String × String) (bytes : List UInt8) : Prop :=
  ∃ front back, IsEscaped (Text.Utf8.encode pair.1) front ∧ 0x3D ∉ front ∧
    IsEscaped (Text.Utf8.encode pair.2) back ∧ bytes = front ++ 0x3D :: back

/-- A field holds no ampersand, so that it ends at the next one. -/
theorem IsField.ampersand_not_mem {pair : String × String} {bytes : List UInt8}
    (h : IsField pair bytes) : 0x26 ∉ bytes := by
  obtain ⟨front, back, hname, -, hvalue, rfl⟩ := h
  simp [not_mem_of_isEscaped hname, not_mem_of_isEscaped hvalue]

/-- A field is not empty, because of its equals sign. -/
theorem IsField.ne_nil {pair : String × String} {bytes : List UInt8} (h : IsField pair bytes) :
    bytes ≠ [] := by
  obtain ⟨front, back, -, -, -, rfl⟩ := h
  simp

/-- **Fields.** A form is read as its fields in order. -/
theorem decode_fields {pairs : List (String × String)} {write : String × String → List UInt8}
    (h : ∀ pair ∈ pairs, IsField pair (write pair)) :
    decode ([0x26].intercalate (pairs.map write)) = pairs := by
  have hpieces : (([0x26].intercalate (pairs.map write)).splitOn 0x26).filter
      (fun piece => !piece.isEmpty) = pairs.map write := by
    by_cases hne : pairs.map write = []
    · rw [hne]
      rfl
    · rw [List.splitOn_intercalate _ (List.forall_mem_map.mpr fun pair hpair =>
        (h pair hpair).ampersand_not_mem) hne, List.filter_eq_self]
      exact List.forall_mem_map.mpr fun pair hpair => by simpa using (h pair hpair).ne_nil
  rw [decode, Text.Split.all_eq_splitOn, hpieces, List.map_map]
  refine (List.map_congr_left fun pair hpair => ?_).trans (List.map_id pairs)
  obtain ⟨front, back, hname, hequals, hvalue, hwrite⟩ := h pair hpair
  rw [Function.comp_apply, hwrite, Text.Split.once_append_cons hequals]
  exact Prod.ext (part_isEscaped hname) (part_isEscaped hvalue)

/-- **One field.** A form of a single field is read as its name and its value, where the name is
written without an equals sign. -/
theorem decode_field {name value : String} {front back : List UInt8}
    (hname : IsEscaped (Text.Utf8.encode name) front) (hequals : 0x3D ∉ front)
    (hvalue : IsEscaped (Text.Utf8.encode value) back) :
    decode (front ++ 0x3D :: back) = [(name, value)] := by
  have hfield : IsField (name, value) (front ++ 0x3D :: back) :=
    ⟨front, back, hname, hequals, hvalue, rfl⟩
  let write (_ : String × String) : List UInt8 := front ++ 0x3D :: back
  have hdecode : decode ([0x26].intercalate ([(name, value)].map write)) = [(name, value)] :=
    decode_fields (List.forall_mem_singleton.mpr hfield)
  rwa [List.map_singleton, List.intercalate_singleton] at hdecode

/-! ### Writing -/

/-- Escaping a byte gives an escaped byte. -/
theorem isEscapedByte_escapeByte (b : UInt8) : IsEscapedByte b (escapeByte b) := by
  unfold escapeByte
  split
  · next hplain =>
      have apart (c : UInt8) (hc : ¬ isPlain c) : b ≠ c := by
        rintro rfl
        exact hc hplain
      exact .plain (apart _ (by decide)) (apart _ (by decide)) (apart _ (by decide))
  · split
    · next hspace => exact hspace ▸ .space
    · have hdigit : ∀ n < 16,
          Text.Hex.byteValue? (.ofNat (Text.Hex.capital n).toNat) = some n := by decide
      have hb : b.toNat < 256 := b.toNat_lt
      have hdigits := IsEscapedByte.digits (hdigit (b.toNat / 16) (by omega))
        (hdigit (b.toNat % 16) (by omega))
      rwa [Nat.div_add_mod, UInt8.ofNat_toNat] at hdigits

/-- **What the writer of forms writes** is escaped. -/
theorem isEscaped_encodePart (s : String) : IsEscaped (Text.Utf8.encode s) (encodePart s) := by
  unfold encodePart
  induction Text.Utf8.encode s with
  | nil => exact .nil
  | cons b bs ih => exact .cons (isEscapedByte_escapeByte b) ih

/-- The writer of forms escapes equals signs. -/
theorem equals_not_mem_encodePart (s : String) : 0x3D ∉ encodePart s := by
  intro hmem
  obtain ⟨b, -, hb⟩ := List.mem_flatMap.mp hmem
  unfold escapeByte at hb
  split at hb
  · next hplain =>
      obtain rfl := List.mem_singleton.mp hb
      exact absurd hplain (by decide)
  · split at hb
    · exact absurd hb (by decide)
    · have hdigit : ∀ n < 16, UInt8.ofNat (Text.Hex.capital n).toNat ≠ 0x3D := by decide
      have hbyte : b.toNat < 256 := b.toNat_lt
      have hfirst := hdigit (b.toNat / 16) (by omega)
      have hsecond := hdigit (b.toNat % 16) (by omega)
      simp [Net.Percent.byte, hfirst.symm, hsecond.symm] at hb

/-- **Forms** that are written are read back. -/
theorem decode_encode (pairs : List (String × String)) : decode (encode pairs) = pairs :=
  decode_fields fun (name, value) _ =>
    ⟨_, _, isEscaped_encodePart name, equals_not_mem_encodePart name, isEscaped_encodePart value,
      rfl⟩

end Notification.Form

end Switchboard
