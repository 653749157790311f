import Mathlib.Tactic
import Switchboard.Text.Utf8

/-!
# Bytes of characters are read back

The bytes that a text is encoded in are read as the characters of the text, by the strict and
by the lenient reading, and the strict reading accepts no other bytes. The proof follows the four
widths of a character: `units_one` to `units_four` say which bytes are one character, by bounds on
their values, `encodeChar` stays within these bounds, and by `encodeChar_one` to `encodeChar_four`
it gives back the bytes within them.

## Main results

* `units_encodeChar_append`: the bytes of a character in front of other bytes.
* `decode_encodeChars`, `decodeLenient_encodeChars`: both readings undo the encoding.
* `decode_eq_some_iff`: the strict reading accepts what is an encoding, and nothing else.
* `exists_encodeChar_eq_cons`: where characters begin.
* `plain_or_high_of_mem_encodeChar`: beyond ASCII the encoding uses no ASCII bytes.
-/

namespace Switchboard.Text.Utf8

/-! ### Bytes that are one character -/

/-- A byte in a range. -/
theorem between_iff {low high b : UInt8} :
    (low ≤ b && b ≤ high) = true ↔ low.toNat ≤ b.toNat ∧ b.toNat ≤ high.toNat := by
  simp [UInt8.le_iff_toNat_le]

/-- Which bytes go on with a character. -/
theorem continues_iff {b : UInt8} : continues b ↔ 0x80 ≤ b.toNat ∧ b.toNat ≤ 0xBF := between_iff

/-- Which second byte a character of three bytes may have. -/
theorem opensThree_iff {a b : UInt8} :
    opensThree a b ↔ continues b ∧ (a.toNat = 0xE0 → 0xA0 ≤ b.toNat) ∧
      (a.toNat = 0xED → b.toNat ≤ 0x9F) := by
  simp only [opensThree, Bool.and_eq_true, Bool.or_eq_true, bne_iff_ne, decide_eq_true_eq,
    UInt8.le_iff_toNat_le, ne_eq, ← UInt8.toNat_inj, UInt8.reduceToNat, and_assoc, imp_iff_not_or]

/-- Which second byte a character of four bytes may have. -/
theorem opensFour_iff {a b : UInt8} :
    opensFour a b ↔ continues b ∧ (a.toNat = 0xF0 → 0x90 ≤ b.toNat) ∧
      (a.toNat = 0xF4 → b.toNat ≤ 0x8F) := by
  simp only [opensFour, Bool.and_eq_true, Bool.or_eq_true, bne_iff_ne, decide_eq_true_eq,
    UInt8.le_iff_toNat_le, ne_eq, ← UInt8.toNat_inj, UInt8.reduceToNat, and_assoc, imp_iff_not_or]

section Widths

variable {a b c d : UInt8} {rest : List UInt8}

/-- **One byte** is read as a character of ASCII. -/
theorem units_one (ha : a.toNat < 0x80) :
    units (a :: rest) = some (Char.ofNat a.toNat) :: units rest := by
  have hone : a < 0x80 := UInt8.lt_iff_toNat_lt.mpr ha
  rw [units.eq_def]
  simp only [if_pos hone]

/-- A byte from 0x80 on is no character of ASCII. -/
theorem not_one (ha : 0x80 ≤ a.toNat) : ¬ a < 0x80 := by
  rw [UInt8.lt_iff_toNat_lt]
  exact Nat.not_lt.mpr ha

/-- **Two bytes** are read as a character. -/
theorem units_two (ha : 0xC2 ≤ a.toNat ∧ a.toNat ≤ 0xDF) (hb : continues b) :
    units (a :: b :: rest) = some (Char.ofNat (a.toNat % 32 * 64 + tail b)) :: units rest := by
  have hone : ¬ a < 0x80 := not_one (by omega)
  have htwo : (0xC2 ≤ a && a ≤ 0xDF) = true := between_iff.mpr ha
  rw [units.eq_def]
  simp only [if_neg hone, if_pos htwo, if_pos hb]

/-- A byte beyond a range is not in it. -/
theorem not_between {low high : UInt8} (ha : high.toNat < a.toNat) :
    ¬ (low ≤ a && a ≤ high) = true := by
  rw [between_iff]
  omega

/-- **Three bytes** are read as a character. -/
theorem units_three (ha : 0xE0 ≤ a.toNat ∧ a.toNat ≤ 0xEF) (hb : opensThree a b)
    (hc : continues c) :
    units (a :: b :: c :: rest) =
      some (Char.ofNat (a.toNat % 16 * 4096 + tail b * 64 + tail c)) :: units rest := by
  have hone : ¬ a < 0x80 := not_one (by omega)
  have htwo : ¬ (0xC2 ≤ a && a ≤ 0xDF) = true := not_between ha.1
  have hthree : (0xE0 ≤ a && a ≤ 0xEF) = true := between_iff.mpr ha
  rw [units.eq_def]
  simp only [if_neg hone, if_neg htwo, if_pos hthree, if_pos hb, if_pos hc]

/-- **Four bytes** are read as a character. -/
theorem units_four (ha : 0xF0 ≤ a.toNat ∧ a.toNat ≤ 0xF4) (hb : opensFour a b)
    (hc : continues c) (hd : continues d) :
    units (a :: b :: c :: d :: rest) =
      some (Char.ofNat (a.toNat % 8 * 262144 + tail b * 4096 + tail c * 64 + tail d)) ::
        units rest := by
  have hone : ¬ a < 0x80 := not_one (by omega)
  have htwo : ¬ (0xC2 ≤ a && a ≤ 0xDF) = true := not_between (lt_of_lt_of_le (by decide) ha.1)
  have hthree : ¬ (0xE0 ≤ a && a ≤ 0xEF) = true := not_between ha.1
  have hfour : (0xF0 ≤ a && a ≤ 0xF4) = true := between_iff.mpr ha
  rw [units.eq_def]
  simp only [if_neg hone, if_neg htwo, if_neg hthree, if_pos hfour, if_pos hb, if_pos hc, if_pos hd]

end Widths

/-! ### Reading back -/

/-- A number below 256 is the value of its byte. -/
theorem toNat_ofNat_of_lt {n : Nat} (h : n < 256) : (UInt8.ofNat n).toNat = n := by
  rw [UInt8.toNat_ofNat']
  exact Nat.mod_eq_of_lt h

/-- A byte that carries six bits. -/
theorem continues_ofNat {n : Nat} (h : n < 64) :
    continues (.ofNat (0x80 + n)) ∧ tail (.ofNat (0x80 + n)) = n := by
  rw [continues_iff, tail, toNat_ofNat_of_lt (by omega)]
  omega

/-- Code points of characters lie below the surrogates or above them. -/
theorem toNat_bounds (c : Char) :
    c.toNat < 0xD800 ∨ 0xDFFF < c.toNat ∧ c.toNat < 0x110000 := c.valid

section Widths

variable {n : Nat} {rest : List UInt8}

/-- The bytes of a code point are read as its character, in each width. -/
theorem units_ofNat_one (h : n < 0x80) :
    units (.ofNat n :: rest) = some (Char.ofNat n) :: units rest := by
  have ha : (UInt8.ofNat n).toNat = n := toNat_ofNat_of_lt (by omega)
  rw [units_one (by omega), ha]

/-- A code that is written in two bytes is read back. -/
theorem units_ofNat_two (hlow : 0x80 ≤ n) (h : n < 0x800) :
    units (.ofNat (0xC0 + n / 64) :: .ofNat (0x80 + n % 64) :: rest) =
      some (Char.ofNat n) :: units rest := by
  obtain ⟨hb, hbtail⟩ := continues_ofNat (n := n % 64) (by omega)
  have ha : (UInt8.ofNat (0xC0 + n / 64)).toNat = 0xC0 + n / 64 := toNat_ofNat_of_lt (by omega)
  have hcode : (0xC0 + n / 64) % 32 * 64 + n % 64 = n := by omega
  rw [units_two (by omega) hb, ha, hbtail, hcode]

/-- A code that is written in three bytes is read back. -/
theorem units_ofNat_three (hlow : 0x800 ≤ n) (h : n < 0x10000) (hvalid : n < 0xD800 ∨ 0xDFFF < n) :
    units (.ofNat (0xE0 + n / 4096) :: .ofNat (0x80 + n / 64 % 64) :: .ofNat (0x80 + n % 64) ::
      rest) = some (Char.ofNat n) :: units rest := by
  obtain ⟨hb, hbtail⟩ := continues_ofNat (n := n / 64 % 64) (by omega)
  obtain ⟨hc, hctail⟩ := continues_ofNat (n := n % 64) (by omega)
  have ha : (UInt8.ofNat (0xE0 + n / 4096)).toNat = 0xE0 + n / 4096 :=
    toNat_ofNat_of_lt (by omega)
  have hopens : opensThree (.ofNat (0xE0 + n / 4096)) (.ofNat (0x80 + n / 64 % 64)) := by
    rw [opensThree_iff, ha, toNat_ofNat_of_lt (by omega)]
    exact ⟨hb, by omega, by omega⟩
  have hcode : (0xE0 + n / 4096) % 16 * 4096 + n / 64 % 64 * 64 + n % 64 = n := by omega
  rw [units_three (by omega) hopens hc, ha, hbtail, hctail, hcode]

/-- A code that is written in four bytes is read back. -/
theorem units_ofNat_four (hlow : 0x10000 ≤ n) (h : n < 0x110000) :
    units (.ofNat (0xF0 + n / 262144) :: .ofNat (0x80 + n / 4096 % 64) ::
      .ofNat (0x80 + n / 64 % 64) :: .ofNat (0x80 + n % 64) :: rest) =
        some (Char.ofNat n) :: units rest := by
  obtain ⟨hb, hbtail⟩ := continues_ofNat (n := n / 4096 % 64) (by omega)
  obtain ⟨hc, hctail⟩ := continues_ofNat (n := n / 64 % 64) (by omega)
  obtain ⟨hd, hdtail⟩ := continues_ofNat (n := n % 64) (by omega)
  have ha : (UInt8.ofNat (0xF0 + n / 262144)).toNat = 0xF0 + n / 262144 :=
    toNat_ofNat_of_lt (by omega)
  have hopens : opensFour (.ofNat (0xF0 + n / 262144)) (.ofNat (0x80 + n / 4096 % 64)) := by
    rw [opensFour_iff, ha, toNat_ofNat_of_lt (by omega)]
    exact ⟨hb, by omega, by omega⟩
  have hcode : (0xF0 + n / 262144) % 8 * 262144 + n / 4096 % 64 * 4096 + n / 64 % 64 * 64 +
      n % 64 = n := by omega
  rw [units_four (by omega) hopens hc hd, ha, hbtail, hctail, hdtail, hcode]

end Widths

/-- **One character.** The bytes of a character are read as this character. -/
theorem units_encodeChar_append (c : Char) (rest : List UInt8) :
    units (encodeChar c ++ rest) = some c :: units rest := by
  have hvalid := toNat_bounds c
  rw [← congrArg some (Char.ofNat_toNat c)]
  unfold encodeChar
  simp only
  split_ifs with hone htwo hthree
  · exact units_ofNat_one hone
  · exact units_ofNat_two (by omega) htwo
  · exact units_ofNat_three (by omega) hthree (by omega)
  · exact units_ofNat_four (by omega) (by omega)

/-- The bytes of characters are read as these characters. -/
theorem units_encodeChars (cs : List Char) : units (encodeChars cs) = cs.map some := by
  induction cs with
  | nil => simp [encodeChars, units]
  | cons c cs ih =>
      have hcons : encodeChars (c :: cs) = encodeChar c ++ encodeChars cs := List.flatMap_cons
      rw [hcons, units_encodeChar_append, ih, List.map_cons]

/-- Units that are all characters are their characters. -/
theorem sequence_map_some {α : Type} (xs : List α) : sequence (xs.map some) = some xs := by
  induction xs with
  | nil => rfl
  | cons x xs ih => rw [List.map_cons, sequence, ih, Option.map_some]

/-- **Strict reading** undoes the encoding. -/
theorem decode_encodeChars (cs : List Char) :
    decode (encodeChars cs) = some (String.ofList cs) := by
  rw [decode, decodeChars, units_encodeChars, sequence_map_some, Option.map_some]

/-- **Lenient reading** undoes the encoding. -/
theorem decodeLenient_encodeChars (cs : List Char) :
    decodeLenient (encodeChars cs) = String.ofList cs := by
  rw [decodeLenient, decodeLenientChars, units_encodeChars, List.map_map]
  exact congrArg String.ofList (List.map_id cs)

/-! ### Writing again -/

section Widths

variable {a b c d : UInt8}

/-- A code of a character is the code of this character. -/
theorem toNat_charOfNat {n : Nat} (h : n < 0xD800 ∨ 0xDFFF < n ∧ n < 0x110000) :
    (Char.ofNat n).toNat = n := by
  have hvalid : n.isValidChar := h
  rw [Char.ofNat, dif_pos hvalid]
  rfl

/-- A byte is that of its value. -/
theorem ofNat_eq_of_toNat {n : Nat} (h : n = a.toNat) : UInt8.ofNat n = a := by
  rw [h, UInt8.ofNat_toNat]

/-- The character of one byte is written as this byte. -/
theorem encodeChar_one (ha : a.toNat < 0x80) : encodeChar (Char.ofNat a.toNat) = [a] := by
  rw [encodeChar, toNat_charOfNat (by omega), if_pos ha, UInt8.ofNat_toNat]

/-- The character of two bytes is written as these bytes. -/
theorem encodeChar_two (ha : 0xC2 ≤ a.toNat ∧ a.toNat ≤ 0xDF) (hb : continues b) :
    encodeChar (Char.ofNat (a.toNat % 32 * 64 + tail b)) = [a, b] := by
  rw [continues_iff] at hb
  rw [tail, encodeChar, toNat_charOfNat (by omega), if_neg (by omega), if_pos (by omega),
    ofNat_eq_of_toNat (a := a) (by omega), ofNat_eq_of_toNat (a := b) (by omega)]

/-- The character of three bytes is written as these bytes. -/
theorem encodeChar_three (ha : 0xE0 ≤ a.toNat ∧ a.toNat ≤ 0xEF) (hb : opensThree a b)
    (hc : continues c) :
    encodeChar (Char.ofNat (a.toNat % 16 * 4096 + tail b * 64 + tail c)) = [a, b, c] := by
  rw [opensThree_iff, continues_iff] at hb
  rw [continues_iff] at hc
  rw [tail, tail, encodeChar, toNat_charOfNat (by omega), if_neg (by omega), if_neg (by omega),
    if_pos (by omega), ofNat_eq_of_toNat (a := a) (by omega),
    ofNat_eq_of_toNat (a := b) (by omega), ofNat_eq_of_toNat (a := c) (by omega)]

/-- The character of four bytes is written as these bytes. -/
theorem encodeChar_four (ha : 0xF0 ≤ a.toNat ∧ a.toNat ≤ 0xF4) (hb : opensFour a b)
    (hc : continues c) (hd : continues d) :
    encodeChar (Char.ofNat (a.toNat % 8 * 262144 + tail b * 4096 + tail c * 64 + tail d)) =
      [a, b, c, d] := by
  rw [opensFour_iff, continues_iff] at hb
  rw [continues_iff] at hc hd
  rw [tail, tail, tail, encodeChar, toNat_charOfNat (by omega), if_neg (by omega),
    if_neg (by omega), if_neg (by omega), ofNat_eq_of_toNat (a := a) (by omega),
    ofNat_eq_of_toNat (a := b) (by omega), ofNat_eq_of_toNat (a := c) (by omega),
    ofNat_eq_of_toNat (a := d) (by omega)]

end Widths

/-- A character that was read, in front of what was read behind it. -/
theorem encodeChars_of_cons {c : Char} {cs : List Char} {front rest : List UInt8}
    {others : List (Option Char)} (h : some c :: others = cs.map some)
    (hfront : encodeChar c = front)
    (hrest : ∀ {cs : List Char}, others = cs.map some → encodeChars cs = rest) :
    encodeChars cs = front ++ rest := by
  obtain ⟨d, ds, rfl, hd, hds⟩ := List.map_eq_cons_iff.mp h.symm
  have hcons : encodeChars (d :: ds) = encodeChar d ++ encodeChars ds := List.flatMap_cons
  rw [hcons, Option.some.inj hd, hfront, hrest hds.symm]

/-- Bytes that are read as characters throughout are the bytes of these characters: no ill-formed piece
is read as one. -/
theorem encodeChars_of_units {bytes : List UInt8} {cs : List Char}
    (h : units bytes = cs.map some) : encodeChars cs = bytes := by
  fun_induction units bytes generalizing cs with
  | case1 =>
      obtain rfl := List.map_eq_nil_iff.mp h.symm
      rfl
  | case2 a r ha ih => exact encodeChars_of_cons h (encodeChar_one (UInt8.lt_iff_toNat_lt.mp ha)) ih
  | case3 a _ ha b r hb ih => exact encodeChars_of_cons h (encodeChar_two (between_iff.mp ha) hb) ih
  | case6 a _ _ ha b hb c r hc ih =>
      exact encodeChars_of_cons h (encodeChar_three (between_iff.mp ha) hb hc) ih
  | case11 a _ _ _ ha b hb c hc d r hd ih =>
      exact encodeChars_of_cons h (encodeChar_four (between_iff.mp ha) hb hc hd) ih
  | case4 | case5 | case7 | case8 | case9 | case10 | case12 | case13 | case14 | case15 | case16
  | case17 | case18 =>
      obtain ⟨c, -, -, hc, -⟩ := List.map_eq_cons_iff.mp h.symm
      cases hc

/-- Units are characters if each of them is. -/
theorem sequence_eq_some_iff {α : Type} {units : List (Option α)} {xs : List α} :
    sequence units = some xs ↔ units = xs.map some := by
  constructor
  · intro h
    induction units generalizing xs with
    | nil =>
        obtain rfl := Option.some.inj h
        rfl
    | cons unit units ih =>
        cases unit with
        | none => cases h
        | some x =>
            obtain ⟨ys, hys, rfl⟩ := Option.map_eq_some_iff.mp h
            rw [ih hys, List.map_cons]
  · rintro rfl
    exact sequence_map_some xs

/-- **Strict reading** accepts the bytes of texts and no others. -/
theorem decode_eq_some_iff {bytes : List UInt8} {text : String} :
    decode bytes = some text ↔ encode text = bytes := by
  constructor
  · intro h
    obtain ⟨cs, hcs, rfl⟩ := Option.map_eq_some_iff.mp h
    rw [encode, String.toList_ofList]
    exact encodeChars_of_units (sequence_eq_some_iff.mp hcs)
  · rintro rfl
    rw [encode, decode_encodeChars, String.ofList_toList]

/-- The characters of a text that begins with the bytes of a character. -/
theorem exists_of_encodeChars_eq {cs : List Char} {c : Char} {rest : List UInt8}
    (h : encodeChars cs = encodeChar c ++ rest) : ∃ more, cs = c :: more ∧ encodeChars more = rest := by
  have hunits : cs.map some = some c :: units rest := by
    rw [← units_encodeChars, h, units_encodeChar_append]
  obtain ⟨d, more, rfl, hd, hmore⟩ := List.map_eq_cons_iff.mp hunits
  rw [Option.some.inj hd]
  exact ⟨more, rfl, encodeChars_of_units hmore.symm⟩

/-! ### Continuing bytes -/

/-- The first byte of a character does not go on with one. -/
theorem not_continues_ofNat {n : Nat} (hlow : n < 0x80 ∨ 0xC0 ≤ n) (h : n < 256) :
    ¬ continues (.ofNat n) := by
  rw [continues_iff, toNat_ofNat_of_lt h]
  omega

/-- A character begins with its only byte that continues no character. -/
theorem exists_encodeChar_eq_cons (c : Char) :
    ∃ b tail, encodeChar c = b :: tail ∧ ¬ continues b ∧ ∀ t ∈ tail, continues t := by
  have hvalid := toNat_bounds c
  have hcons (n : Nat) {tail : List UInt8} (htail : ∀ t ∈ tail, continues t) :
      ∀ t ∈ .ofNat (0x80 + n % 64) :: tail, continues t :=
    List.forall_mem_cons.mpr ⟨(continues_ofNat (Nat.mod_lt n (by decide))).1, htail⟩
  have hnil := List.forall_mem_nil (fun t => continues t = true)
  unfold encodeChar
  simp only
  split
  · exact ⟨_, _, rfl, not_continues_ofNat (by omega) (by omega), hnil⟩
  · split
    · exact ⟨_, _, rfl, not_continues_ofNat (by omega) (by omega), hcons _ hnil⟩
    · split
      · exact ⟨_, _, rfl, not_continues_ofNat (by omega) (by omega), hcons _ (hcons _ hnil)⟩
      · exact ⟨_, _, rfl, not_continues_ofNat (by omega) (by omega),
          hcons _ (hcons _ (hcons _ hnil))⟩

/-! ### ASCII bytes -/

/-- An ASCII character is one byte, and other characters have no bytes of ASCII. -/
theorem plain_or_high_of_mem_encodeChar {c : Char} {b : UInt8} (h : b ∈ encodeChar c) :
    (c.toNat < 0x80 ∧ b.toNat = c.toNat) ∨ 0x80 ≤ b.toNat := by
  have hvalid := toNat_bounds c
  unfold encodeChar at h
  simp only at h
  split at h
  · obtain rfl := List.mem_singleton.mp h
    rw [toNat_ofNat_of_lt (by omega)]
    omega
  · refine Or.inr ?_
    split at h
    · simp only [List.mem_cons, List.not_mem_nil, or_false] at h
      rcases h with rfl | rfl <;> rw [toNat_ofNat_of_lt (by omega)] <;> omega
    · split at h
      · simp only [List.mem_cons, List.not_mem_nil, or_false] at h
        rcases h with rfl | rfl | rfl <;> rw [toNat_ofNat_of_lt (by omega)] <;> omega
      · simp only [List.mem_cons, List.not_mem_nil, or_false] at h
        rcases h with rfl | rfl | rfl | rfl <;> rw [toNat_ofNat_of_lt (by omega)] <;> omega

end Switchboard.Text.Utf8
