import Switchboard.Alias.DispatchId
import Switchboard.Proofs.Json.Codecs
import Switchboard.Proofs.Text.Digits

/-!
# Written identifiers

An identifier is written in one of the four forms in which it may be read. The form is recognised by
its 36 bytes, the hyphens are in their places because the groups have their sizes, and what is between
the hyphens are the 32 digits of the number.

## Main results

* `DispatchId.number_digitsOf`: the digits of a number are read as its remainder.
* `DispatchId.parse_text`: a written identifier is read back.
-/

namespace Switchboard.Alias.DispatchId

open Text

/-! ### Digits -/

/-- A number is written with as many digits as it is asked for. -/
theorem length_digitsOf (count n : Nat) : (digitsOf count n).length = count := by
  induction count generalizing n with
  | zero => rfl
  | succ count ih => rw [digitsOf, List.length_append, ih, List.length_singleton]

/-- The digits of identifiers are ASCII. -/
theorem toNat_lt_of_mem_digitsOf {count n : Nat} {c : Char} (h : c ∈ digitsOf count n) :
    c.toNat < 0x80 := by
  induction count generalizing n with
  | zero => exact absurd h List.not_mem_nil
  | succ count ih =>
      rw [digitsOf, List.mem_append, List.mem_singleton] at h
      rcases h with h | rfl
      · exact ih h
      · exact (Hex.value_digit (Nat.mod_lt n (by decide))).2

/-- **Digits** of a number are read as its remainder. The last digit is the remainder of sixteen. -/
theorem number_digitsOf (count n : Nat) :
    Text.Hex.number? (digitsOf count n) = some (n % 16 ^ count) := by
  change Hex.numberFrom 16 0 (digitsOf count n) = _
  induction count generalizing n with
  | zero => rw [digitsOf, Hex.numberFrom, Nat.pow_zero, Nat.mod_one]
  | succ count ih =>
      have hlast : n % 16 < 16 := Nat.mod_lt n (by decide)
      have hmod : 16 * (n / 16 % 16 ^ count) + n % 16 = n % 16 ^ (count + 1) := by
        rw [Nat.pow_succ', Nat.mod_mul, Nat.add_comm]
      rw [digitsOf, Hex.numberFrom_append, ih, Option.bind_some, Hex.numberFrom, (Hex.value_digit hlast).1]
      simp only [if_pos hlast, Hex.numberFrom, hmod]

/-! ### Groups -/

/-- Pieces of known sizes are cut out of the text that they make up. -/
theorem splitSizes_flatten (pieces : List (List Char)) :
    splitSizes (pieces.map List.length) pieces.flatten = pieces ++ [[]] := by
  induction pieces with
  | nil => rfl
  | cons piece pieces ih =>
      rw [List.map_cons, List.flatten_cons, splitSizes, List.take_left, List.drop_left, ih,
        List.cons_append]

/-- The hyphens stand in their places, with the groups between them. -/
theorem hyphenated_flatten {a b c d e : List Char} (ha : a.length = 8) (hb : b.length = 4)
    (hc : c.length = 4) (hd : d.length = 4) (he : e.length = 12) :
    hyphenated? [a, ['-'], b, ['-'], c, ['-'], d, ['-'], e].flatten =
      some (a ++ b ++ c ++ d ++ e) := by
  have hsplit := splitSizes_flatten [a, ['-'], b, ['-'], c, ['-'], d, ['-'], e]
  have hsizes : [a, ['-'], b, ['-'], c, ['-'], d, ['-'], e].map List.length =
      [8, 1, 4, 1, 4, 1, 4, 1, 12] := by
    simp only [List.map_cons, List.map_nil, List.length_singleton, ha, hb, hc, hd, he]
  rw [hsizes] at hsplit
  rw [hyphenated?, hsplit]
  rfl

/-- The groups of an identifier are its digits. -/
theorem hyphenated_chars (id : DispatchId) :
    hyphenated? id.chars = some (digitsOf 32 id.bits.toNat) := by
  have hlength := length_digitsOf 32 id.bits.toNat
  rw [chars]
  generalize digitsOf 32 id.bits.toNat = ds at hlength ⊢
  have hflatten : ds.take 8 ++ '-' :: (ds.drop 8).take 4 ++ '-' :: (ds.drop 12).take 4 ++
      '-' :: (ds.drop 16).take 4 ++ '-' :: ds.drop 20 =
        [ds.take 8, ['-'], (ds.drop 8).take 4, ['-'], (ds.drop 12).take 4, ['-'],
          (ds.drop 16).take 4, ['-'], ds.drop 20].flatten := by
    simp
  have hgroups : ds.take 8 ++ (ds.drop 8).take 4 ++ (ds.drop 12).take 4 ++ (ds.drop 16).take 4 ++
      ds.drop 20 = ds := by
    have htake (n m : Nat) : ds.take n ++ (ds.drop n).take m = ds.take (n + m) :=
      List.take_add.symm
    rw [htake 8 4, htake 12 4, htake 16 4, List.take_append_drop]
  rw [hflatten, hyphenated_flatten, hgroups]
  all_goals simp [hlength]

/-- An identifier is written in 36 bytes. -/
theorem length_encodeChars_chars (id : DispatchId) :
    (Text.Utf8.encodeChars id.chars).length = 36 := by
  have hlength := length_digitsOf 32 id.bits.toNat
  have hascii : ∀ c ∈ id.chars, c.toNat < 0x80 := by
    intro c hc
    simp only [chars, List.mem_append, List.mem_cons] at hc
    have hdigit (h : c ∈ digitsOf 32 id.bits.toNat) : c.toNat < 0x80 := toNat_lt_of_mem_digitsOf h
    have hhyphen (h : c = '-') : c.toNat < 0x80 := by
      rw [h]
      decide
    rcases hc with (((hc | hc | hc) | hc | hc) | hc | hc) | hc | hc
    · exact hdigit (List.mem_of_mem_take hc)
    · exact hhyphen hc
    · exact hdigit (List.mem_of_mem_drop (List.mem_of_mem_take hc))
    · exact hhyphen hc
    · exact hdigit (List.mem_of_mem_drop (List.mem_of_mem_take hc))
    · exact hhyphen hc
    · exact hdigit (List.mem_of_mem_drop (List.mem_of_mem_take hc))
    · exact hhyphen hc
    · exact hdigit (List.mem_of_mem_drop hc)
  have hbytes : (Text.Utf8.encodeChars id.chars).length = id.chars.length := by
    rw [Text.Utf8.encodeChars, List.length_flatMap]
    have hones : id.chars.map (fun c => (Text.Utf8.encodeChar c).length) =
        id.chars.map fun _ => 1 := by
      refine List.map_congr_left fun c hc => ?_
      rw [Text.Utf8.encodeChar, if_pos (hascii c hc)]
      rfl
    rw [hones, List.map_const', List.sum_replicate_nat, Nat.mul_one]
  rw [hbytes, chars]
  simp [hlength]

/-- **Written identifiers** are read back. -/
theorem parse_text (id : DispatchId) : parse id.text = .ok id := by
  have hnumber : Text.Hex.number? (digitsOf 32 id.bits.toNat) = some id.bits.toNat := by
    have hsmall : id.bits.toNat < 16 ^ 32 := id.bits.isLt
    rw [number_digitsOf, Nat.mod_eq_of_lt hsmall]
  have hid : ofDigitList (digitsOf 32 id.bits.toNat) = some id := by
    rw [ofDigitList, hnumber, Option.map_some, BitVec.ofNat_toNat, BitVec.setWidth_eq]
  have hlength := length_encodeChars_chars id
  rw [parse, text, String.toList_ofList, parseChars]
  simp only [hlength, hyphenated_chars, Option.bind_some, hid]
  rfl

/-! ### JSON strings -/

/-- **Identifiers** are read back from JSON. -/
theorem codec_faithful (levels : Nat) (id : DispatchId) : codec.Faithful levels id where
  fits := Json.Codec.fits_string levels id.text
  reads := by
    intro gap bytes rest hgap hbytes _
    change Json.IsStrictText levels (.string id.text) bytes at hbytes
    rw [Json.IsStrictText] at hbytes
    simp only [codec, Json.Reader.stringAs_quoted _ hgap hbytes, bind, Except.bind, parse_text]
    rfl

end Switchboard.Alias.DispatchId
