import Switchboard.Proofs.Decimal.Shortest
import Switchboard.Proofs.Json.Integers
import Switchboard.Proofs.Json.Scaling

/-!
# Doubles in JSON texts

A double that was read is written with a decimal that stands for it, and that is read again, though
perhaps as a neighbour. That it is read at all is not a matter of course: the reader refuses what is
too large, and rounds on the way. Most decimals are modest enough for it (`Reader.IsModest`). The two
largest doubles are not, and their decimals are read by calculation.

A decimal has three kinds of text: with the point inside or behind its digits, with the point before
them, and with an exponent. In each of them the digits are read up to the point and then behind it,
where the reader collects them as long as they fit (`collect_front`) and leaves out the rest.

## Main results

* `Reader.isLegible_number`: numbers that are read are in the range of their kind.
* `isUnsignedText_decimalText`: modest decimals are read, in every form of the text.
* `Number.exists_isNumberText`: numbers in the range of their kind are read from their texts.
-/

namespace Switchboard.Json

open Reader (byte)
open Text.Utf8 (encodeChar encodeChars)

/-- A number in the range of its kind: an integer of sixty-four bits, or a finite double. -/
def Number.IsLegible : Number → Prop
  | .int n => IsSixtyFourBit n
  | .double bits => bits.toNat % 2 ^ 63 < 2047 * 2 ^ 52

namespace Reader

variable {positive : Bool} {digits dropped : Nat} {e : Int} {bytes left : List UInt8} {n : Number}

/-! ### Numbers that are read -/

/-- Collected digits stay within the integers. -/
theorem collect_le {k : Nat} (hk : k ≤ maxUnsigned) (bytes : List UInt8) :
    (collect k bytes).1 ≤ maxUnsigned := by
  induction bytes generalizing k with
  | nil => exact hk
  | cons b r ih =>
      rw [collect]
      simp only
      split_ifs with hdigit hfit
      · exact ih hfit
      · exact hk
      · exact hk

/-- A number that is scaled to a double is legible. -/
theorem isLegible_double (hdigits : digits ≤ maxUnsigned)
    (h : double positive digits e bytes = .ok (n, left)) : n.IsLegible := by
  unfold double at h
  split at h
  · exact absurd h (by simp [refuse])
  · next x hx =>
      simp only [Except.ok.injEq, Prod.mk.injEq] at h
      obtain ⟨rfl, -⟩ := h
      have hsmall : digits < Binary.power 64 := by
        rw [Binary.power_eq]
        exact Nat.lt_succ_of_le hdigits
      have hbits := Binary.bits_lt (lt_limit_of_scale hx (ofNat_lt hsmall) (by decide))
      generalize Binary.bits x = found at hbits
      rw [Number.IsLegible, UInt64.toNat_ofNat']
      cases positive <;> simp only [Bool.false_eq_true, if_false, if_true, Nat.pow_eq] <;> omega

/-- A number with the digits of an exponent is legible. -/
theorem isLegible_exponentDigits (hdigits : digits ≤ maxUnsigned) {up : Bool}
    (h : exponentDigits positive digits e up bytes = .ok (n, left)) : n.IsLegible := by
  cases bytes with
  | nil => exact absurd h (by simp [exponentDigits, refuse])
  | cons b r =>
      simp only [exponentDigits] at h
      split at h
      · split at h
        · split at h
          · exact absurd h (by simp [refuse])
          · exact isLegible_double (Nat.zero_le _) h
        · exact isLegible_double hdigits h
      · exact absurd h (by simp [refuse])

/-- A number with an exponent and its sign is legible. -/
theorem isLegible_exponent (hdigits : digits ≤ maxUnsigned)
    (h : exponent positive digits e bytes = .ok (n, left)) : n.IsLegible := by
  cases bytes with
  | nil => exact absurd h (by simp [exponent, refuse])
  | cons b r =>
      rw [exponent_cons] at h
      split_ifs at h <;> exact isLegible_exponentDigits hdigits h

/-- A number without more digits is legible. -/
theorem isLegible_bare (hdigits : digits ≤ maxUnsigned)
    (h : bare positive digits dropped bytes = .ok (n, left)) : n.IsLegible := by
  have hmax : maxUnsigned = 2 ^ 64 - 1 := rfl
  unfold bare at h
  split_ifs at h with hdropped hpositive hlarge
  · simp only [Except.ok.injEq, Prod.mk.injEq] at h
    obtain ⟨rfl, -⟩ := h
    exact ⟨by omega, by omega⟩
  · exact isLegible_double hdigits h
  · simp only [Except.ok.injEq, Prod.mk.injEq] at h
    obtain ⟨rfl, -⟩ := h
    rw [Nat.pow_eq] at hlarge
    exact ⟨by omega, by omega⟩
  · exact isLegible_double hdigits h

/-- A number with digits behind a point is legible. -/
theorem isLegible_fraction (hdigits : digits ≤ maxUnsigned)
    (h : fraction positive digits dropped bytes = .ok (n, left)) : n.IsLegible := by
  have hcollect := collect_le hdigits bytes
  unfold fraction at h
  simp only at h
  split at h
  · split at h
    · exact isLegible_double hcollect h
    · split_ifs at h
      · exact isLegible_exponent hcollect h
      · exact isLegible_double hcollect h
  · split at h <;> exact absurd h (by simp [refuse])

/-- A number is legible whatever belongs to it behind its first digits. -/
theorem isLegible_afterDigits (hdigits : digits ≤ maxUnsigned)
    (h : afterDigits positive digits dropped bytes = .ok (n, left)) : n.IsLegible := by
  cases bytes with
  | nil =>
      rw [afterDigits_nil] at h
      exact isLegible_bare hdigits h
  | cons b r =>
      rw [afterDigits_cons] at h
      split_ifs at h
      · exact isLegible_fraction hdigits h
      · exact isLegible_exponent hdigits h
      · exact isLegible_bare hdigits h

/-- **Numbers that are read** are in the range of their kind. -/
theorem isLegible_number (h : number positive bytes = .ok (n, left)) : n.IsLegible := by
  cases bytes with
  | nil => exact absurd h (by simp [number, refuse])
  | cons b r =>
      rw [number] at h
      split_ifs at h with hzero hstart hdigit
      · exact absurd h (by simp [refuse])
      · exact isLegible_afterDigits (Nat.zero_le _) h
      · have hfirst : b.toNat - 0x30 ≤ maxUnsigned :=
          (Nat.sub_le _ _).trans (b.toNat_lt.le.trans (by decide))
        exact isLegible_afterDigits (collect_le hfirst r) h
      · exact absurd h (by simp [refuse])

end Reader

/-- **Numbers** that are read are legible. -/
theorem IsNumberText.isLegible {n : Number} {bytes : List UInt8} (h : IsNumberText n bytes) :
    n.IsLegible := by
  rcases h with ⟨r, -, hread⟩ | ⟨b, r, -, -, hread⟩
  · exact Reader.isLegible_number hread
  · exact Reader.isLegible_number hread

/-! ### Digits in a text -/

namespace Reader

variable {positive : Bool} {digits k : Nat} {e : Int} {cs : List Char} {left rest : List UInt8}

/-- A byte that is no digit does not begin a number. -/
theorem not_startsWithDigit_cons {b : UInt8} (hb : ¬ isDigit b) (r : List UInt8) :
    ¬ startsWithDigit (b :: r) := hb

/-- Digits take one byte each. -/
theorem length_digits (hdigits : ∀ c ∈ cs, c.isDigit) : (encodeChars cs).length = cs.length := by
  induction cs with
  | nil => rfl
  | cons c cs ih =>
      obtain ⟨hc, hcs⟩ := List.forall_mem_cons.mp hdigits
      rw [encodeChars_cons (byte_of_isDigit hc).1, List.length_cons, ih hcs, List.length_cons]

/-- Where there is nothing but digits, all of them are counted. -/
theorem countDigits_digits (hdigits : ∀ c ∈ cs, c.isDigit) :
    countDigits (encodeChars cs) = (cs.length, []) := by
  induction cs with
  | nil => rfl
  | cons c cs ih =>
      obtain ⟨hc, hcs⟩ := List.forall_mem_cons.mp hdigits
      obtain ⟨hbytes, -, hdigit⟩ := byte_of_isDigit hc
      rw [encodeChars_cons hbytes, countDigits, if_pos hdigit, ih hcs, List.length_cons]

/-- **Digits that are collected** are the first ones, as many as fit. -/
theorem collect_front (hdigits : ∀ c ∈ cs, c.isDigit) (hk : k ≤ maxUnsigned) :
    ∃ front back, cs = front ++ back ∧ Nat.ofDigitChars 10 front k ≤ maxUnsigned ∧
      collect k (encodeChars cs) = (Nat.ofDigitChars 10 front k, encodeChars back) := by
  induction cs generalizing k with
  | nil => exact ⟨[], [], rfl, hk, rfl⟩
  | cons c cs ih =>
      obtain ⟨hc, hcs⟩ := List.forall_mem_cons.mp hdigits
      obtain ⟨hbytes, hvalue, hdigit⟩ := byte_of_isDigit hc
      rw [encodeChars_cons hbytes, collect, if_pos hdigit, hvalue]
      simp only [show (0x30 : Nat) = '0'.toNat from rfl]
      split_ifs with hfit
      · obtain ⟨front, back, rfl, hmax, hcollect⟩ := ih hcs hfit
        rw [← Nat.ofDigitChars_cons] at hmax hcollect
        exact ⟨c :: front, back, rfl, hmax, hcollect⟩
      · exact ⟨[], c :: cs, rfl, hk, by rw [Nat.ofDigitChars_nil, encodeChars_cons hbytes]⟩

/-- An exponent that fits is collected from its digits. -/
theorem collectExponent_digits (hdigits : ∀ c ∈ cs, c.isDigit)
    (hfit : Nat.ofDigitChars 10 cs k ≤ maxExponent) :
    collectExponent k (encodeChars cs) = (Nat.ofDigitChars 10 cs k, false, []) := by
  induction cs generalizing k with
  | nil => rfl
  | cons c cs ih =>
      obtain ⟨hc, hcs⟩ := List.forall_mem_cons.mp hdigits
      obtain ⟨hbytes, hvalue, hdigit⟩ := byte_of_isDigit hc
      rw [Nat.ofDigitChars_cons] at hfit ⊢
      have hnext := (le_ofDigitChars cs _).trans hfit
      rw [encodeChars_cons hbytes, collectExponent, if_pos hdigit, hvalue]
      simp only [show (0x30 : Nat) = '0'.toNat from rfl, if_pos hnext]
      exact ih hcs hfit

/-- What is left out behind collected digits makes a number no smaller. -/
theorem ofDigitChars_mul_le (cs : List Char) (k : Nat) :
    k * 10 ^ cs.length ≤ Nat.ofDigitChars 10 cs k := by
  rw [Nat.ofDigitChars_eq_ofDigitChars_zero, Nat.mul_comm]
  exact Nat.le_add_right _ _

/-! ### Parts of a text -/

/-- A number that can be scaled is read. -/
theorem exists_double_of_scale (h : ∃ y, scale 4 (Binary.ofNat digits) e = some y)
    (left : List UInt8) : ∃ n, double positive digits e left = .ok (n, left) := by
  obtain ⟨y, hy⟩ := h
  rw [double, hy]
  exact ⟨_, rfl⟩

/-- Digits that are not multiplied are read. -/
theorem exists_scale_of_nonpos (hdigits : digits ≤ maxUnsigned) (he : e ≤ 0) :
    ∃ y, scale 4 (Binary.ofNat digits) e = some y := by
  rcases he.lt_or_eq with hneg | rfl
  · exact exists_scale_of_neg hneg 4 _
  · have hmodest : IsModest (digits * 10 ^ 0) := by
      have hlarge : Binary.power 200 ≤ Binary.power 1076 := Binary.power_le_power (by decide)
      have hmax : maxUnsigned = 2 ^ 64 - 1 := rfl
      rw [Binary.power_eq 200] at hlarge
      rw [IsModest]
      omega
    exact exists_scale_of_isModest hmodest

/-- **Behind the point**, digits are collected as long as they fit. Then the text ends, or there is an
exponent. -/
theorem fraction_digits (positive : Bool) (hdigits : ∀ c ∈ cs, c.isDigit) (hne : cs ≠ [])
    (hk : k ≤ maxUnsigned) :
    ∃ front back, cs = front ++ back ∧ Nat.ofDigitChars 10 front k ≤ maxUnsigned ∧
      fraction positive k 0 (encodeChars cs) =
        double positive (Nat.ofDigitChars 10 front k) (-front.length) [] ∧
      ∀ r, fraction positive k 0 (encodeChars cs ++ byte 'e' :: r) =
        exponent positive (Nat.ofDigitChars 10 front k) (-front.length) r := by
  obtain ⟨front, back, rfl, hmax, hcollect⟩ := collect_front hdigits hk
  obtain ⟨hfront, hback⟩ := List.forall_mem_append.mp hdigits
  have hstarts : startsWithDigit (encodeChars (front ++ back)) := by
    obtain ⟨c, cs, hcs⟩ := List.exists_cons_of_ne_nil hne
    obtain ⟨hbytes, -, hdigit⟩ := byte_of_isDigit (hdigits c (hcs ▸ List.mem_cons_self))
    rw [hcs, encodeChars_cons hbytes]
    exact hdigit
  have hlength : (encodeChars (front ++ back)).length - (encodeChars back).length =
      front.length := by
    rw [length_digits hdigits, length_digits hback, List.length_append, Nat.add_sub_cancel]
  refine ⟨front, back, rfl, hmax, ?_, fun r => ?_⟩
  · unfold fraction
    simp only [hcollect, countDigits_digits hback, hstarts, if_true, hlength]
    rw [Nat.cast_zero, zero_sub]
  · have hrest : ¬ startsWithDigit (byte 'e' :: r) := not_startsWithDigit_cons (by decide) r
    unfold fraction
    rw [collect_append hrest, startsWithDigit_append hrest, hcollect]
    simp only [countDigits_append hrest, countDigits_digits hback, hstarts, if_true,
      List.length_append, Nat.add_sub_add_right, hlength, List.nil_append, true_or]
    rw [Nat.cast_zero, zero_sub]

/-- **The exponent** is read from its sign and its digits. -/
theorem exponent_digits (positive : Bool) (digits : Nat) (e : Int) (up : Bool)
    (hk : k ≤ maxExponent) :
    exponent positive digits e
        (byte (if up then '+' else '-') :: encodeChars (Number.digits k)) =
      double positive digits (if up then e + k else e - k) [] := by
  have hread : exponentDigits positive digits e up (encodeChars (Number.digits k)) =
      double positive digits (if up then e + k else e - k) [] := by
    obtain ⟨d, ds, hdigits, hall, hvalue, -⟩ := exists_digits_eq_cons k
    rw [hdigits]
    obtain ⟨hd, hds⟩ := List.forall_mem_cons.mp hall
    obtain ⟨hbytes, hsame, hdigit⟩ := byte_of_isDigit hd
    rw [Nat.ofDigitChars_cons, Nat.mul_zero, Nat.zero_add] at hvalue
    have hcollect := collectExponent_digits hds (hvalue.trans_le hk)
    rw [hvalue] at hcollect
    rw [encodeChars_cons hbytes, exponentDigits, if_pos hdigit, hsame,
      show (0x30 : Nat) = '0'.toNat from rfl, hcollect]
    simp only [Bool.false_eq_true, if_false]
  rw [exponent_cons, ← hread]
  cases up with
  | true => rw [if_pos rfl, if_pos rfl]
  | false => rw [if_neg Bool.false_ne_true, if_neg (by decide), if_pos rfl]

/-- A digit in front of a text that begins with none. -/
theorem number_digit (positive : Bool) {d : Char} (hd : d.isDigit)
    (hrest : ¬ startsWithDigit rest) :
    number positive (encodeChars [d] ++ rest) =
      afterDigits positive (d.toNat - '0'.toNat) 0 rest := by
  by_cases hzero : d = '0'
  · subst hzero
    change number positive (byte '0' :: rest) = _
    rw [number, if_pos rfl, if_neg hrest]
    rfl
  · have hsmall : Nat.ofDigitChars 10 [d] 0 = d.toNat - '0'.toNat := by
      rw [Nat.ofDigitChars_cons, Nat.ofDigitChars_nil, Nat.mul_zero, Nat.zero_add]
    have hfit : d.toNat - '0'.toNat ≤ maxUnsigned := by
      have hmax : maxUnsigned = 2 ^ 64 - 1 := rfl
      have := (toNat_of_isDigit hd).2
      omega
    rw [← hsmall]
    exact number_front positive hzero (by simpa using hd) (hsmall.trans_le hfit) hrest

end Reader

/-! ### Texts of decimals -/

/-- A text that is read as a number, with a sign in front or without. -/
def IsUnsignedText (cs : List Char) : Prop :=
  (∃ d ds, cs = d :: ds ∧ d.isDigit) ∧
    ∀ positive, ∃ n, Reader.number positive (encodeChars cs) = .ok (n, [])

variable {d : Char} {ds back : List Char}

/-- Digits on both sides of a point. -/
theorem isUnsignedText_point (hzero : d ≠ '0') (hdigits : ∀ c ∈ d :: ds, c.isDigit)
    (hfit : Nat.ofDigitChars 10 (d :: ds) 0 ≤ Reader.maxUnsigned)
    (hback : ∀ c ∈ back, c.isDigit) (hne : back ≠ []) :
    IsUnsignedText (d :: ds ++ '.' :: back) := by
  refine ⟨⟨d, _, rfl, hdigits d List.mem_cons_self⟩, fun positive => ?_⟩
  obtain ⟨front, left, -, hmax, hread, -⟩ := Reader.fraction_digits positive hback hne hfit
  rw [encodeChars_append, encodeChars_cons (c := '.') rfl,
    Reader.number_front positive hzero hdigits hfit (Reader.not_startsWithDigit_cons (by decide) _),
    Reader.afterDigits_cons, if_pos rfl, hread]
  exact Reader.exists_double_of_scale (Reader.exists_scale_of_nonpos hmax (by simp)) []

/-- A zero in front of a point. -/
theorem isUnsignedText_zero_point (hback : ∀ c ∈ back, c.isDigit) (hne : back ≠ []) :
    IsUnsignedText ('0' :: '.' :: back) := by
  refine ⟨⟨'0', _, rfl, by decide⟩, fun positive => ?_⟩
  obtain ⟨front, left, -, hmax, hread, -⟩ :=
    Reader.fraction_digits positive hback hne (Nat.zero_le Reader.maxUnsigned)
  have hdigit := Reader.number_digit positive (d := '0') (by decide)
    (Reader.not_startsWithDigit_cons (b := byte '.') (by decide) (encodeChars back))
  rw [← encodeChars_cons (c := '.') rfl, ← encodeChars_append] at hdigit
  change Reader.number positive (encodeChars ('0' :: '.' :: back)) = _ at hdigit
  rw [hdigit, encodeChars_cons rfl, Reader.afterDigits_cons, if_pos rfl]
  change ∃ n, Reader.fraction positive 0 0 _ = _
  rw [hread]
  exact Reader.exists_double_of_scale (Reader.exists_scale_of_nonpos hmax (by simp)) []

/-- The digits of a number with an exponent: a point behind the first digit if there are more. -/
def mantissa (d : Char) : List Char → List Char
  | [] => [d]
  | c :: cs => d :: '.' :: c :: cs

/-- A text with an exponent is read if it can be scaled, however many of its digits are collected. -/
theorem isUnsignedText_exponent (hdigits : ∀ c ∈ d :: ds, c.isDigit) (up : Bool) {k : Nat}
    (hk : k ≤ Reader.maxExponent)
    (hscale : ∀ front back, ds = front ++ back →
      Nat.ofDigitChars 10 front (d.toNat - '0'.toNat) ≤ Reader.maxUnsigned →
      ∃ y, Reader.scale 4 (Binary.ofNat (Nat.ofDigitChars 10 front (d.toNat - '0'.toNat)))
        (if up then -(front.length : Int) + k else -(front.length : Int) - k) = some y) :
    IsUnsignedText (mantissa d ds ++ 'e' :: (if up then '+' else '-') :: Number.digits k) := by
  obtain ⟨hd, hds⟩ := List.forall_mem_cons.mp hdigits
  have hfirst : d.toNat - '0'.toNat ≤ Reader.maxUnsigned := by
    have hmax : Reader.maxUnsigned = 2 ^ 64 - 1 := rfl
    have := (toNat_of_isDigit hd).2
    omega
  have htail : encodeChars ('e' :: (if up then '+' else '-') :: Number.digits k) =
      byte 'e' :: byte (if up then '+' else '-') :: encodeChars (Number.digits k) := by
    cases up <;> rfl
  have he : byte 'e' ≠ byte '.' := by decide
  cases ds with
  | nil =>
      refine ⟨⟨d, _, rfl, hd⟩, fun positive => ?_⟩
      have hscaled := hscale [] [] rfl hfirst
      rw [mantissa, encodeChars_append, htail, Reader.number_digit positive hd
        (Reader.not_startsWithDigit_cons (by decide) _), Reader.afterDigits_cons, if_neg he,
        if_pos (.inl rfl), Reader.exponent_digits positive _ _ up hk]
      exact Reader.exists_double_of_scale (by simpa using hscaled) []
  | cons c cs =>
      refine ⟨⟨d, _, rfl, hd⟩, fun positive => ?_⟩
      obtain ⟨front, left, hsplit, hmax, -, hread⟩ :=
        Reader.fraction_digits positive hds (List.cons_ne_nil c cs) hfirst
      have htext : mantissa d (c :: cs) ++ 'e' :: (if up then '+' else '-') :: Number.digits k =
          [d] ++ '.' :: ((c :: cs) ++ 'e' :: (if up then '+' else '-') :: Number.digits k) := rfl
      rw [htext, encodeChars_append, encodeChars_cons (c := '.') rfl, encodeChars_append, htail,
        Reader.number_digit positive hd (Reader.not_startsWithDigit_cons (by decide) _),
        Reader.afterDigits_cons, if_pos rfl, hread, Reader.exponent_digits positive _ _ up hk]
      exact Reader.exists_double_of_scale (hscale front left hsplit hmax) []

/-- Digits make a number with as many decimal places at most. -/
theorem ofDigitChars_lt {cs : List Char} (hdigits : ∀ c ∈ cs, c.isDigit) :
    Nat.ofDigitChars 10 cs 0 < 10 ^ cs.length := by
  induction cs with
  | nil => decide
  | cons c cs ih =>
      obtain ⟨hc, hcs⟩ := List.forall_mem_cons.mp hdigits
      have hvalue : c.toNat - '0'.toNat ≤ 9 := by
        have hcode : '0'.toNat = 48 := rfl
        have := (toNat_of_isDigit hc).2
        omega
      have hmore := ih hcs
      have hfirst := Nat.mul_le_mul_left (10 ^ cs.length) hvalue
      rw [Nat.ofDigitChars_cons, Nat.mul_zero, Nat.zero_add, Nat.ofDigitChars_eq_ofDigitChars_zero,
        List.length_cons, Nat.pow_succ]
      omega

/-- Up to sixteen digits are collected. -/
theorem ofDigitChars_le {cs : List Char} (hdigits : ∀ c ∈ cs, c.isDigit) (hlength : cs.length ≤ 16) :
    Nat.ofDigitChars 10 cs 0 ≤ Reader.maxUnsigned := by
  have hpower : 10 ^ cs.length ≤ 10 ^ 16 := Nat.pow_le_pow_right (by decide) hlength
  exact ((ofDigitChars_lt hdigits).le.trans hpower).trans (by decide)

/-- Zeros are digits. -/
theorem isDigit_of_mem_replicate {n : Nat} {c : Char} (h : c ∈ List.replicate n '0') :
    c.isDigit := by
  rw [List.eq_of_mem_replicate h]
  decide

section Decimals

variable {D : Nat} {E : Int} {c : Char} {cs front : List Char}

/-- **The first digits** of a modest decimal, with the exponent that makes up for the others, are
modest: leaving out digits makes no number larger. -/
theorem isModest_of_front (hvalue : Nat.ofDigitChars 10 cs (c.toNat - '0'.toNat) = D)
    (hmodest : ∀ n, n * 10 ^ (-E).toNat ≤ D * 10 ^ E.toNat → Reader.IsModest n)
    (hcs : cs = front ++ back) {j : Nat} (hj : E + back.length = j) :
    Reader.IsModest (Nat.ofDigitChars 10 front (c.toNat - '0'.toNat) * 10 ^ j) := by
  generalize hn : Nat.ofDigitChars 10 front (c.toNat - '0'.toNat) = n
  have hle : n * 10 ^ back.length ≤ D := by
    rw [← hvalue, hcs, Nat.ofDigitChars_append, hn]
    exact Reader.ofDigitChars_mul_le back n
  refine hmodest _ ?_
  rcases Int.lt_or_le E 0 with hbelow | habove
  · have hsum : j + (-E).toNat = back.length := by omega
    have hzero : E.toNat = 0 := by omega
    rw [Nat.mul_assoc, ← Nat.pow_add, hsum, hzero, Nat.pow_zero, Nat.mul_one]
    exact hle
  · have hsum : j = back.length + E.toNat := by omega
    have hzero : (-E).toNat = 0 := by omega
    rw [hzero, Nat.pow_zero, Nat.mul_one, hsum, Nat.pow_add, ← Nat.mul_assoc]
    exact Nat.mul_le_mul_right _ hle

/-- The digits in front of a point can be scaled, if the whole number is modest. -/
theorem exists_scale_front (hvalue : Nat.ofDigitChars 10 cs (c.toNat - '0'.toNat) = D)
    (hmodest : ∀ n, n * 10 ^ (-E).toNat ≤ D * 10 ^ E.toNat → Reader.IsModest n)
    (hcs : cs = front ++ back) :
    ∃ y, Reader.scale 4 (Binary.ofNat (Nat.ofDigitChars 10 front (c.toNat - '0'.toNat)))
      (E + back.length) = some y := by
  rcases Int.lt_or_le (E + back.length) 0 with hneg | hnonneg
  · exact Reader.exists_scale_of_neg hneg 4 _
  · obtain ⟨j, hj⟩ := Int.eq_ofNat_of_zero_le hnonneg
    rw [hj]
    exact Reader.exists_scale_of_isModest (isModest_of_front hvalue hmodest hcs hj)

/-- The exponent in front of a modest decimal is read as it is written. -/
theorem natAbs_le_of_isModest (hvalue : Nat.ofDigitChars 10 cs (c.toNat - '0'.toNat) = D)
    (hmodest : ∀ n, n * 10 ^ (-E).toNat ≤ D * 10 ^ E.toNat → Reader.IsModest n)
    (hlow : -721 ≤ E) (hpos : 0 ≤ E + cs.length → 0 < c.toNat - '0'.toNat) :
    (E + cs.length).natAbs ≤ Reader.maxExponent := by
  have hmax : Reader.maxExponent = 2 ^ 31 - 1 := rfl
  rcases Int.lt_or_le (E + cs.length) 0 with hneg | hnonneg
  · omega
  · obtain ⟨j, hj⟩ := Int.eq_ofNat_of_zero_le hnonneg
    have hmodest := isModest_of_front hvalue hmodest (List.nil_append cs).symm hj
    have hle := Reader.le_of_isModest hmodest (hpos hnonneg)
    omega

/-- The form with the point inside the digits or behind them: sixteen digits at most are in front of the
point. -/
theorem isUnsignedText_plain (hfirst : c ≠ '0') (hdigits : ∀ x ∈ c :: cs, x.isDigit) {lead : Nat}
    (hlead : lead ≤ 15) :
    IsUnsignedText
      (if cs.length + 1 ≤ lead + 1 then
        c :: cs ++ List.replicate (lead + 1 - (cs.length + 1)) '0' ++ ['.', '0']
      else (c :: cs).take (lead + 1) ++ '.' :: (c :: cs).drop (lead + 1)) := by
  split_ifs with hwhole
  · have hzeros : ∀ x ∈ c :: (cs ++ List.replicate (lead + 1 - (cs.length + 1)) '0'),
        x.isDigit := by
      rw [← List.cons_append]
      exact List.forall_mem_append.mpr ⟨hdigits, fun x => isDigit_of_mem_replicate⟩
    have hzero : ∀ x ∈ ['0'], x.isDigit := by simp
    have hfit := ofDigitChars_le hzeros (by
      simp only [List.length_cons, List.length_append, List.length_replicate]
      omega)
    exact isUnsignedText_point hfirst hzeros hfit hzero (List.cons_ne_nil _ _)
  · have hinside : ∀ x ∈ c :: cs.take lead, x.isDigit := fun x hx =>
      hdigits x (List.mem_of_mem_take (i := lead + 1) hx)
    have hbehind : ∀ x ∈ cs.drop lead, x.isDigit := fun x hx =>
      hdigits x (List.mem_cons_of_mem c (List.mem_of_mem_drop hx))
    have hfit := ofDigitChars_le hinside (by
      simp only [List.length_cons, List.length_take]
      omega)
    have hne : cs.drop lead ≠ [] := by
      rw [ne_eq, List.drop_eq_nil_iff]
      omega
    exact isUnsignedText_point hfirst hinside hfit hbehind hne

/-- The form with an exponent, which is the one of the first digit. -/
theorem isUnsignedText_scientific (hdigits : ∀ x ∈ c :: cs, x.isDigit)
    (hvalue : Nat.ofDigitChars 10 cs (c.toNat - '0'.toNat) = D)
    (hmodest : ∀ n, n * 10 ^ (-E).toNat ≤ D * 10 ^ E.toNat → Reader.IsModest n)
    (hlow : -721 ≤ E) (hfirst : 0 ≤ E + cs.length → c ≠ '0') :
    IsUnsignedText (mantissa c cs ++
      'e' :: (if E + cs.length < 0 then '-' else '+') :: Number.digits (E + cs.length).natAbs) := by
  have hpos (hlead : 0 ≤ E + cs.length) : 0 < c.toNat - '0'.toNat := by
    have hcode : c.toNat ≠ '0'.toNat := fun heq => hfirst hlead (Char.toNat_inj.mp heq)
    have hlow := (toNat_of_isDigit (hdigits c List.mem_cons_self)).1
    have hzero : '0'.toNat = 48 := rfl
    omega
  have hsign : (if E + cs.length < 0 then '-' else '+') =
      if decide (0 ≤ E + cs.length) then '+' else '-' := by
    rcases Int.lt_or_le (E + cs.length) 0 with hneg | hnonneg
    · rw [if_pos hneg, if_neg (by simpa using hneg)]
    · rw [if_neg (Int.not_lt.mpr hnonneg), if_pos (by simpa using hnonneg)]
  rw [hsign]
  refine isUnsignedText_exponent hdigits _ (natAbs_le_of_isModest hvalue hmodest hlow hpos) ?_
  intro front back hsplit _
  have hexponent : (if decide (0 ≤ E + cs.length) then -(front.length : Int) + (E + cs.length).natAbs
      else -(front.length : Int) - (E + cs.length).natAbs) = E + back.length := by
    have hlength : cs.length = front.length + back.length := by
      rw [hsplit, List.length_append]
    simp only [decide_eq_true_eq]
    split_ifs <;> omega
  rw [hexponent]
  exact exists_scale_front hvalue hmodest hsplit

/-- **Decimals** are read from their texts if they are modest, in every form of the text. Only far below
zero a decimal may have no digits. -/
theorem isUnsignedText_decimalText {d : Decimal} (hlow : -721 ≤ d.exponent)
    (hzero : d.digits = 0 → d.exponent < -5)
    (hmodest : ∀ n, n * 10 ^ (-d.exponent).toNat ≤ d.digits * 10 ^ d.exponent.toNat →
      Reader.IsModest n) :
    IsUnsignedText (Number.decimalText d) := by
  obtain ⟨D, E⟩ := d
  simp only at *
  obtain ⟨c, cs, hdigits, hall, hvalue, hc⟩ := exists_digits_eq_cons D
  rw [Nat.ofDigitChars_cons, Nat.mul_zero, Nat.zero_add] at hvalue
  have hfirst : -5 ≤ E + cs.length → c ≠ '0' := by
    intro hlead heq
    obtain rfl := hc heq
    have hnil : cs = [] := (List.cons.inj hdigits).2.symm
    have := hzero rfl
    rw [hnil] at hlead
    simp only [List.length_nil, Nat.cast_zero, add_zero] at hlead
    omega
  have hlead : E + ((cs.length + 1 : Nat) : Int) - 1 = E + cs.length := by
    rw [Nat.cast_succ]
    omega
  unfold Number.decimalText
  simp only [hdigits, List.length_cons, hlead]
  by_cases hplain : 0 ≤ E + cs.length ∧ E + cs.length ≤ 15
  · rw [if_pos hplain]
    exact isUnsignedText_plain (hfirst (by omega)) hall (by omega)
  rw [if_neg hplain]
  by_cases hbefore : -5 ≤ E + cs.length ∧ E + cs.length < 0
  · rw [if_pos hbefore]
    have hzeros : ∀ x ∈ List.replicate (-(E + cs.length) - 1).toNat '0' ++ c :: cs, x.isDigit :=
      List.forall_mem_append.mpr ⟨fun x => isDigit_of_mem_replicate, hall⟩
    simpa using isUnsignedText_zero_point hzeros (by simp)
  · have hmantissa : (if cs.length + 1 = 1 then c :: cs
        else (c :: cs).take 1 ++ '.' :: (c :: cs).drop 1) = mantissa c cs := by
      cases cs <;> rfl
    rw [if_neg hbefore, hmantissa]
    exact isUnsignedText_scientific hall hvalue hmodest hlow fun hlead => hfirst (by omega)

end Decimals

/-! ### Texts of doubles -/

/-- A natural number that is not above the interval of a double is modest, except for the two largest
doubles. -/
theorem isModest_of_le {n m : Nat} {q : Int} (hm : m < 2 ^ 53) (hq : q ≤ 971)
    (hlast : q = 971 → m < 2 ^ 53 - 2) (h : 2 * n ≤ (2 * m + 1) * 2 ^ q.toNat) :
    Reader.IsModest n := by
  have hsplit : Binary.power 1076 = 2 ^ 106 * Binary.power 970 :=
    (Binary.power_add 106 970).trans (by rw [Binary.power_eq 106])
  rw [Reader.IsModest, hsplit]
  rcases hq.lt_or_eq with hlow | rfl
  · have hpower : 2 ^ q.toNat ≤ Binary.power 970 := by
      rw [← Binary.power_eq]
      exact Binary.power_le_power (by omega)
    have hle : 2 * n ≤ (2 ^ 54 - 1) * Binary.power 970 :=
      h.trans (Nat.mul_le_mul (by omega) hpower)
    have hpos := Binary.power_pos 970
    omega
  · have hpower : 2 ^ Int.toNat 971 = 2 * Binary.power 970 := by
      rw [← Binary.power_eq]
      exact (Binary.power_add 1 970).trans (by rw [Binary.power_eq 1, Nat.pow_one])
    have hle : 2 * n ≤ (2 ^ 54 - 5) * (2 * Binary.power 970) :=
      h.trans (Nat.mul_le_mul (by have := hlast rfl; omega) hpower.le)
    have hpos := Binary.power_pos 970
    omega

/-- The decimals of the two largest doubles. -/
theorem search_largest :
    (Decimal.Rounding.ofDouble (2 ^ 53 - 1) 971 false).search 400 319 = ⟨17976931348623157, 292⟩ ∧
      (Decimal.Rounding.ofDouble (2 ^ 53 - 2) 971 false).search 400 319 =
        ⟨17976931348623155, 292⟩ := by
  decide +kernel

/-- They are read too, by calculation. -/
theorem isUnsignedText_largest {d : Decimal}
    (hd : d = ⟨17976931348623157, 292⟩ ∨ d = ⟨17976931348623155, 292⟩) :
    IsUnsignedText (Number.decimalText d) := by
  have hall : ∀ d ∈ [(⟨17976931348623157, 292⟩ : Decimal), ⟨17976931348623155, 292⟩],
      ((Number.decimalText d).head?.any Char.isDigit) ∧ ∀ positive,
        ((Reader.number positive (encodeChars (Number.decimalText d))).toOption.map Prod.snd) =
          some [] := by
    decide +kernel
  obtain ⟨hstarts, hreads⟩ := hall d (by simpa using hd)
  refine ⟨?_, fun positive => ?_⟩
  · obtain ⟨c, hc, hdigit⟩ := (Option.any_eq_true _ _).mp hstarts
    obtain ⟨cs, hcs⟩ := List.head?_eq_some_iff.mp hc
    exact ⟨c, cs, hcs, hdigit⟩
  · obtain ⟨⟨n, left⟩, hread, hleft⟩ := Option.map_eq_some_iff.mp (hreads positive)
    obtain rfl : left = [] := hleft
    exact ⟨n, toOption_eq_some_iff.mp hread⟩

/-- **Finite doubles** are read from their texts. -/
theorem isUnsignedText_shortest {bits : UInt64} (h : bits.toNat % 2 ^ 63 < 2047 * 2 ^ 52) :
    IsUnsignedText (Number.decimalText (Decimal.shortest bits)) := by
  obtain ⟨m, q, narrow, start, hshortest, hm, hq, hlow, hhigh, hlast⟩ := Decimal.exists_search h
  rw [hshortest]
  by_cases hlargest : q = 971 ∧ 2 ^ 53 - 2 ≤ m
  · obtain ⟨rfl, hm'⟩ := hlargest
    obtain ⟨rfl, rfl⟩ := hlast rfl (by omega)
    refine isUnsignedText_largest ?_
    obtain rfl | rfl : m = 2 ^ 53 - 1 ∨ m = 2 ^ 53 - 2 := by omega
    · exact .inl search_largest.1
    · exact .inr search_largest.2
  · obtain ⟨hexponent, hzero⟩ :=
      Decimal.Rounding.exponent_search (.ofDouble m q narrow) 400 start
    have hmost := Decimal.Rounding.atMost_search
      (show (Decimal.Rounding.ofDouble m q narrow).num ≤ _ from
        Nat.mul_le_mul_right _ (by omega)) 400 start
    generalize (Decimal.Rounding.ofDouble m q narrow).search 400 start = d at *
    refine isUnsignedText_decimalText (by omega) (fun hnone => by have := hzero hnone; omega)
      fun n hn => isModest_of_le hm hq (by omega) ?_
    have hden : 4 ≤ (Decimal.Rounding.ofDouble m q narrow).den :=
      Nat.le_mul_of_pos_right 4 (Nat.two_pow_pos _)
    have hle : n * 4 ≤ (4 * m + 2) * 2 ^ q.toNat := by
      refine Nat.le_of_mul_le_mul_right (c := 10 ^ (-d.exponent).toNat) ?_ (Nat.pow_pos (by decide))
      calc n * 4 * 10 ^ (-d.exponent).toNat = n * 10 ^ (-d.exponent).toNat * 4 := by ring
        _ ≤ d.digits * 10 ^ d.exponent.toNat * (Decimal.Rounding.ofDouble m q narrow).den :=
          Nat.mul_le_mul hn hden
        _ ≤ (4 * m + 2) * 2 ^ q.toNat * 10 ^ (-d.exponent).toNat := hmost
    have hhalf : (4 * m + 2) * 2 ^ q.toNat = 2 * ((2 * m + 1) * 2 ^ q.toNat) := by ring
    omega

/-- The text of a number is read as a number. -/
theorem IsUnsignedText.exists_isNumberText {cs : List Char} (h : IsUnsignedText cs) :
    ∃ n, IsNumberText n (encodeChars cs) := by
  obtain ⟨⟨d, ds, rfl, hd⟩, hreads⟩ := h
  obtain ⟨n, hread⟩ := hreads true
  obtain ⟨hbytes, -, hdigit⟩ := byte_of_isDigit hd
  exact ⟨n, .inr ⟨byte d, encodeChars ds, encodeChars_cons hbytes ds, hdigit, hread⟩⟩

/-- The text of a number with a sign in front is read as a number. -/
theorem IsUnsignedText.exists_isNumberText_minus {cs : List Char} (h : IsUnsignedText cs) :
    ∃ n, IsNumberText n (encodeChars ('-' :: cs)) := by
  obtain ⟨n, hread⟩ := h.2 false
  exact ⟨n, .inl ⟨encodeChars cs, encodeChars_cons rfl cs, hread⟩⟩

/-- **Numbers** in the range of their kind are read from their texts, though a double may be read as a
neighbour. -/
theorem Number.exists_isNumberText {n : Number} (h : n.IsLegible) :
    ∃ m, IsNumberText m (encodeChars n.text) := by
  cases n with
  | int n => exact ⟨_, isNumberText_int h⟩
  | double bits =>
      have htext : IsUnsignedText
          (if bits.toNat % Nat.pow 2 63 = 0 then ['0', '.', '0']
            else decimalText (Decimal.shortest bits)) := by
        split_ifs
        · exact isUnsignedText_zero_point (by simp) (List.cons_ne_nil _ _)
        · exact isUnsignedText_shortest h
      change ∃ m, IsNumberText m (encodeChars
        ((if bits.toNat / Nat.pow 2 63 = 1 then ['-'] else []) ++ _))
      by_cases hsign : bits.toNat / Nat.pow 2 63 = 1
      · rw [if_pos hsign]
        exact htext.exists_isNumberText_minus
      · rw [if_neg hsign]
        exact htext.exists_isNumberText

end Switchboard.Json
