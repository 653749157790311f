import Switchboard.Proofs.Json.Writing
import Switchboard.Proofs.Text.Digits

/-!
# Integers in JSON texts

An integer is written with its digits and, if it is negative, a sign. The reader collects digits as
long as the number fits into sixty-four bits, and refuses a zero in front of other digits, so what
has to be known of the digits is that they are the number's, and that the first one is no zero.

A double may be read as a neighbour of the one that was written. So the values that are surely read
back are those whose numbers are integers: `IsExact`.

## Main results

* `Reader.number_digits`: the digits of a number are read as the number.
* `isNumberText_int`: integers of sixty-four bits are read back.
* `IsExact.fits`: so are values with such integers.
-/

namespace Switchboard.Json

open Reader (byte)
open Text.Utf8 (encodeChar encodeChars)

/-- An integer of sixty-four bits, with or without sign. -/
def IsSixtyFourBit (n : Int) : Prop := -2 ^ 63 ≤ n ∧ n < 2 ^ 64

/-! ### Digits -/

/-- The codes of the digits. -/
theorem toNat_of_isDigit {c : Char} (h : c.isDigit) : 48 ≤ c.toNat ∧ c.toNat ≤ 57 := by
  simp only [Char.isDigit, Bool.and_eq_true, decide_eq_true_eq] at h
  exact ⟨UInt32.le_iff_toNat_le.mp h.1, UInt32.le_iff_toNat_le.mp h.2⟩

/-- A digit is one byte, which the reader takes for the same digit. -/
theorem byte_of_isDigit {c : Char} (h : c.isDigit) :
    encodeChar c = [byte c] ∧ (byte c).toNat = c.toNat ∧ Reader.isDigit (byte c) := by
  obtain ⟨hlow, hhigh⟩ := toNat_of_isDigit h
  have hvalue : (byte c).toNat = c.toNat := Text.Utf8.toNat_ofNat_of_lt (by omega)
  refine ⟨?_, hvalue, ?_⟩
  · rw [encodeChar, if_pos (show c.toNat < 0x80 by omega)]
    rfl
  · refine Text.Utf8.between_iff.mpr ?_
    rw [hvalue]
    exact ⟨hlow, hhigh⟩

/-- A number is written in digits. -/
theorem isDigit_of_mem_digits {n : Nat} {c : Char} (h : c ∈ Number.digits n) : c.isDigit :=
  Nat.isDigit_of_mem_toDigits (by decide) (by decide) h

/-- The digits of a number are read as the number, and the first one is a zero only if it is zero. -/
theorem exists_digits_eq_cons (n : Nat) :
    ∃ d ds, Number.digits n = d :: ds ∧ (∀ c ∈ d :: ds, c.isDigit) ∧
      Nat.ofDigitChars 10 (d :: ds) 0 = n ∧ (d = '0' → n = 0) := by
  have hvalue : Nat.ofDigitChars 10 (Number.digits n) 0 = n := Nat.ofDigitChars_ten_toDigits
  have hall : ∀ c ∈ Number.digits n, c.isDigit := fun c => isDigit_of_mem_digits
  obtain ⟨d, ds, hdigits, hzero⟩ := Text.exists_toDigits_eq_cons n
  have hdigits : Number.digits n = d :: ds := hdigits
  rw [hdigits] at hvalue hall
  exact ⟨d, ds, hdigits, hall, hvalue, hzero⟩

/-- More digits make no smaller number. -/
theorem le_ofDigitChars (cs : List Char) (n : Nat) : n ≤ Nat.ofDigitChars 10 cs n := by
  induction cs generalizing n with
  | nil => rw [Nat.ofDigitChars_nil]
  | cons c cs ih =>
      rw [Nat.ofDigitChars_cons]
      have hmore := ih (10 * n + (c.toNat - '0'.toNat))
      omega

namespace Reader

/-- Digits of a number that fits are collected to it. -/
theorem collect_digits {cs : List Char} (hdigits : ∀ c ∈ cs, c.isDigit) {n : Nat}
    (hfit : Nat.ofDigitChars 10 cs n ≤ maxUnsigned) :
    collect n (encodeChars cs) = (Nat.ofDigitChars 10 cs n, []) := by
  induction cs generalizing n with
  | nil => rfl
  | cons c cs ih =>
      obtain ⟨hc, hcs⟩ := List.forall_mem_cons.mp hdigits
      obtain ⟨hbytes, hvalue, hdigit⟩ := byte_of_isDigit hc
      rw [Nat.ofDigitChars_cons] at hfit ⊢
      have hnext := (le_ofDigitChars cs _).trans hfit
      rw [encodeChars_cons hbytes, collect, if_pos hdigit, hvalue]
      simp only [show (0x30 : Nat) = '0'.toNat from rfl, if_pos hnext]
      exact ih hcs hfit

/-- Digits in front of a text are collected if they fit. The first one is no zero. -/
theorem number_front (positive : Bool) {d : Char} {ds : List Char} (hzero : d ≠ '0')
    (hdigits : ∀ c ∈ d :: ds, c.isDigit) (hfit : Nat.ofDigitChars 10 (d :: ds) 0 ≤ maxUnsigned)
    {rest : List UInt8} (hrest : ¬ startsWithDigit rest) :
    number positive (encodeChars (d :: ds) ++ rest) =
      afterDigits positive (Nat.ofDigitChars 10 (d :: ds) 0) 0 rest := by
  obtain ⟨hd, hds⟩ := List.forall_mem_cons.mp hdigits
  obtain ⟨hbytes, hsame, hdigit⟩ := byte_of_isDigit hd
  have hne : byte d ≠ byte '0' := by
    intro heq
    have hcode : d.toNat = '0'.toNat := by rw [← hsame, heq]; rfl
    exact hzero (Char.toNat_inj.mp hcode)
  have hcount : countDigits rest = (0, rest) := by
    cases rest with
    | nil => rfl
    | cons b r => exact if_neg hrest
  rw [Nat.ofDigitChars_cons, Nat.mul_zero, Nat.zero_add] at hfit ⊢
  rw [encodeChars_cons hbytes, List.cons_append, number, if_neg hne, if_pos hdigit, hsame,
    show (0x30 : Nat) = '0'.toNat from rfl, collect_append hrest, collect_digits hds hfit]
  simp only [List.nil_append, hcount]

/-- **Digits** of a number are read as the number. -/
theorem number_digits (positive : Bool) {n : Nat} (hpos : 0 < n) (hfit : n ≤ maxUnsigned) :
    number positive (encodeChars (Number.digits n)) = afterDigits positive n 0 [] := by
  obtain ⟨d, ds, hdigits, hall, hvalue, hzero⟩ := exists_digits_eq_cons n
  rw [hdigits]
  have hend : ¬ startsWithDigit [] := by simp [startsWithDigit]
  have hread := number_front positive (mt hzero (Nat.ne_of_gt hpos)) hall (hvalue.trans_le hfit) hend
  rwa [List.append_nil, hvalue] at hread

end Reader

/-- **Integers** of sixty-four bits are read back. -/
theorem isNumberText_int {n : Int} (h : IsSixtyFourBit n) :
    IsNumberText (.int n) (encodeChars (Number.text (.int n))) := by
  obtain ⟨hlow, hhigh⟩ := h
  cases n with
  | ofNat n =>
      rw [Int.ofNat_eq_natCast] at hhigh
      refine .inr ?_
      rcases Nat.eq_zero_or_pos n with rfl | hpos
      · exact ⟨_, _, rfl, by decide, rfl⟩
      · have hfit : n ≤ Reader.maxUnsigned := by
          change n ≤ 18446744073709551615
          omega
        have hread := Reader.number_digits true hpos hfit
        obtain ⟨d, ds, hdigits, hall, -⟩ := exists_digits_eq_cons n
        obtain ⟨hbytes, -, hdigit⟩ := byte_of_isDigit (hall d List.mem_cons_self)
        change ∃ b r, encodeChars (Number.digits n) = b :: r ∧ _ ∧
          Reader.number true (encodeChars (Number.digits n)) = _
        refine ⟨byte d, encodeChars ds, ?_, hdigit, hread⟩
        rw [hdigits, encodeChars_cons hbytes]
  | negSucc n =>
      rw [Int.negSucc_eq] at hlow
      have hfit : n + 1 ≤ Reader.maxUnsigned := by
        change n + 1 ≤ 18446744073709551615
        omega
      have hread := Reader.number_digits false (Nat.succ_pos n) hfit
      have hsmall : ¬ (n + 1 = 0 ∨ Nat.pow 2 63 < n + 1) := by
        change ¬ (n + 1 = 0 ∨ 9223372036854775808 < n + 1)
        omega
      refine .inl ⟨encodeChars (Number.digits (n + 1)), encodeChars_cons rfl _, ?_⟩
      rw [hread, Reader.afterDigits_nil, Reader.bare, if_pos rfl, if_neg Bool.false_ne_true,
        if_neg hsmall]
      rfl

/-! ### Values -/

/-- The values that are surely read back: arrays and objects are nested at most `levels` deep, no
object repeats a key, and all numbers are integers of sixty-four bits. -/
def IsExact : (levels : Nat) → Value → Prop
  | _, .null => True
  | _, .bool _ => True
  | _, .number (.int n) => IsSixtyFourBit n
  | _, .number (.double _) => False
  | _, .string _ => True
  | 0, .array _ => False
  | inner + 1, .array items => ∀ item ∈ items, IsExact inner item
  | 0, .object _ => False
  | inner + 1, .object members =>
    (members.map Prod.fst).Nodup ∧ ∀ member ∈ members, IsExact inner member.2

/-- **Exact values** are read back from their compact text. -/
theorem IsExact.fits {levels : Nat} {v : Value} (h : IsExact levels v) : Fits levels v := by
  induction levels using Nat.strong_induction_on generalizing v with
  | _ levels ih =>
      cases v with
      | null => rw [Fits]; trivial
      | bool b => rw [Fits]; trivial
      | number n =>
          cases n with
          | int n =>
              rw [IsExact] at h
              rw [Fits]
              exact isNumberText_int h
          | double bits => rw [IsExact] at h; exact h.elim
      | string s => rw [Fits]; trivial
      | array items =>
          cases levels with
          | zero => rw [IsExact] at h; exact h.elim
          | succ inner =>
              rw [IsExact] at h
              rw [Fits]
              exact fun item hitem => ih inner (Nat.lt_succ_self inner) (h item hitem)
      | object members =>
          cases levels with
          | zero => rw [IsExact] at h; exact h.elim
          | succ inner =>
              rw [IsExact] at h
              rw [Fits]
              exact ⟨h.1, fun member hmember =>
                ih inner (Nat.lt_succ_self inner) (h.2 member hmember)⟩

end Switchboard.Json
