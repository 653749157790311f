import Mathlib.Tactic
import Switchboard.Text.Hex
import Switchboard.Text.Whole

/-!
# Written numbers

A number that is written in a base of at most sixteen is read back, by the reader of numbers in that
base and, for base ten, by the reader of decimal digits. Only the number zero is written with a zero in
front.

## Main results

* `Hex.numberIn_toDigits`, `Whole.decimal_toDigits`: written numbers are read back.
* `Whole.parse?_eq_some_iff`: the number that is read is the one that is written.
-/

namespace Switchboard.Text

/-- A number is written in digits of its base. -/
theorem exists_digitChar_of_mem_toDigits {base n : Nat} (hbase : 1 < base) {c : Char}
    (hc : c ∈ Nat.toDigits base n) : ∃ d < base, c = Nat.digitChar d := by
  induction n using Nat.strong_induction_on with
  | _ n ih =>
      rcases Nat.lt_or_ge n base with hlt | hge
      · rw [Nat.toDigits_of_lt_base hlt, List.mem_singleton] at hc
        exact ⟨n, hlt, hc⟩
      · rw [Nat.toDigits_of_base_le hbase hge, List.mem_append, List.mem_singleton] at hc
        rcases hc with hc | hc
        · exact ih (n / base) (Nat.div_lt_self (by omega) hbase) hc
        · exact ⟨n % base, Nat.mod_lt n (by omega), hc⟩

/-- The first digit of a number is a zero only if the number is. -/
theorem exists_toDigits_eq_cons (n : Nat) :
    ∃ d ds, Nat.toDigits 10 n = d :: ds ∧ (d = '0' → n = 0) := by
  induction n using Nat.strong_induction_on with
  | _ n ih =>
      rcases Nat.lt_or_ge n 10 with hlt | hge
      · exact ⟨_, [], Nat.toDigits_of_lt_base hlt, Nat.digitChar_eq_zero.mp⟩
      · obtain ⟨d, ds, hdigits, hzero⟩ := ih (n / 10) (by omega)
        refine ⟨d, ds ++ [(n % 10).digitChar], ?_, fun hd => ?_⟩
        · rw [Nat.toDigits_of_base_le (by decide) hge, hdigits, List.cons_append]
        · have hdiv := hzero hd
          omega

namespace Hex

/-- A digit is read back, and is a character of ASCII. -/
theorem value_digit {d : Nat} (h : d < 16) :
    value? (digit d) = some d ∧ (digit d).toNat < 0x80 := by
  have hall : ∀ d < 16, value? (digit d) = some d ∧ (digit d).toNat < 0x80 := by decide
  exact hall d h

/-- Digits are read from the front, and what is read of the first ones is carried on. -/
theorem numberFrom_append (base n : Nat) (cs ds : List Char) :
    numberFrom base n (cs ++ ds) = (numberFrom base n cs).bind fun m => numberFrom base m ds := by
  induction cs generalizing n with
  | nil => rfl
  | cons c cs ih =>
      rw [List.cons_append, numberFrom, numberFrom]
      cases value? c with
      | none => rfl
      | some d =>
          simp only
          split
          · exact ih _
          · rfl

/-- **Numbers** are read back from their digits. -/
theorem numberIn_toDigits {base : Nat} (hbase : 1 < base) (hle : base ≤ 16) (n : Nat) :
    numberIn base (Nat.toDigits base n) = some n := by
  have hread {d : Nat} (hd : d < base) (m : Nat) :
      numberFrom base m [Nat.digitChar d] = some (base * m + d) := by
    have hvalue : value? (Nat.digitChar d) = some d := (value_digit (hd.trans_le hle)).1
    simp only [numberFrom, hvalue, if_pos hd]
  unfold numberIn
  induction n using Nat.strong_induction_on with
  | _ n ih =>
      rcases Nat.lt_or_ge n base with hlt | hge
      · rw [Nat.toDigits_of_lt_base hlt, hread hlt, Nat.mul_zero, Nat.zero_add]
      · rw [Nat.toDigits_of_base_le hbase hge, numberFrom_append,
          ih (n / base) (Nat.div_lt_self (by omega) hbase), Option.bind_some,
          hread (Nat.mod_lt n (by omega)), Nat.div_add_mod]

end Hex

namespace Whole

/-- **Decimal digits** of a number are read as the number. -/
theorem decimal_toDigits (n : Nat) : decimal (Nat.toDigits 10 n) = n :=
  Nat.ofDigitChars_ten_toDigits

/-- A text writes a number: decimal digits, perhaps behind one plus sign. -/
def Writes (cs : List Char) (n : Nat) : Prop :=
  ∃ digits, (cs = digits ∨ cs = '+' :: digits) ∧ digits ≠ [] ∧ (∀ c ∈ digits, c.isDigit) ∧
    Nat.ofDigitChars 10 digits 0 = n

/-- At most one plus sign is dropped. -/
theorem dropSign_cases (cs : List Char) : cs = dropSign cs ∨ cs = '+' :: dropSign cs := by
  unfold dropSign
  split
  · exact .inr rfl
  · exact .inl rfl

/-- **Reading** finds the number that a text writes, if it is not too great. -/
theorem parse?_eq_some_iff {greatest n : Nat} {cs : List Char} :
    parse? greatest cs = some n ↔ Writes cs n ∧ n ≤ greatest := by
  constructor
  · intro h
    unfold parse? at h
    simp only at h
    split_ifs at h with hdigits hrange
    simp only [Bool.or_eq_true, Bool.not_eq_true', not_or, Bool.not_eq_false, List.isEmpty_iff,
      List.all_eq_true] at hdigits
    obtain rfl := Option.some.inj h
    exact ⟨⟨dropSign cs, dropSign_cases cs, hdigits.1, hdigits.2, rfl⟩, hrange⟩
  · rintro ⟨⟨digits, hcs, hne, hall, rfl⟩, hrange⟩
    have hdrop : dropSign cs = digits := by
      rcases hcs with rfl | rfl
      · obtain ⟨d, digits, rfl⟩ := List.exists_cons_of_ne_nil hne
        unfold dropSign
        split
        · next heq =>
            obtain rfl := (List.cons.inj heq).1
            exact absurd (hall '+' List.mem_cons_self) (by decide)
        · rfl
      · rfl
    have hdigits : ¬ (digits.isEmpty || !digits.all Char.isDigit) := by
      simpa [hne] using hall
    unfold parse?
    simp only [hdrop]
    rw [if_neg hdigits]
    exact if_pos hrange

end Whole

end Switchboard.Text
