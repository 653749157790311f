import Switchboard.Json.Reader
import Switchboard.Proofs.Decimal.Binary

/-!
# Digits and a power of ten

A double is read as digits and an exponent: the double nearest to the digits is multiplied or divided
by the double nearest to a power of ten. Division never fails. For the product, each of three roundings
adds one part in 2 ^ 53 at most, so it does not fail either as long as the exact result is a little
below the middle between the largest double and the next one (`IsModest`).

## Main results

* `exists_scale_of_neg`, `exists_scale_of_isModest`: which digits and exponents are read.
* `lt_limit_of_scale`: what is read is a finite double.
-/

namespace Switchboard.Json.Reader

open Binary (power one limit)

/-- A number that does not become too large by the roundings of its digits and its power of ten. -/
def IsModest (n : Nat) : Prop := (2 ^ 53 + 1) ^ 2 * n < (2 ^ 54 - 1) * power 1076

variable {x y digits e fuel : Nat}

/-- The unit is positive. -/
theorem one_pos : 0 < one := Binary.power_pos 1074

/-- Zero is a double. -/
theorem ofNat_zero : Binary.ofNat 0 = 0 := by
  have hround := Binary.two_mul_round_mul_le 0 Nat.one_pos
  rw [Nat.zero_div, Binary.gap_eq_one (by decide)] at hround
  rw [Binary.ofNat, Nat.zero_mul]
  omega

/-- Rounding loses at most half of a number. -/
theorem le_two_mul_ofNat (n : Nat) : n * one ≤ 2 * Binary.ofNat n := by
  have hround := Binary.div_le_two_mul_round (n * one) Nat.one_pos
  rwa [Nat.div_one] at hround

/-- Rounding does not pass the next power of two but one. -/
theorem ofNat_lt {i : Nat} (h : digits < power i) : Binary.ofNat digits < power (i + 1 + 1074) := by
  have hround := Binary.round_le (digits * one) Nat.one_pos
  have hle := Nat.mul_le_mul_right one (Nat.succ_le_of_lt h)
  have hone := one_pos
  rw [Nat.div_one, ← Binary.ofNat] at hround
  rw [Nat.succ_mul] at hle
  rw [Binary.power_add, Binary.power_add, Binary.power_eq 1, Nat.pow_one]
  change Binary.ofNat digits < power i * 2 * one
  rw [Nat.mul_right_comm]
  omega

/-- The double nearest to a natural number is larger by one part in 2 ^ 53 at most. -/
theorem ofNat_mul_le (n : Nat) : 2 ^ 53 * Binary.ofNat n ≤ (2 ^ 53 + 1) * (n * one) := by
  rcases Nat.eq_zero_or_pos n with rfl | hpos
  · rw [ofNat_zero]
    omega
  · have hlarge : 2 ^ 52 ≤ n * one / 1 := by
      rw [Nat.div_one, ← Binary.power_eq]
      exact (Binary.power_le_power (by decide)).trans (Nat.le_mul_of_pos_left one hpos)
    have hround := Binary.round_mul_le Nat.one_pos hlarge
    rwa [Nat.mul_one] at hround

/-! ### Results -/

/-- Dividing never fails. -/
theorem exists_scale_of_neg {e : Int} (he : e < 0) (fuel x : Nat) : ∃ y, scale fuel x e = some y := by
  induction fuel generalizing x e with
  | zero => exact ⟨0, rfl⟩
  | succ fuel ih =>
      have hneg : ¬ 0 ≤ e := Int.not_le.mpr he
      rw [scale]
      split_ifs with hsmall hzero
      · exact ⟨_, rfl⟩
      · exact ⟨_, rfl⟩
      · exact ih (by omega) _

/-- Powers of ten from the first one that is not at hand. -/
theorem power_le_ten_pow (h : 308 < e) : power 1026 ≤ 10 ^ e := by
  have hten {i j : Nat} (h : i * j < e) : (10 ^ i) ^ j * 10 ≤ 10 ^ e := by
    rw [← Nat.pow_mul, ← Nat.pow_succ]
    exact Nat.pow_le_pow_right (by decide) h
  calc power 1026 = power (93 * 11) * power 3 := Binary.power_add (93 * 11) 3
    _ = (2 ^ 93) ^ 11 * 2 ^ 3 := by rw [Binary.power_mul, Binary.power_eq, Binary.power_eq]
    _ ≤ (10 ^ 28) ^ 11 * 10 := Nat.mul_le_mul (Nat.pow_le_pow_left (by decide) 11) (by decide)
    _ ≤ 10 ^ e := hten h

/-- The exponent of a number that is small enough is that of a power of ten at hand. -/
theorem le_of_isModest (h : IsModest (digits * 10 ^ e)) (hpos : 0 < digits) : e ≤ 308 := by
  by_contra hlarge
  have hpower := power_le_ten_pow (Nat.not_le.mp hlarge)
  have hle : 10 ^ e ≤ digits * 10 ^ e := Nat.le_mul_of_pos_left _ hpos
  have hsplit : power 1076 = 2 ^ 50 * power 1026 :=
    (Binary.power_add 50 1026).trans (by rw [Binary.power_eq 50])
  rw [IsModest, hsplit] at h
  omega

/-- The product with a power of ten stays below the middle behind the largest double. -/
theorem product_lt_limit (h : IsModest (digits * 10 ^ e)) :
    Binary.product (Binary.ofNat digits) (powerOfTen e) < limit := by
  refine Binary.round_lt_limit one_pos ?_
  have hsplit : power 1076 * one = 2 ^ 106 * power 2044 := by
    rw [one, ← Binary.power_add, ← Binary.power_eq, ← Binary.power_add]
  have hproduct := Nat.mul_le_mul (ofNat_mul_le digits) (ofNat_mul_le (10 ^ e))
  have hmodest := Nat.mul_lt_mul_of_pos_right h (Nat.mul_pos one_pos one_pos)
  change _ * Binary.ofNat (10 ^ e) < _
  generalize Binary.ofNat digits = x at *
  generalize Binary.ofNat (10 ^ e) = y at *
  have hlt : 2 ^ 106 * (x * y) < 2 ^ 106 * ((2 ^ 54 - 1) * power 2044 * one) := by
    calc 2 ^ 106 * (x * y) = 2 ^ 53 * x * (2 ^ 53 * y) := by ring
      _ ≤ (2 ^ 53 + 1) * (digits * one) * ((2 ^ 53 + 1) * (10 ^ e * one)) := hproduct
      _ = (2 ^ 53 + 1) ^ 2 * (digits * 10 ^ e) * (one * one) := by ring
      _ < (2 ^ 54 - 1) * power 1076 * (one * one) := hmodest
      _ = (2 ^ 54 - 1) * (power 1076 * one) * one := by ring
      _ = 2 ^ 106 * ((2 ^ 54 - 1) * power 2044 * one) := by rw [hsplit]; ring
  exact Nat.lt_of_mul_lt_mul_left hlt

/-- **Multiplying** does not fail if the exact result is small enough. -/
theorem exists_scale_of_isModest (h : IsModest (digits * 10 ^ e)) :
    ∃ y, scale 4 (Binary.ofNat digits) e = some y := by
  have hnonneg : (0 : Int) ≤ e := Int.natCast_nonneg e
  have hlt := product_lt_limit h
  rw [scale, Int.natAbs_natCast, if_pos hnonneg]
  simp only [if_neg (Nat.not_le.mpr hlt), if_pos hnonneg]
  rcases Nat.eq_zero_or_pos digits with rfl | hpos
  · rw [ofNat_zero, if_pos rfl]
    split_ifs <;> exact ⟨_, rfl⟩
  · rw [if_pos (le_of_isModest h hpos)]
    exact ⟨_, rfl⟩

/-! ### Finite doubles -/

/-- Dividing by a power of ten does not make a number much greater. -/
theorem quotient_lt {i : Nat} (hx : x < power i) (k : Nat) :
    Binary.quotient x (powerOfTen k) < power (i + 2) := by
  have hten : one ≤ 2 * powerOfTen k :=
    (Nat.le_mul_of_pos_left one (Nat.pow_pos (by decide))).trans (le_two_mul_ofNat (10 ^ k))
  have hpos : 0 < powerOfTen k := by
    have := one_pos
    omega
  have hquotient : x * one / powerOfTen k ≤ 2 * x := by
    refine Nat.div_le_of_le_mul ?_
    calc x * one ≤ x * (2 * powerOfTen k) := Nat.mul_le_mul_left x hten
      _ = powerOfTen k * (2 * x) := by ring
  have hround := Binary.round_le (x * one) hpos
  rw [Binary.quotient, Binary.power_add, Binary.power_eq 2]
  omega

/-- **Finite doubles.** What is read is not too large. -/
theorem lt_limit_of_scale {e : Int} {i : Nat} (h : scale fuel x e = some y) (hx : x < power i)
    (hi : i + 2 * fuel ≤ 2098) : y < limit := by
  induction fuel generalizing x e i with
  | zero =>
      obtain rfl := Option.some.inj h
      exact Binary.power_pos 2098
  | succ fuel ih =>
      rw [scale] at h
      split_ifs at h with hsmall hnonneg hzero
      · simp only at h
        split_ifs at h with hlarge
        obtain rfl := Option.some.inj h
        exact Nat.not_le.mp hlarge
      · obtain rfl := Option.some.inj h
        exact (quotient_lt hx _).trans_le (Binary.power_le_power (by omega))
      · obtain rfl := Option.some.inj h
        exact hx.trans_le (Binary.power_le_power (by omega))
      · exact ih h (quotient_lt hx 308) (by omega)

end Switchboard.Json.Reader
