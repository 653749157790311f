import Mathlib.Tactic
import Switchboard.Decimal.Binary

/-!
# Rounding to doubles

How far the double nearest to a fraction is from it: half a gap at most. From 2 ^ 52 units on, a gap
is small against the number, so that rounding adds at most one part in 2 ^ 53.

A fraction that is rounded to a number that is too large has reached the middle between the largest
double and the double that would come next (`round_lt_limit`).

## Main results

* `two_mul_round_mul_le`: rounding adds half a gap at most.
* `round_mul_le`: rounding adds at most one part in 2 ^ 53.
* `round_lt_limit`: what is not rounded to a number that is too large.
* `bits_lt`: the bits of doubles that are not too large are those of finite numbers.
-/

namespace Switchboard.Binary

variable {num den n x y : Nat}

/-! ### Powers of two -/

/-- The powers of two, as the library writes them. -/
theorem power_eq (k : Nat) : power k = 2 ^ k := by
  unfold power
  rfl

/-- Powers of sums. -/
theorem power_add (i j : Nat) : power (i + j) = power i * power j := by
  rw [power_eq, power_eq, power_eq, Nat.pow_add]

/-- Powers of products. -/
theorem power_mul (i j : Nat) : power (i * j) = power i ^ j := by
  rw [power_eq, power_eq, Nat.pow_mul]

/-- Powers of two are positive. -/
theorem power_pos (k : Nat) : 0 < power k := by
  rw [power_eq]
  exact Nat.two_pow_pos k

/-- Powers of two grow with the exponent. -/
theorem power_le_power {i j : Nat} (h : i ≤ j) : power i ≤ power j := by
  rw [power_eq, power_eq]
  exact Nat.pow_le_pow_right (by decide) h

/-- The logarithm of a number below a power of two. -/
theorem log2_lt_of_lt_power {k : Nat} (hk : 0 < k) (h : n < power k) : Nat.log2 n < k := by
  rw [power_eq] at h
  rcases Nat.eq_zero_or_pos n with rfl | hpos
  · exact hk
  · exact (Nat.log2_lt (Nat.ne_of_gt hpos)).mpr h

/-! ### Gaps -/

/-- There is a gap between neighbours. -/
theorem gap_pos (n : Nat) : 0 < gap n := power_pos _

/-- A gap is small against a number that is not. -/
theorem gap_mul_le (h : 2 ^ 52 ≤ n) : gap n * 2 ^ 52 ≤ n := by
  have hne : n ≠ 0 := by rintro rfl; exact absurd h (by decide)
  have hlog : 52 ≤ Nat.log2 n := (Nat.le_log2 hne).mpr h
  rw [gap, power_eq, ← Nat.pow_add, Nat.sub_add_cancel hlog]
  exact Nat.log2_self_le hne

/-- Up to 53 bits, neighbours are one apart. -/
theorem gap_eq_one (h : n < 2 ^ 53) : gap n = 1 := by
  rw [← power_eq] at h
  have hlog : Nat.log2 n ≤ 52 := Nat.lt_succ_iff.mp (log2_lt_of_lt_power (by decide) h)
  rw [gap, Nat.sub_eq_zero_of_le hlog, power_eq, Nat.pow_zero]

/-- A number has fewer than 54 binary digits in terms of its gap. -/
theorem lt_gap_mul (n : Nat) : n < gap n * 2 ^ 53 := by
  rw [gap, power_eq, ← Nat.pow_add]
  exact Nat.lt_log2_self.trans_le (Nat.pow_le_pow_right (by decide) (by omega))

/-- A gap is no greater than the number that it follows. -/
theorem gap_le (hpos : 0 < n) : gap n ≤ n := by
  by_cases h : n < 2 ^ 53
  · rw [gap_eq_one h]
    exact hpos
  · have hgap := gap_mul_le (n := n) (by omega)
    omega

/-! ### Rounding -/

/-- The nearest natural number is at most a half away. -/
theorem nearest_bounds (num : Nat) (hden : 0 < den) :
    2 * (nearest num den * den) ≤ 2 * num + den ∧ 2 * num ≤ 2 * (nearest num den * den) + den := by
  have hmod := Nat.mod_lt num hden
  have hdiv := Nat.div_add_mod' num den
  unfold nearest
  simp only
  split_ifs with hbelow habove
  · omega
  · rw [Nat.add_mul]
    omega
  · rcases Nat.mod_two_eq_zero_or_one (num / den) with heven | hodd
    · rw [heven, Nat.add_zero]
      omega
    · rw [hodd, Nat.add_mul]
      omega

/-- **Rounding** adds half a gap at most, and takes off no more. -/
theorem two_mul_round_mul_le (num : Nat) (hden : 0 < den) :
    2 * (round num den * den) ≤ 2 * num + den * gap (num / den) ∧
      2 * num ≤ 2 * (round num den * den) + den * gap (num / den) := by
  have hbounds := nearest_bounds num (Nat.mul_pos hden (gap_pos (num / den)))
  have hround : round num den * den =
      nearest num (den * gap (num / den)) * (den * gap (num / den)) := by
    rw [round, Nat.mul_assoc, Nat.mul_comm den]
  rwa [hround]

/-- Rounding adds at most one part in 2 ^ 53 to a number that is not small. -/
theorem round_mul_le (hden : 0 < den) (h : 2 ^ 52 ≤ num / den) :
    2 ^ 53 * (round num den * den) ≤ (2 ^ 53 + 1) * num := by
  have hround := (two_mul_round_mul_le num hden).1
  have hgap := Nat.mul_le_mul_left den (gap_mul_le h)
  have hdiv := Nat.mul_div_le num den
  rw [← Nat.mul_assoc] at hgap
  omega

/-- Rounding makes no number larger than twice as large. -/
theorem round_le (num : Nat) (hden : 0 < den) : round num den ≤ 2 * (num / den) + 1 := by
  have hround := (two_mul_round_mul_le num hden).1
  have hnum : num < den * (num / den + 1) := Nat.lt_mul_div_succ num hden
  have hgap : gap (num / den) ≤ num / den + 1 := by
    rcases Nat.eq_zero_or_pos (num / den) with hzero | hpos
    · rw [hzero, gap_eq_one (by decide)]
    · exact Nat.le_succ_of_le (gap_le hpos)
  have hlt : den * (2 * round num den) < den * (2 * (num / den + 1) + (num / den + 1)) := by
    have hmul := Nat.mul_le_mul_left den hgap
    nlinarith
  have := Nat.lt_of_mul_lt_mul_left hlt
  omega

/-- Rounding makes no number smaller than half as large. -/
theorem div_le_two_mul_round (num : Nat) (hden : 0 < den) : num / den ≤ 2 * round num den := by
  rcases Nat.eq_zero_or_pos (num / den) with hzero | hpos
  · omega
  have hround := (two_mul_round_mul_le num hden).2
  have hnum : den * (num / den) ≤ num := Nat.mul_div_le num den
  have hle : den * (2 * (num / den)) ≤ den * (2 * round num den + num / den) := by
    have hmul := Nat.mul_le_mul_left den (gap_le hpos)
    nlinarith
  have := Nat.le_of_mul_le_mul_left hle hden
  omega

/-! ### Too large numbers -/

/-- The first number that is too great for a double. -/
theorem limit_eq : limit = 2 ^ 54 * power 2044 :=
  (power_add 54 2044).trans (by rw [power_eq 54])

/-- **Numbers that are not too large.** The middle between the largest double and the next one is not
reached. The gap is the one between the largest doubles, or at most half of it. -/
theorem round_lt_limit (hden : 0 < den) (h : num < (2 ^ 54 - 1) * power 2044 * den) :
    round num den < limit := by
  have hround := (two_mul_round_mul_le num hden).1
  have hdiv : num / den < (2 ^ 54 - 1) * power 2044 := (Nat.div_lt_iff_lt_mul hden).mpr h
  have hlog : Nat.log2 (num / den) < 2098 := by
    refine log2_lt_of_lt_power (by decide) ?_
    change num / den < limit
    rw [limit_eq]
    omega
  rw [limit_eq]
  rcases Nat.lt_or_ge (Nat.log2 (num / den)) 2097 with hlow | hhigh
  · have hgap : gap (num / den) ≤ power 2044 := power_le_power (by omega)
    have hquotient := lt_gap_mul (num / den)
    have hle := round_le num hden
    omega
  · have hgap : gap (num / den) = 2 * power 2044 := by
      have hexp : Nat.log2 (num / den) - 52 = 1 + 2044 := by omega
      rw [gap, hexp, power_add, power_eq 1, Nat.pow_one]
    rw [hgap, Nat.mul_left_comm den, Nat.mul_comm den] at hround
    rw [Nat.mul_assoc] at h
    refine Nat.lt_of_mul_lt_mul_right (a := den) ?_
    rw [Nat.mul_assoc]
    omega

/-- The bits of a finite double are below those of infinity. -/
theorem bits_lt (h : x < limit) : bits x < 2047 * 2 ^ 52 := by
  have hlog := log2_lt_of_lt_power (by decide) h
  have hdiv : x / gap x < 2 ^ 53 := Nat.div_lt_of_lt_mul (lt_gap_mul x)
  rw [bits, power_eq]
  omega

end Switchboard.Binary
