import Switchboard.Decimal.Shortest
import Switchboard.Proofs.Decimal.Binary

/-!
# Bounds of shortest decimals

The decimal that stands for a double lies in the interval of the reals that round to it, so it is not
above the end of the interval. This is all that is needed to read it back without an overflow; that it
is short, or near to the double, is not.

The search for the decimal is cut off after some steps, where it takes the largest decimal that is not
above the double. That one may have no digits, but then its exponent is far below zero.

## Main results

* `Rounding.atMost_search`, `Rounding.exponent_search`: where the search ends.
* `exists_search`: the searches that are made for finite doubles.
-/

namespace Switchboard.Decimal

/-- A decimal is at most a fraction. -/
def AtMost (d : Decimal) (num den : Nat) : Prop :=
  d.digits * 10 ^ d.exponent.toNat * den ≤ num * 10 ^ (-d.exponent).toNat

namespace Rounding

variable {r : Rounding} {n : Nat} {e : Int}

/-- A decimal in a range is at most the upper end of it. -/
theorem atMost_of_holds (h : r.holds n e) : AtMost ⟨n, e⟩ r.high r.den := by
  unfold holds at h
  simp only at h
  split_ifs at h
  · simp only [Bool.and_eq_true, decide_eq_true_eq] at h
    exact h.2
  · simp only [Bool.and_eq_true, decide_eq_true_eq] at h
    exact h.2.le

/-- The greatest multiple that does not pass the upper end of a range is at most this end. -/
theorem atMost_below (h : r.num ≤ r.high) (e : Int) : AtMost ⟨r.below e, e⟩ r.high r.den := by
  have hdiv := Nat.div_mul_le_self (r.num * 10 ^ (-e).toNat) (r.den * 10 ^ e.toNat)
  calc r.below e * 10 ^ e.toNat * r.den = r.below e * (r.den * 10 ^ e.toNat) := by ring
    _ ≤ r.num * 10 ^ (-e).toNat := hdiv
    _ ≤ r.high * 10 ^ (-e).toNat := Nat.mul_le_mul_right _ h

/-- A decimal that is found on a grid lies in the interval, and has digits. -/
theorem onGrid_eq_some {d : Decimal} (h : r.onGrid e = some d) :
    AtMost d r.high r.den ∧ d.digits ≠ 0 ∧ d.exponent = e := by
  unfold onGrid at h
  simp only at h
  split_ifs at h with hfloor hceiling
  · obtain rfl := Option.some.inj h
    simp only [Bool.and_eq_true, bne_iff_ne, ne_eq] at hfloor
    exact ⟨atMost_of_holds hfloor.1.2, hfloor.1.1, rfl⟩
  · obtain rfl := Option.some.inj h
    exact ⟨atMost_of_holds hceiling, Nat.succ_ne_zero _, rfl⟩

/-- **The decimal that is found** is not above the end of the interval. -/
theorem atMost_search (h : r.num ≤ r.high) (fuel : Nat) (e : Int) :
    AtMost (r.search fuel e) r.high r.den := by
  induction fuel generalizing e with
  | zero => exact atMost_below h e
  | succ fuel ih =>
      rw [search]
      split
      · next d hd => exact (onGrid_eq_some hd).1
      · exact ih (e - 1)

/-- Its exponent is the one of a grid; and only on the last one it may have no digits. -/
theorem exponent_search (r : Rounding) (fuel : Nat) (e : Int) :
    e - fuel ≤ (r.search fuel e).exponent ∧
      ((r.search fuel e).digits = 0 → (r.search fuel e).exponent = e - fuel) := by
  induction fuel generalizing e with
  | zero =>
      rw [search]
      exact ⟨by simp, fun _ => by simp⟩
  | succ fuel ih =>
      rw [search]
      split
      · next d hd =>
          obtain ⟨-, hdigits, hexponent⟩ := onGrid_eq_some hd
          refine ⟨?_, fun hzero => absurd hzero hdigits⟩
          rw [hexponent]
          omega
      · have hmore := ih (e - 1)
        rw [Nat.cast_succ]
        omega

end Rounding

/-- Where the search starts for a number below `2 ^ top`. -/
theorem start_bounds (top : Int) (hlow : -1073 ≤ top) (hhigh : top ≤ 1024) :
    -321 ≤ top * (if 0 ≤ top then 31 else 30) / 100 + 2 ∧
      top * (if 0 ≤ top then 31 else 30) / 100 + 2 ≤ 319 ∧
      (top = 1024 → top * (if 0 ≤ top then 31 else 30) / 100 + 2 = 319) := by
  split_ifs <;> omega

/-- **Finite doubles.** The search for the decimal of a double: the double has a mantissa of 53 binary
digits and an exponent up to 971. For the largest exponent, the search is told in full. -/
theorem exists_search {bits : UInt64} (h : bits.toNat % 2 ^ 63 < 2047 * 2 ^ 52) :
    ∃ (m : Nat) (q : Int) (narrow : Bool) (start : Int),
      shortest bits = (Rounding.ofDouble m q narrow).search 400 start ∧ m < 2 ^ 53 ∧ q ≤ 971 ∧
        -321 ≤ start ∧ start ≤ 319 ∧ (q = 971 → 2 ^ 52 < m → narrow = false ∧ start = 319) := by
  have hfield : bits.toNat / 2 ^ 52 % 2 ^ 11 < 2047 := by omega
  have hfraction : bits.toNat % 2 ^ 52 < 2 ^ 52 := Nat.mod_lt _ (by decide)
  refine ⟨_, _, _, _, rfl, ?_⟩
  simp only [Nat.pow_eq] at *
  generalize bits.toNat / 2 ^ 52 % 2 ^ 11 = field at *
  generalize bits.toNat % 2 ^ 52 = fraction at *
  have hmantissa : (if field = 0 then fraction else 2 ^ 52 + fraction) < 2 ^ 53 := by
    split_ifs <;> omega
  generalize hm : (if field = 0 then fraction else 2 ^ 52 + fraction) = m at *
  have hlog : Nat.log2 m < 53 :=
    Binary.log2_lt_of_lt_power (by decide) (hmantissa.trans_eq (Binary.power_eq 53).symm)
  have hexact : 2 ^ 52 < m → Nat.log2 m = 52 := fun hlarge =>
    Nat.le_antisymm (Nat.lt_succ_iff.mp hlog) ((Nat.le_log2 (by omega)).mpr hlarge.le)
  have hq : -1074 ≤ Int.ofNat (max field 1) - 1075 ∧ Int.ofNat (max field 1) - 1075 ≤ 971 := by
    rw [Int.ofNat_eq_natCast]
    omega
  obtain ⟨hlow, hhigh, hlast⟩ := start_bounds
    (Int.ofNat (max field 1) - 1075 + Int.ofNat (Nat.log2 m + 1))
    (by rw [Int.ofNat_eq_natCast (Nat.log2 m + 1)]; omega)
    (by rw [Int.ofNat_eq_natCast (Nat.log2 m + 1)]; omega)
  refine ⟨hmantissa, hq.2, hlow, hhigh, fun hlarge hm' => ⟨?_, hlast ?_⟩⟩
  · have hne : fraction ≠ 0 := by
      rintro rfl
      split_ifs at hm <;> omega
    simp [hne]
  · rw [hlarge, hexact hm']
    rfl

end Switchboard.Decimal
