import Mathlib.Logic.Relation
import Mathlib.Tactic
import Switchboard.Pattern.Positions

/-!
# Membership in sets of positions

A set of positions is a number whose bits are its members. This module says of every
operation which positions the result holds, so that no later proof looks at bits.

The operations that apply a function over and over (`iterate`, `iterateUpTo`, `grow`) are
described through a relation `r` with `(f s).has i ↔ ∃ j, r i j ∧ s.has j`: the function
then walks `r` backwards, and the results hold the positions that reach `s` in exactly,
or at most, so many steps of `r`.

## Main results

* `has_iterate`, `has_iterateUpTo`, `has_grow_of_steps`, `steps_of_has_grow`: the three
  walks, by the number of steps.
* `Steps.of_reflTransGen`: on positions up to `n`, a walk that never goes back needs no
  more steps than there are positions behind its start.
* `has_firstFrom`, `firstFrom_isSome_iff`: the search for the least member.
-/

namespace Switchboard.Pattern.Positions

/-! ### Sets and their members -/

/-- No position is in the empty set. -/
@[simp] theorem has_zero (i : Nat) : has 0 i = false := Nat.zero_testBit i

/-- Positions in both sets. -/
@[simp] theorem has_and (s t : Positions) (i : Nat) : (s &&& t).has i = (s.has i && t.has i) :=
  Nat.testBit_and s t i

/-- Positions in one of the sets. -/
@[simp] theorem has_or (s t : Positions) (i : Nat) : (s ||| t).has i = (s.has i || t.has i) :=
  Nat.testBit_or s t i

/-- The positions below a number. -/
@[simp] theorem has_below (n i : Nat) : (below n).has i = decide (i < n) :=
  Nat.testBit_two_pow_sub_one n i

/-- The set of one position. -/
@[simp] theorem has_single (i j : Nat) : (single i).has j = decide (i = j) := by
  unfold has single
  rw [Nat.one_shiftLeft, Nat.testBit_two_pow]

/-- The positions above one of them. -/
@[simp] theorem has_above (s : Positions) (i j : Nat) :
    (above s i).has j = (decide (i < j) && s.has j) := by
  unfold has above
  rw [Nat.testBit_shiftLeft, Nat.testBit_shiftRight]
  by_cases h : i < j
  · have hj : i + 1 + (j - (i + 1)) = j := by omega
    have hle : i + 1 ≤ j := h
    simp [h, hj, hle]
  · have hle : ¬ i + 1 ≤ j := h
    simp [h, hle]

/-- The positions one before those of a set. -/
@[simp] theorem has_before (s : Positions) (i : Nat) : (before s).has i = s.has (i + 1) := by
  unfold has before
  rw [Nat.testBit_shiftRight, Nat.add_comm]

/-- A list of flags holds the places at which a flag is set. -/
theorem has_ofFlags (flags : List Bool) (i : Nat) :
    (ofFlags flags).has i = flags[i]?.getD false := by
  induction flags generalizing i with
  | nil => simp [ofFlags]
  | cons b rest ih =>
      cases i with
      | zero => cases b <;> simp [has, ofFlags]
      | succ i =>
          have hhalf : (2 * ofFlags rest + b.toNat) / 2 = ofFlags rest := by
            have hb : b.toNat < 2 := Bool.toNat_lt b
            exact (Nat.mul_add_div (by omega) _ _).trans (by simp [Nat.div_eq_of_lt hb])
          unfold has ofFlags
          rw [Nat.testBit_succ, hhalf]
          simpa [has] using ih i

/-- Sets with the same members are equal. -/
theorem eq_of_has {s t : Positions} (h : ∀ i, s.has i = t.has i) : s = t :=
  Nat.eq_of_testBit_eq h

/-- A set other than zero has a member. -/
theorem ne_zero_iff {s : Positions} : s ≠ 0 ↔ ∃ i, s.has i := by
  constructor
  · intro hs
    by_contra hnone
    refine hs (eq_of_has fun i => ?_)
    rw [has_zero]
    exact Bool.eq_false_iff.mpr fun hi => hnone ⟨i, hi⟩
  · rintro ⟨i, hi⟩ rfl
    simp at hi

/-! ### The least member -/

/-- The search finds a member, and none lies before it. -/
theorem has_firstFrom {s : Positions} {fuel i k : Nat} (h : firstFrom s fuel i = some k) :
    s.has k ∧ i ≤ k ∧ ∀ j, i ≤ j → j < k → s.has j = false := by
  induction fuel generalizing i with
  | zero => simp [firstFrom] at h
  | succ fuel ih =>
      unfold firstFrom at h
      split at h
      · next hi =>
          obtain rfl : i = k := Option.some.inj h
          exact ⟨hi, Nat.le_refl i, fun j hij hji => by omega⟩
      · next hi =>
          obtain ⟨hk, hik, hleast⟩ := ih h
          refine ⟨hk, by omega, fun j hij hjk => ?_⟩
          rcases Nat.eq_or_lt_of_le hij with rfl | hlt
          · exact Bool.eq_false_iff.mpr hi
          · exact hleast j hlt hjk

/-- The search succeeds exactly when there is a member to be found. -/
theorem firstFrom_isSome_iff {s : Positions} {fuel i : Nat} :
    (firstFrom s fuel i).isSome ↔ ∃ k, i ≤ k ∧ k < i + fuel ∧ s.has k := by
  induction fuel generalizing i with
  | zero =>
      simp only [firstFrom, Option.isSome_none, Bool.false_eq_true, false_iff]
      rintro ⟨k, hik, hki, -⟩
      omega
  | succ fuel ih =>
      unfold firstFrom
      split
      · next hi => simpa using ⟨i, Nat.le_refl i, by omega, hi⟩
      · next hi =>
          rw [ih]
          constructor
          · rintro ⟨k, hik, hki, hk⟩
            exact ⟨k, by omega, by omega, hk⟩
          · rintro ⟨k, hik, hki, hk⟩
            have hne : i ≠ k := by
              rintro rfl
              exact hi hk
            exact ⟨k, by omega, by omega, hk⟩

/-! ### Walks -/

/-- `Steps r k i j`: position `j` is reached from `i` in exactly `k` steps of `r`. -/
inductive Steps (r : Nat → Nat → Prop) : Nat → Nat → Nat → Prop
  | stay (i : Nat) : Steps r 0 i i
  | step {k i m j : Nat} : r i m → Steps r k m j → Steps r (k + 1) i j

/-- Steps that only stay or go forward within a text compose to such a step. -/
theorem forward_trans {n i j k : Nat} (hij : i = j ∨ i < j ∧ j ≤ n) (hjk : j = k ∨ j < k ∧ k ≤ n) :
    i = k ∨ i < k ∧ k ≤ n := by
  omega

namespace Steps

variable {r : Nat → Nat → Prop} {i j m k n : Nat}

/-- No steps lead nowhere else. -/
theorem zero_iff : Steps r 0 i j ↔ i = j := by
  constructor
  · intro h
    cases h
    rfl
  · rintro rfl
    exact stay i

/-- The first of several steps. -/
theorem succ_iff : Steps r (k + 1) i j ↔ ∃ m, r i m ∧ Steps r k m j := by
  constructor
  · intro h
    cases h with
    | step hr hs => exact ⟨_, hr, hs⟩
  · rintro ⟨m, hr, hs⟩
    exact step hr hs

/-- One more step at the end. -/
theorem snoc (h : Steps r k i m) (hr : r m j) : Steps r (k + 1) i j := by
  induction h with
  | stay i => exact step hr (stay j)
  | step hr' _ ih => exact step hr' (ih hr)

/-- The last step of a walk. -/
theorem unsnoc (h : Steps r (k + 1) i j) : ∃ m, Steps r k i m ∧ r m j := by
  induction k generalizing i with
  | zero =>
      obtain ⟨m, hr, hs⟩ := succ_iff.mp h
      obtain rfl := zero_iff.mp hs
      exact ⟨i, stay i, hr⟩
  | succ k ih =>
      obtain ⟨a, hr, hs⟩ := succ_iff.mp h
      obtain ⟨m, hm, hmj⟩ := ih hs
      exact ⟨m, step hr hm, hmj⟩

/-- Some steps are any number of steps. -/
theorem reflTransGen (h : Steps r k i j) : Relation.ReflTransGen r i j := by
  induction h with
  | stay i => exact Relation.ReflTransGen.refl
  | step hr _ ih => exact Relation.ReflTransGen.head hr ih

/-- Steps that do not go back lead no further back. -/
theorem le (hr : ∀ {a b}, r a b → a ≤ b) (h : Steps r k i j) : i ≤ j := by
  induction h with
  | stay i => exact Nat.le_refl i
  | step hab _ ih => exact Nat.le_trans (hr hab) ih

/-- A walk of steps that stay or go forward does so itself. -/
theorem forward (hr : ∀ a b, r a b → a = b ∨ a < b ∧ b ≤ n) (h : Steps r k i j) :
    i = j ∨ i < j ∧ j ≤ n := by
  induction h with
  | stay i => exact Or.inl rfl
  | step hab _ ih => exact forward_trans (hr _ _ hab) ih

/-- **Short walks.** Where every step either stays or goes forward to a position up to `n`,
positions that are connected at all are connected by a walk without idle steps. -/
theorem of_reflTransGen (hr : ∀ a b, r a b → a = b ∨ a < b ∧ b ≤ n)
    (h : Relation.ReflTransGen r i j) :
    ∃ k ≤ n, Steps r k i j ∧ (i = j ∨ i + k ≤ j ∧ j ≤ n) := by
  induction h using Relation.ReflTransGen.head_induction_on with
  | refl => exact ⟨0, Nat.zero_le n, stay j, Or.inl rfl⟩
  | @head a b hab _ ih =>
      obtain ⟨k, hkn, hs, hb⟩ := ih
      rcases hr a b hab with rfl | ⟨hlt, hbn⟩
      · exact ⟨k, hkn, hs, hb⟩
      · rcases hb with rfl | ⟨hbj, hjn⟩
        · exact ⟨1, by omega, step hab (stay b), Or.inr ⟨hlt, hbn⟩⟩
        · exact ⟨k + 1, by omega, step hab hs, Or.inr ⟨by omega, hjn⟩⟩

end Steps

section Walks

variable {f : Positions → Positions} {r : Nat → Nat → Prop}
  (hf : ∀ s i, (f s).has i ↔ ∃ j, r i j ∧ s.has j)

include hf

/-- Walking back `k` times finds what reaches the set in `k` steps. -/
theorem has_iterate (k : Nat) (s : Positions) (i : Nat) :
    (iterate f k s).has i ↔ ∃ j, Steps r k i j ∧ s.has j := by
  induction k generalizing i with
  | zero => simp [iterate, Steps.zero_iff]
  | succ k ih =>
      unfold iterate
      split
      · next hs => simp [hs]
      · simp only [hf, ih, Steps.succ_iff]
        constructor
        · rintro ⟨m, hm, j, hj, hs⟩
          exact ⟨j, ⟨m, hm, hj⟩, hs⟩
        · rintro ⟨j, ⟨m, hm, hj⟩, hs⟩
          exact ⟨m, hm, j, hj, hs⟩

/-- Walking back up to `k` times finds what reaches the set in at most `k` steps. -/
theorem has_iterateUpTo (k : Nat) (s : Positions) (i : Nat) :
    (iterateUpTo f s k).has i ↔ ∃ m ≤ k, ∃ j, Steps r m i j ∧ s.has j := by
  induction k generalizing i with
  | zero => simp [iterateUpTo, Steps.zero_iff]
  | succ k ih =>
      simp only [iterateUpTo, has_or, Bool.or_eq_true, hf, ih]
      constructor
      · rintro (hi | ⟨a, ha, m, hm, j, hj, hs⟩)
        · exact ⟨0, Nat.zero_le _, i, Steps.stay i, hi⟩
        · exact ⟨m + 1, by omega, j, Steps.step ha hj, hs⟩
      · rintro ⟨m, hm, j, hj, hs⟩
        cases hj with
        | stay => exact Or.inl hs
        | step ha hj => exact Or.inr ⟨_, ha, _, by omega, j, hj, hs⟩

/-- A set that `f` adds nothing to holds all positions that reach it. -/
theorem has_of_steps {s : Positions} (hs : s ||| f s = s) {m i j : Nat} (h : Steps r m i j)
    (hj : s.has j) : s.has i := by
  induction h with
  | stay i => exact hj
  | @step k a b c hab _ ih =>
      have ha : (s ||| f s).has a := by
        rw [has_or, Bool.or_eq_true]
        exact Or.inr ((hf s a).mpr ⟨b, hab, ih hj⟩)
      rwa [hs] at ha

omit hf in
/-- A set grows until it is closed. -/
theorem grow_succ (k : Nat) (s : Positions) :
    grow f (k + 1) s = if s ||| f s = s then s else grow f k (s ||| f s) := rfl

/-- What a grown set holds reaches the set it was grown from. -/
theorem steps_of_has_grow {k : Nat} {s : Positions} {i : Nat} (h : (grow f k s).has i) :
    ∃ m, ∃ j, Steps r m i j ∧ s.has j := by
  induction k generalizing s with
  | zero => exact ⟨0, i, Steps.stay i, h⟩
  | succ k ih =>
      rw [grow_succ] at h
      split at h
      · exact ⟨0, i, Steps.stay i, h⟩
      · obtain ⟨m, j, hj, hs⟩ := ih h
        rw [has_or, Bool.or_eq_true, hf] at hs
        rcases hs with hs | ⟨a, hja, ha⟩
        · exact ⟨m, j, hj, hs⟩
        · exact ⟨m + 1, a, hj.snoc hja, ha⟩

/-- **The closure.** With fuel `k`, growing a set finds everything that reaches it in at most
`k` steps. Stopping early loses nothing: the set is closed by then. -/
theorem has_grow_of_steps {k : Nat} {s : Positions} {m i j : Nat} (hm : m ≤ k)
    (hij : Steps r m i j) (hj : s.has j) : (grow f k s).has i := by
  induction k generalizing s m j with
  | zero =>
      obtain rfl : m = 0 := by omega
      obtain rfl := Steps.zero_iff.mp hij
      exact hj
  | succ k ih =>
      rw [grow_succ]
      split
      · next hclosed => exact has_of_steps hf hclosed hij hj
      · cases m with
        | zero => exact ih (Nat.zero_le k) hij (by simp [hj])
        | succ m =>
            obtain ⟨a, hia, haj⟩ := hij.unsnoc
            refine ih (by omega : m ≤ k) hia ?_
            rw [has_or, Bool.or_eq_true]
            exact Or.inr ((hf s a).mpr ⟨j, haj, hj⟩)

end Walks

end Switchboard.Pattern.Positions
