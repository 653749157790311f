import Mathlib.Tactic
import Switchboard.Json.Reader

/-!
# Numbers in JSON texts

A number has no closing mark: the reader goes on as long as the bytes can belong to the number.
So whether a number is read back depends on what stands behind it. `Ends` says that it does not
begin with a byte of a number, which holds at the end of the text and before spaces, commas and
brackets, and `IsLocal` says of a reader that it does not look at such a rest.

A text is one of a number if the reader takes all of it. Which double some digits are is left to
the reader.

## Main results

* `Reader.isLocal_number`: the reader of numbers is local.
-/

namespace Switchboard.Json

namespace Reader

/-- No byte of a number is in front of the rest. -/
def Ends (rest : List UInt8) : Prop :=
  ∀ b ∈ rest.head?, ¬ isDigit b ∧ b ≠ byte '.' ∧ b ≠ byte 'e' ∧ b ≠ byte 'E'

/-- Which bytes may stand behind a number. -/
theorem ends_cons {b : UInt8} {rest : List UInt8} :
    Ends (b :: rest) ↔ ¬ isDigit b ∧ b ≠ byte '.' ∧ b ≠ byte 'e' ∧ b ≠ byte 'E' := by
  simp [Ends]

/-- No digit stands behind a number. -/
theorem Ends.not_startsWithDigit {rest : List UInt8} (h : Ends rest) : ¬ startsWithDigit rest := by
  cases rest with
  | nil => simp [startsWithDigit]
  | cons b r => exact (ends_cons.mp h).1

/-- A reader that, where it succeeds, does not look at a rest behind a number. -/
def IsLocal {α : Type} (reader : Reader α) : Prop :=
  ∀ ⦃bytes rest left : List UInt8⦄ ⦃a : α⦄, Ends rest → reader bytes = .ok (a, left) →
    reader (bytes ++ rest) = .ok (a, left ++ rest)

/-! ### Digits -/

section Digits

variable {rest : List UInt8} (hrest : ¬ startsWithDigit rest) (bytes : List UInt8)
include hrest

/-- Whether a text begins with a digit does not depend on what follows it. -/
theorem startsWithDigit_append : startsWithDigit (bytes ++ rest) = startsWithDigit bytes := by
  cases bytes with
  | nil => simpa [startsWithDigit] using hrest
  | cons b r => rfl

/-- The digits that are collected do not depend on what follows them. -/
theorem collect_append (n : Nat) :
    collect n (bytes ++ rest) = ((collect n bytes).1, (collect n bytes).2 ++ rest) := by
  induction bytes generalizing n with
  | nil =>
      cases rest with
      | nil => rfl
      | cons b r => exact if_neg hrest
  | cons b bytes ih =>
      rw [List.cons_append, collect, collect]
      split
      · simp only
        split
        · exact ih _
        · rfl
      · rfl

/-- How many digits there are does not depend on what follows them. -/
theorem countDigits_append :
    countDigits (bytes ++ rest) = ((countDigits bytes).1, (countDigits bytes).2 ++ rest) := by
  induction bytes with
  | nil =>
      cases rest with
      | nil => rfl
      | cons b r => exact if_neg hrest
  | cons b bytes ih =>
      rw [List.cons_append, countDigits, countDigits]
      split
      · rw [ih]
      · rfl

/-- An exponent does not depend on what follows it. -/
theorem collectExponent_append (n : Nat) :
    collectExponent n (bytes ++ rest) =
      ((collectExponent n bytes).1, (collectExponent n bytes).2.1,
        (collectExponent n bytes).2.2 ++ rest) := by
  induction bytes generalizing n with
  | nil =>
      cases rest with
      | nil => rfl
      | cons b r => exact if_neg hrest
  | cons b bytes ih =>
      rw [List.cons_append, collectExponent, collectExponent]
      split
      · simp only
        split
        · exact ih _
        · rfl
      · rfl

end Digits

/-! ### The parts of a number -/

/-- **Scaling** looks at no further bytes. -/
theorem isLocal_double (positive : Bool) (digits : Nat) (e : Int) :
    IsLocal (double positive digits e) := by
  intro bytes rest left n _ h
  unfold double at h ⊢
  split at h
  · exact absurd h (by simp [refuse])
  · simp only [Except.ok.injEq, Prod.mk.injEq] at h
    obtain ⟨rfl, rfl⟩ := h
    rfl

/-- The digits of an exponent, from behind its sign. -/
def exponentDigits (positive : Bool) (digits : Nat) (e : Int) (up : Bool) : Reader Number
  | [] => refuse .unfinishedValue []
  | b :: r =>
    if isDigit b then
      let (n, tooLarge, left) := collectExponent (b.toNat - 0x30) r
      if tooLarge then
        if digits ≠ 0 ∧ up then refuse .numberOutOfRange left
        else double positive 0 0 (countDigits left).2
      else double positive digits (if up then e + n else e - n) left
    else refuse .badNumber r

/-- The sign of an exponent. -/
theorem exponent_cons (positive : Bool) (digits : Nat) (e : Int) (b : UInt8) (r : List UInt8) :
    exponent positive digits e (b :: r) =
      if b = byte '+' then exponentDigits positive digits e true r
      else if b = byte '-' then exponentDigits positive digits e false r
      else exponentDigits positive digits e true (b :: r) := by
  by_cases hplus : b = byte '+'
  · rw [if_pos hplus, exponent, if_pos hplus]
    rfl
  · by_cases hminus : b = byte '-'
    · rw [if_neg hplus, if_pos hminus, exponent, if_neg hplus, if_pos hminus]
      rfl
    · rw [if_neg hplus, if_neg hminus, exponent, if_neg hplus, if_neg hminus]
      rfl

/-- Reading the digits of an exponent is local. -/
theorem isLocal_exponentDigits (positive : Bool) (digits : Nat) (e : Int) (up : Bool) :
    IsLocal (exponentDigits positive digits e up) := by
  intro bytes rest left n hrest h
  cases bytes with
  | nil => exact absurd h (by simp [exponentDigits, refuse])
  | cons b r =>
      have hdigit := hrest.not_startsWithDigit
      rw [List.cons_append]
      simp only [exponentDigits, collectExponent_append hdigit] at h ⊢
      split at h
      · next hb =>
          rw [if_pos hb]
          split at h
          · next hlarge =>
              rw [if_pos hlarge]
              split at h
              · exact absurd h (by simp [refuse])
              · next hzero =>
                  rw [if_neg hzero, countDigits_append hdigit]
                  exact isLocal_double _ _ _ hrest h
          · next hlarge =>
              rw [if_neg hlarge]
              exact isLocal_double _ _ _ hrest h
      · exact absurd h (by simp [refuse])

/-- Reading an exponent with its sign is local. -/
theorem isLocal_exponent (positive : Bool) (digits : Nat) (e : Int) :
    IsLocal (exponent positive digits e) := by
  intro bytes rest left n hrest h
  cases bytes with
  | nil => exact absurd h (by simp [exponent, refuse])
  | cons b r =>
      rw [List.cons_append]
      rw [exponent_cons] at h ⊢
      split_ifs at h ⊢
      · exact isLocal_exponentDigits _ _ _ _ hrest h
      · exact isLocal_exponentDigits _ _ _ _ hrest h
      · exact isLocal_exponentDigits _ _ _ _ hrest h

/-- A number without point and exponent. -/
def bare (positive : Bool) (digits dropped : Nat) : Reader Number := fun bytes =>
  if dropped = 0 then
    if positive then .ok (.int digits, bytes)
    else if digits = 0 ∨ Nat.pow 2 63 < digits then double false digits 0 bytes
    else .ok (.int (-digits), bytes)
  else double positive digits dropped bytes

/-- Reading a number without an exponent is local. -/
theorem isLocal_bare (positive : Bool) (digits dropped : Nat) :
    IsLocal (bare positive digits dropped) := by
  intro bytes rest left n hrest h
  unfold bare at h ⊢
  split_ifs at h ⊢
  · simp only [Except.ok.injEq, Prod.mk.injEq] at h ⊢
    exact ⟨h.1, h.2 ▸ rfl⟩
  · exact isLocal_double _ _ _ hrest h
  · simp only [Except.ok.injEq, Prod.mk.injEq] at h ⊢
    exact ⟨h.1, h.2 ▸ rfl⟩
  · exact isLocal_double _ _ _ hrest h

/-- A number from behind its point. -/
def fraction (positive : Bool) (digits dropped : Nat) : Reader Number := fun r =>
  let (digits', r₁) := collect digits r
  let e : Int := dropped - (r.length - r₁.length : Nat)
  let r₂ := (countDigits r₁).2
  if startsWithDigit r then
    match r₂ with
    | [] => double positive digits' e r₂
    | c :: r₃ =>
      if c = byte 'e' ∨ c = byte 'E' then exponent positive digits' e r₃
      else double positive digits' e r₂
  else
    match r with
    | [] => refuse .unfinishedValue []
    | _ :: r' => refuse .badNumber r'

/-- No bytes stand behind the first digits. -/
theorem afterDigits_nil (positive : Bool) (digits dropped : Nat) :
    afterDigits positive digits dropped [] = bare positive digits dropped [] := rfl

/-- The first byte behind the digits decides what else belongs to the number. -/
theorem afterDigits_cons (positive : Bool) (digits dropped : Nat) (b : UInt8) (r : List UInt8) :
    afterDigits positive digits dropped (b :: r) =
      if b = byte '.' then fraction positive digits dropped r
      else if b = byte 'e' ∨ b = byte 'E' then exponent positive digits dropped r
      else bare positive digits dropped (b :: r) := rfl

/-- Reading the digits behind a point is local. -/
theorem isLocal_fraction (positive : Bool) (digits dropped : Nat) :
    IsLocal (fraction positive digits dropped) := by
  intro r rest left n hrest h
  have hdigit := hrest.not_startsWithDigit
  unfold fraction at h ⊢
  have hlength : (r ++ rest).length - ((collect digits r).2 ++ rest).length =
      r.length - (collect digits r).2.length := by
    rw [List.length_append, List.length_append, Nat.add_sub_add_right]
  rw [collect_append hdigit, startsWithDigit_append hdigit]
  simp only [countDigits_append hdigit, hlength] at h ⊢
  split at h
  · next hstart =>
      rw [if_pos hstart]
      generalize (countDigits (collect digits r).2).2 = behind at h ⊢
      cases behind with
      | nil =>
          rw [List.nil_append]
          have hplain := isLocal_double _ _ _ hrest h
          rw [List.nil_append] at hplain
          cases rest with
          | nil => exact hplain
          | cons c rest =>
              obtain ⟨-, -, he, hE⟩ := ends_cons.mp hrest
              simpa only [if_neg (not_or.mpr ⟨he, hE⟩)] using hplain
      | cons c behind =>
          simp only [List.cons_append] at h ⊢
          split_ifs at h ⊢
          · exact isLocal_exponent _ _ _ hrest h
          · exact isLocal_double _ _ _ hrest h
  · split at h
    · exact absurd h (by simp [refuse])
    · exact absurd h (by simp [refuse])

/-- Reading whatever stands behind the first digits is local. -/
theorem isLocal_afterDigits (positive : Bool) (digits dropped : Nat) :
    IsLocal (afterDigits positive digits dropped) := by
  intro bytes rest left n hrest h
  cases bytes with
  | nil =>
      rw [afterDigits_nil] at h
      have hbare := isLocal_bare _ _ _ hrest h
      rw [List.nil_append] at hbare ⊢
      cases rest with
      | nil => exact hbare
      | cons b rest =>
          obtain ⟨-, hpoint, he, hE⟩ := ends_cons.mp hrest
          rw [afterDigits_cons, if_neg hpoint, if_neg (not_or.mpr ⟨he, hE⟩), hbare]
  | cons b r =>
      rw [List.cons_append]
      rw [afterDigits_cons] at h ⊢
      split_ifs at h ⊢
      · exact isLocal_fraction _ _ _ hrest h
      · exact isLocal_exponent _ _ _ hrest h
      · rw [← List.cons_append]
        exact isLocal_bare _ _ _ hrest h

/-- **Locality.** A number that was read is read in the same way in front of a rest that does not
begin with a byte of a number. -/
theorem isLocal_number (positive : Bool) : IsLocal (number positive) := by
  intro bytes rest left n hrest h
  cases bytes with
  | nil => exact absurd h (by simp [number, refuse])
  | cons b r =>
      have hdigit := hrest.not_startsWithDigit
      rw [List.cons_append]
      simp only [number, startsWithDigit_append hdigit, collect_append hdigit,
        countDigits_append hdigit] at h ⊢
      split at h
      · next hzero =>
          rw [if_pos hzero]
          split at h
          · exact absurd h (by simp [refuse])
          · next hstart =>
              rw [if_neg hstart]
              exact isLocal_afterDigits _ _ _ hrest h
      · next hzero =>
          rw [if_neg hzero]
          split at h
          · next hb =>
              rw [if_pos hb]
              exact isLocal_afterDigits _ _ _ hrest h
          · exact absurd h (by simp [refuse])

end Reader

/-- The texts of a number: those that the reader takes whole. -/
def IsNumberText (n : Number) (bytes : List UInt8) : Prop :=
  (∃ r, bytes = Reader.byte '-' :: r ∧ Reader.number false r = .ok (n, [])) ∨
    (∃ b r, bytes = b :: r ∧ Reader.isDigit b ∧ Reader.number true bytes = .ok (n, []))

end Switchboard.Json
