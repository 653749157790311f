import Mathlib.Data.List.Basic
import Switchboard.Net.Percent

/-!
# Percent encoding once and again

What a part of a URL may not hold is encoded when the part is read. The characters that are left are
kept when the part is read again (`isKept`), so that encoding a second time changes nothing. Decoding
takes a percent sign.

## Main results

* `isKept_of_mem_encode`: what is encoded holds only characters that are kept.
* `encode_eq_self`: they are not encoded again.
* `decode_eq_self`: bytes without a percent sign stand for themselves.
-/

namespace Switchboard.Net.Percent

/-! ### Decoding -/

/-- A byte that is no percent sign stands for itself. -/
theorem decode_cons {b : UInt8} (hb : b ≠ 0x25) (rest : List UInt8) :
    decode (b :: rest) = b :: decode rest := by
  rw [decode.eq_def]
  split
  · next heq => exact absurd heq (List.cons_ne_nil b rest)
  · next heq => exact absurd (List.cons.inj heq).1 hb
  · next heq =>
      obtain ⟨rfl, rfl⟩ := List.cons.inj heq
      rfl

/-- A percent sign with two digits stands for a byte. -/
theorem decode_digits {h l : UInt8} {x y : Nat} (hx : Text.Hex.byteValue? h = some x)
    (hy : Text.Hex.byteValue? l = some y) (rest : List UInt8) :
    decode (0x25 :: h :: l :: rest) = .ofNat (16 * x + y) :: decode rest := by
  rw [decode, hx, hy]

/-- Without a percent sign nothing is decoded. -/
theorem decode_eq_self {bytes : List UInt8} (h : 0x25 ∉ bytes) : decode bytes = bytes := by
  induction bytes with
  | nil => rfl
  | cons b bytes ih =>
      rw [List.mem_cons, not_or] at h
      rw [decode_cons (Ne.symm h.1), ih h.2]

/-! ### Encoding -/

/-- A character that stands for itself in a part of a URL. -/
def isKept (special : Char → Bool) (c : Char) : Bool := c.toNat < 0x80 && !special c

variable {special : Char → Bool} {cs : List Char}

/-- Characters that are kept are ASCII. -/
theorem toNat_lt_of_isKept {c : Char} (h : isKept special c) : c.toNat < 0x80 := by
  simp only [isKept, Bool.and_eq_true, decide_eq_true_eq] at h
  exact h.1

/-- Characters that are kept stand for themselves. -/
theorem encode_eq_self (h : ∀ c ∈ cs, isKept special c) : encode special cs = cs := by
  induction cs with
  | nil => rfl
  | cons c cs ih =>
      obtain ⟨hc, hcs⟩ := List.forall_mem_cons.mp h
      have hkept : (decide (c.toNat < 0x80) && !special c) = true := hc
      rw [encode, List.flatMap_cons, if_pos hkept, List.singleton_append]
      exact congrArg (c :: ·) (ih hcs)

/-- Characters of an encoded text are kept ones, percent signs and digits. -/
theorem forall_mem_encode {p : Char → Prop} (hkept : ∀ c ∈ cs, isKept special c → p c)
    (hpercent : p '%') (hdigits : ∀ d < 16, p (Text.Hex.capital d)) :
    ∀ c ∈ encode special cs, p c := by
  intro c hc
  obtain ⟨d, hd, hc⟩ := List.mem_flatMap.mp hc
  split at hc
  · next hself =>
      rw [List.mem_singleton.mp hc]
      exact hkept d hd hself
  · obtain ⟨b, -, hc⟩ := List.mem_flatMap.mp hc
    have hb : b.toNat < 256 := b.toNat_lt
    simp only [byte, List.mem_cons, List.not_mem_nil, or_false] at hc
    rcases hc with rfl | rfl | rfl
    · exact hpercent
    · exact hdigits _ (by omega)
    · exact hdigits _ (by omega)

/-- What is encoded is kept, if percent signs and digits are. -/
theorem isKept_of_mem_encode (hpercent : isKept special '%')
    (hdigits : ∀ d < 16, isKept special (Text.Hex.capital d)) :
    ∀ c ∈ encode special cs, isKept special c :=
  forall_mem_encode (fun _ _ hc => hc) hpercent hdigits

end Switchboard.Net.Percent
