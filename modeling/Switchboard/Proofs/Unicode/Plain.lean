import Mathlib.Tactic
import Switchboard.Proofs.Text.Ascii
import Switchboard.Unicode.Direction
import Switchboard.Unicode.Domain
import Switchboard.Unicode.Joining

/-!
# ASCII in domain names

What the tables say about the characters of ASCII, of which names are made in the end: none of them is
composed of others, none is a mark, none is written from right to left and none is a joiner. So a text
of ASCII is its own composed form, and its characters stand for themselves when they are no capitals.

## Main results

* `Normal.composed_eq_self`: a text of ASCII is composed.
* `Domain.isPlain_iff_toLower`: which characters of ASCII stand for themselves.
-/

namespace Switchboard.Unicode

/-! ### Composed texts -/

namespace Normal

variable {c : Char} {cs : List Char}

/-- The first mark that has a combining class is `0x300`. -/
theorem combiningClass_eq_zero (h : c.toNat < 0x300) : combiningClass c = 0 := by
  rw [combiningClass, Table.classes, classIn, if_pos h]

/-- Where all characters are starters, there is nothing to bring into order. -/
theorem reorder_eq_self (h : ∀ c ∈ cs, combiningClass c = 0) : reorder cs = cs := by
  induction cs with
  | nil => rfl
  | cons c cs ih =>
      obtain ⟨-, hcs⟩ := List.forall_mem_cons.mp h
      rw [reorder, List.foldr_cons, ← reorder, ih hcs]
      cases cs with
      | nil => rfl
      | cons d cs => rw [insert, if_neg fun hmark => hmark.1 (hcs d List.mem_cons_self)]

/-- Characters before the first mark are put together with nothing. -/
theorem composeFrom_eq_self (starter : Char) (h : ∀ c ∈ cs, c.toNat < 0x300) :
    composeFrom starter [] cs = starter :: cs := by
  induction cs generalizing starter with
  | nil => rfl
  | cons c cs ih =>
      obtain ⟨hc, hcs⟩ := List.forall_mem_cons.mp h
      have hnone : composite? starter c = none := if_pos hc
      rw [composeFrom]
      simp only [isBlocked, Bool.false_eq_true, if_false, hnone, combiningClass_eq_zero hc, if_true,
        ih c hcs, List.reverse_nil, List.singleton_append]

/-- **A text of ASCII** is composed: nothing of it is taken apart, and nothing is put together. -/
theorem composed_eq_self (h : ∀ c ∈ cs, c.toNat < 0x80) : composed cs = cs := by
  have hapart : cs.flatMap decompose = cs := by
    have heach : cs.flatMap decompose = cs.flatMap fun c => [c] :=
      List.flatMap_congr fun c hc => if_pos ((h c hc).trans (by decide))
    rw [heach, List.flatMap_singleton']
  have hlow : ∀ c ∈ cs, c.toNat < 0x300 := fun c hc => (h c hc).trans (by decide)
  rw [composed, hapart, reorder_eq_self fun c hc => combiningClass_eq_zero (hlow c hc)]
  cases cs with
  | nil => rfl
  | cons c cs =>
      obtain ⟨hc, hcs⟩ := List.forall_mem_cons.mp hlow
      rw [compose, if_pos (combiningClass_eq_zero hc), composeFrom_eq_self c hcs]

end Normal

/-! ### Single characters -/

section Characters

variable {c : Char} (h : c.toNat < 0x80)
include h

/-- Capitals stand for their small letters, and the other characters of ASCII for themselves. -/
theorem Domain.isPlain_iff_toLower : isPlain c ↔ c.toLower = c := by
  simp [isPlain, replacement, h]

/-- No character of ASCII is a mark. -/
theorem Category.not_mark_of_ascii : anyContains marks c.toNat = false := by
  have hall : ∀ n < 0x80, anyContains marks (Char.ofNat n).toNat = false := by decide
  exact Text.forall_ascii (P := fun c => anyContains marks c.toNat = false) hall h

/-- ASCII is not written from right to left. -/
theorem Direction.not_right_of_ascii : (of c = right || of c = arabicDigit) = false := by
  have hall : ∀ n < 0x80,
      (of (Char.ofNat n) = right || of (Char.ofNat n) = arabicDigit) = false := by decide
  exact Text.forall_ascii (P := fun c => (of c = right || of c = arabicDigit) = false) hall h

end Characters

/-- A text of ASCII has no joiners. -/
theorem Joining.areFitting_of_ascii {cs : List Char} (h : ∀ c ∈ cs, c.toNat < 0x80)
    (before : List Char) : areFitting before cs := by
  induction cs generalizing before with
  | nil => rfl
  | cons c cs ih =>
      obtain ⟨hc, hcs⟩ := List.forall_mem_cons.mp h
      have hne (joiner : Char) (hjoiner : 0x80 ≤ joiner.toNat) : c ≠ joiner := by
        rintro rfl
        exact absurd hc (Nat.not_lt.mpr hjoiner)
      rw [areFitting, if_neg (hne '\u200c' (by decide)), ih hcs]
      simp [hne '\u200d' (by decide)]

end Switchboard.Unicode
