import Switchboard.Text.Utf8

/-!
# Characters of ASCII

There are 128 characters of ASCII, so that what is claimed of all of them can be checked for one after
the other. Only they have a small letter of their own (`toLower_cases`), which therefore takes as many
bytes.
-/

namespace Switchboard.Text

/-- What holds of the characters of ASCII can be checked one by one. -/
theorem forall_ascii {P : Char → Prop} (h : ∀ n < 0x80, P (Char.ofNat n)) {c : Char}
    (hc : c.toNat < 0x80) : P c := by
  rw [← Char.ofNat_toNat c]
  exact h c.toNat hc

/-- Each character of ASCII is one of the 128. -/
theorem exists_ofNat_eq {c : Char} (hc : c.toNat < 0x80) : ∃ n < 0x80, Char.ofNat n = c :=
  ⟨c.toNat, hc, Char.ofNat_toNat c⟩

/-- Only characters of ASCII have a small letter of their own. -/
theorem toLower_cases (c : Char) : c.toLower = c ∨ c.toNat < 0x80 := by
  unfold Char.toLower
  split
  · next hupper =>
      have hlast : c.toNat ≤ 0x5A := UInt32.le_iff_toNat_le.mp hupper.2
      exact .inr (by omega)
  · exact .inl rfl

/-- The small letter of a character takes as many bytes as the character. -/
theorem width_toLower (c : Char) : Utf8.width c.toLower = Utf8.width c := by
  have hall : ∀ n < 0x80, Utf8.width (Char.ofNat n).toLower = Utf8.width (Char.ofNat n) := by
    decide +kernel
  rcases toLower_cases c with h | h
  · rw [h]
  · exact forall_ascii (P := fun c => Utf8.width c.toLower = Utf8.width c) hall h

end Switchboard.Text
