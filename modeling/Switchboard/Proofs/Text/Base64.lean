import Mathlib.Tactic
import Switchboard.Text.Base64

/-!
# What a base64 text writes

Said without arithmetic on bytes: a base64 text is a row of signs from an alphabet of sixty-four, filled
up with equals signs to a multiple of four. A sign stands for six bits, a byte for eight, the highest bit
first, and the bits of the signs are the bits of the bytes with fewer than six zeros behind them. That
settles the text: there is exactly one for every list of bytes.

## Convention

`bits width n` are the lowest `width` bits of `n`, the highest of these first. Cutting a number into its
high and its low part cuts its bits in two (`bits_add`), and this is all that the proofs below know of
division and remainder.

## Main results

* `isBase64_iff`: the encoder writes the one text that is right.
* `IsBase64.mem`: the signs that can occur in it.
-/

namespace Switchboard.Text.Base64

/-- The signs, in the order of the six bits that they stand for. -/
def alphabet : List Char :=
  "ABCDEFGHIJKLMNOPQRSTUVWXYZabcdefghijklmnopqrstuvwxyz0123456789+/".toList

/-- There are as many signs as numbers of six bits. -/
theorem length_alphabet : alphabet.length = 64 := by decide

/-- The lowest bits of a number, the highest of them first. -/
def bits : (width n : Nat) → List Bool
  | 0, _ => []
  | width + 1, n => n.testBit width :: bits width n

/-- The bits of some bytes. -/
def bitsOf (bytes : List UInt8) : List Bool := bytes.flatMap fun b => bits 8 b.toNat

/-- The bits of some signs, each given by its place in the alphabet. -/
def bitsOfSigns (places : List (Fin alphabet.length)) : List Bool :=
  places.flatMap fun place => bits 6 place.val

/-- A text writes some bytes in base64. -/
def IsBase64 (bytes : List UInt8) (text : List Char) : Prop :=
  ∃ (places : List (Fin alphabet.length)) (zeros padding : Nat),
    text = places.map alphabet.get ++ List.replicate padding '=' ∧ padding < 4 ∧ 4 ∣ text.length ∧
      bitsOfSigns places = bitsOf bytes ++ List.replicate zeros false ∧ zeros < 6

/-! ### Bits -/

/-- A number is written with as many bits as it is asked for. -/
theorem length_bits (width n : Nat) : (bits width n).length = width := by
  induction width with
  | zero => rfl
  | succ width ih => rw [bits, List.length_cons, ih]

/-- Only the lowest bits of a number count. -/
theorem bits_congr {width n m : Nat} (h : ∀ i < width, n.testBit i = m.testBit i) :
    bits width n = bits width m := by
  induction width with
  | zero => rfl
  | succ width ih =>
      rw [bits, bits, h width (Nat.lt_succ_self width),
        ih fun i hi => h i (Nat.lt_succ_of_lt hi)]

/-- **A number in two parts** has the bits of its high part, and behind them those of its low part. -/
theorem bits_add (width : Nat) {low high n : Nat} (hlow : low < 2 ^ width) (m : Nat)
    (hn : n = 2 ^ width * high + low) : bits (m + width) n = bits m high ++ bits width low := by
  subst hn
  induction m with
  | zero =>
      rw [Nat.zero_add, bits, List.nil_append]
      refine bits_congr fun i hi => ?_
      rw [Nat.testBit_two_pow_mul_add _ hlow, if_pos hi]
  | succ m ih =>
      have hhigh : (2 ^ width * high + low).testBit (m + width) = high.testBit m := by
        rw [Nat.testBit_two_pow_mul_add _ hlow, if_neg (by omega), Nat.add_sub_cancel]
      rw [Nat.succ_add, bits, bits, ih, hhigh, List.cons_append]

/-- Zero has no bit. -/
theorem bits_zero (width : Nat) : bits width 0 = List.replicate width false := by
  induction width with
  | zero => rfl
  | succ width ih => rw [bits, ih, Nat.zero_testBit, List.replicate_succ]

/-- Numbers of some width can be told from their bits. -/
theorem eq_of_bits_eq {width n m : Nat} (hn : n < 2 ^ width) (hm : m < 2 ^ width)
    (h : bits width n = bits width m) : n = m := by
  induction width generalizing n m with
  | zero => omega
  | succ width ih =>
      have hcut (k : Nat) : k = 2 ^ width * (k / 2 ^ width) + k % 2 ^ width :=
        (Nat.div_add_mod k (2 ^ width)).symm
      have hpos : 0 < 2 ^ width := Nat.two_pow_pos width
      have hlt {k : Nat} (hk : k < 2 ^ (width + 1)) : k / 2 ^ width < 2 :=
        Nat.div_lt_of_lt_mul (by rwa [Nat.pow_succ] at hk)
      have hcons (k : Nat) :
          bits (width + 1) k = bits 1 (k / 2 ^ width) ++ bits width (k % 2 ^ width) :=
        (congrArg (bits · k) (Nat.add_comm width 1)).trans
          (bits_add width (Nat.mod_lt k hpos) 1 (hcut k))
      rw [hcons, hcons] at h
      obtain ⟨hhigh, hlow⟩ := List.append_inj h (by rw [length_bits, length_bits])
      have hfirst : n / 2 ^ width = m / 2 ^ width := by
        have hall : ∀ i < 2, ∀ j < 2, bits 1 i = bits 1 j → i = j := by decide
        exact hall _ (hlt hn) _ (hlt hm) hhigh
      have hrest := ih (Nat.mod_lt n hpos) (Nat.mod_lt m hpos) hlow
      rw [hcut n, hcut m, hfirst, hrest]

/-- The bits of the last sign, which is filled up with zeros. -/
theorem bits_mul (m width high : Nat) :
    bits (m + width) (high * 2 ^ width) = bits m high ++ List.replicate width false := by
  rw [← bits_zero width]
  exact bits_add width (Nat.two_pow_pos width) m (by rw [Nat.mul_comm, Nat.add_zero])

/-! ### The encoder -/

/-- The place of a sign. -/
def place (n : Nat) (h : n < 64) : Fin alphabet.length := ⟨n, length_alphabet ▸ h⟩

/-- The signs stand in the alphabet in order. -/
theorem sign_eq_get : ∀ place : Fin alphabet.length, sign place = alphabet.get place := by
  decide

/-- So a number has the sign at its place. -/
theorem sign_eq {n : Nat} (h : n < 64) : sign n = alphabet.get (place n h) := sign_eq_get (place n h)

/-- **Four signs** have the bits of three bytes: each byte is cut where a sign ends. -/
theorem bits_group (a b c : UInt8) :
    bits 6 (a.toNat / 4) ++ (bits 6 (a.toNat % 4 * 16 + b.toNat / 16) ++
      (bits 6 (b.toNat % 16 * 4 + c.toNat / 64) ++ bits 6 (c.toNat % 64))) =
        bits 8 a.toNat ++ (bits 8 b.toNat ++ bits 8 c.toNat) := by
  have ha : bits 8 a.toNat = bits 6 (a.toNat / 4) ++ bits 2 (a.toNat % 4) :=
    bits_add 2 (by omega) 6 (by omega)
  have hab :
      bits 6 (a.toNat % 4 * 16 + b.toNat / 16) = bits 2 (a.toNat % 4) ++ bits 4 (b.toNat / 16) :=
    bits_add 4 (by have := b.toNat_lt; omega) 2 (by omega)
  have hb : bits 8 b.toNat = bits 4 (b.toNat / 16) ++ bits 4 (b.toNat % 16) :=
    bits_add 4 (by omega) 4 (by omega)
  have hbc :
      bits 6 (b.toNat % 16 * 4 + c.toNat / 64) = bits 4 (b.toNat % 16) ++ bits 2 (c.toNat / 64) :=
    bits_add 2 (by have := c.toNat_lt; omega) 4 (by omega)
  have hc : bits 8 c.toNat = bits 2 (c.toNat / 64) ++ bits 6 (c.toNat % 64) :=
    bits_add 6 (by omega) 2 (by omega)
  rw [ha, hab, hb, hbc, hc]
  simp only [List.append_assoc]

/-- Three signs for two bytes: the last one has two zeros. -/
theorem bits_pair (a b : UInt8) :
    bits 6 (a.toNat / 4) ++ (bits 6 (a.toNat % 4 * 16 + b.toNat / 16) ++ bits 6 (b.toNat % 16 * 4)) =
      bits 8 a.toNat ++ bits 8 b.toNat ++ List.replicate 2 false := by
  have ha : bits 8 a.toNat = bits 6 (a.toNat / 4) ++ bits 2 (a.toNat % 4) :=
    bits_add 2 (by omega) 6 (by omega)
  have hab :
      bits 6 (a.toNat % 4 * 16 + b.toNat / 16) = bits 2 (a.toNat % 4) ++ bits 4 (b.toNat / 16) :=
    bits_add 4 (by have := b.toNat_lt; omega) 2 (by omega)
  have hb : bits 8 b.toNat = bits 4 (b.toNat / 16) ++ bits 4 (b.toNat % 16) :=
    bits_add 4 (by omega) 4 (by omega)
  rw [ha, hab, hb, show b.toNat % 16 * 4 = b.toNat % 16 * 2 ^ 2 from rfl, bits_mul 4 2]
  simp only [List.append_assoc]

/-- Two signs for one byte: the last one has four zeros. -/
theorem bits_single (a : UInt8) :
    bits 6 (a.toNat / 4) ++ bits 6 (a.toNat % 4 * 16) = bits 8 a.toNat ++ List.replicate 4 false := by
  have ha : bits 8 a.toNat = bits 6 (a.toNat / 4) ++ bits 2 (a.toNat % 4) :=
    bits_add 2 (by omega) 6 (by omega)
  rw [ha, show a.toNat % 4 * 16 = a.toNat % 4 * 2 ^ 4 from rfl, bits_mul 2 4, List.append_assoc]

/-- **The encoder** writes base64. The induction is on groups of three bytes. -/
theorem isBase64_encode (bytes : List UInt8) : IsBase64 bytes (encode bytes) := by
  fun_induction encode bytes with
  | case1 => exact ⟨[], 0, 0, rfl, by decide, by decide, rfl, by decide⟩
  | case2 a =>
      have ha : a.toNat / 4 < 64 := by have := a.toNat_lt; omega
      have hlast : a.toNat % 4 * 16 < 64 := by omega
      refine ⟨[place _ ha, place _ hlast], 4, 2, ?_, by decide, by simp, ?_, by decide⟩
      · rw [sign_eq ha, sign_eq hlast]
        rfl
      · simpa [bitsOfSigns, bitsOf, place] using bits_single a
  | case3 a b =>
      have ha : a.toNat / 4 < 64 := by have := a.toNat_lt; omega
      have hab : a.toNat % 4 * 16 + b.toNat / 16 < 64 := by have := b.toNat_lt; omega
      have hlast : b.toNat % 16 * 4 < 64 := by omega
      refine ⟨[place _ ha, place _ hab, place _ hlast], 2, 1, ?_, by decide, by simp, ?_, by decide⟩
      · rw [sign_eq ha, sign_eq hab, sign_eq hlast]
        rfl
      · simpa [bitsOfSigns, bitsOf, place] using bits_pair a b
  | case4 a b c rest ih =>
      obtain ⟨places, zeros, padding, htext, hpadding, hfour, hbits, hzeros⟩ := ih
      have ha : a.toNat / 4 < 64 := by have := a.toNat_lt; omega
      have hab : a.toNat % 4 * 16 + b.toNat / 16 < 64 := by have := b.toNat_lt; omega
      have hbc : b.toNat % 16 * 4 + c.toNat / 64 < 64 := by have := c.toNat_lt; omega
      have hc : c.toNat % 64 < 64 := by omega
      refine ⟨place _ ha :: place _ hab :: place _ hbc :: place _ hc :: places, zeros, padding, ?_,
        hpadding, ?_, ?_, hzeros⟩
      · rw [sign_eq ha, sign_eq hab, sign_eq hbc, sign_eq hc, htext]
        rfl
      · simp only [List.length_cons]
        omega
      · have hgroup := bits_group a b c
        simp only [bitsOfSigns, bitsOf, List.flatMap_cons, place] at hbits ⊢
        rw [hbits]
        simpa only [List.append_assoc, bitsOf] using
          congrArg (· ++ (bitsOf rest ++ List.replicate zeros false)) hgroup

/-! ### One text only -/

/-- Each sign stands for six bits. -/
theorem length_bitsOfSigns (places : List (Fin alphabet.length)) :
    (bitsOfSigns places).length = 6 * places.length := by
  induction places with
  | nil => rfl
  | cons place places ih =>
      rw [bitsOfSigns, List.flatMap_cons, List.length_append, length_bits, List.length_cons,
        ← bitsOfSigns, ih]
      omega

/-- Each byte has eight bits. -/
theorem length_bitsOf (bytes : List UInt8) : (bitsOf bytes).length = 8 * bytes.length := by
  induction bytes with
  | nil => rfl
  | cons b bytes ih =>
      rw [bitsOf, List.flatMap_cons, List.length_append, length_bits, List.length_cons, ← bitsOf, ih]
      omega

/-- Signs can be told from their bits. -/
theorem bitsOfSigns_injective : Function.Injective bitsOfSigns := by
  intro places places' h
  have hlength : places.length = places'.length := by
    have := congrArg List.length h
    rw [length_bitsOfSigns, length_bitsOfSigns] at this
    omega
  induction places generalizing places' with
  | nil => exact (List.eq_nil_of_length_eq_zero hlength.symm).symm
  | cons place places ih =>
      obtain ⟨place', places', rfl⟩ := List.exists_cons_of_length_eq_add_one hlength.symm
      simp only [bitsOfSigns, List.flatMap_cons] at h
      obtain ⟨hfirst, hrest⟩ := List.append_inj h (by rw [length_bits, length_bits])
      have hlt (place : Fin alphabet.length) : place.val < 2 ^ 6 :=
        place.isLt.trans_eq length_alphabet
      have hplace := Fin.ext (eq_of_bits_eq (hlt place) (hlt place') hfirst)
      exact congrArg₂ _ hplace (ih hrest (Nat.succ.inj hlength))

variable {bytes : List UInt8} {text text' : List Char}

/-- Bytes have one base64 text only: the number of zeros follows from the number of bytes, and with it
the signs and the padding. -/
theorem IsBase64.unique (h : IsBase64 bytes text) (h' : IsBase64 bytes text') : text = text' := by
  obtain ⟨places, zeros, padding, rfl, hpadding, hfour, hbits, hzeros⟩ := h
  obtain ⟨places', zeros', padding', rfl, hpadding', hfour', hbits', hzeros'⟩ := h'
  have hlength := congrArg List.length hbits
  have hlength' := congrArg List.length hbits'
  simp only [List.length_append, List.length_replicate, length_bitsOfSigns, length_bitsOf]
    at hlength hlength'
  obtain rfl : zeros = zeros' := by omega
  obtain rfl : places = places' := bitsOfSigns_injective (hbits.trans hbits'.symm)
  simp only [List.length_append, List.length_map, List.length_replicate] at hfour hfour'
  obtain rfl : padding = padding' := by omega
  rfl

/-- **The encoder** writes the one base64 text of its bytes. -/
theorem isBase64_iff : IsBase64 bytes text ↔ text = encode bytes :=
  ⟨fun h => h.unique (isBase64_encode bytes), fun h => h ▸ isBase64_encode bytes⟩

/-- Two bytes, whose last sign is filled up with bits and whose text is filled up with an equals
sign. -/
example : encode [0x4D, 0x61] = ['T', 'W', 'E', '='] := by decide

/-- A base64 text holds signs of the alphabet and equals signs. -/
theorem IsBase64.mem (h : IsBase64 bytes text) : ∀ c ∈ text, c ∈ alphabet ∨ c = '=' := by
  obtain ⟨places, zeros, padding, rfl, -⟩ := h
  intro c hc
  rcases List.mem_append.mp hc with hc | hc
  · obtain ⟨place, -, rfl⟩ := List.mem_map.mp hc
    exact .inl (alphabet.get_mem place)
  · exact .inr (List.mem_replicate.mp hc).2

end Switchboard.Text.Base64
