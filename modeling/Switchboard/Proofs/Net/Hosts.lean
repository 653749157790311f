import Mathlib.Tactic
import Switchboard.Net.Host
import Switchboard.Proofs.Net.Idna
import Switchboard.Proofs.Text.Ascii
import Switchboard.Proofs.Text.Digits

/-!
# Characters of written hosts

Where a host ends in a URL is told by slashes, by the marks of query and fragment, and by the sign
behind a user. A host that was read holds none of these characters when it is written again: a domain
name is held to the characters that are allowed in it, and addresses are written with digits, points,
colons and brackets.

## Main results

* `Host.isPlace_of_parse`: a host that was read is written without such characters.
-/

namespace Switchboard.Net

/-- Characters that end neither a host nor what is around it: no control character, no space, no
slash, no mark and no at sign. -/
def isPlaceChar (c : Char) : Bool := 0x20 < c.toNat && c ∉ ['#', '/', '?', '@', '\\']

/-- Characters of domain names as they are kept. -/
def Host.isNameChar (c : Char) : Bool := c.toNat < 0x80 && !isForbidden c && c.toLower == c

/-- Characters of names do not end the place of a host. -/
theorem Host.isPlaceChar_of_isNameChar {c : Char} (h : isNameChar c) : isPlaceChar c := by
  have hascii : c.toNat < 0x80 := by
    simp only [isNameChar, Bool.and_eq_true, decide_eq_true_eq] at h
    exact h.1.1
  obtain ⟨n, hn, rfl⟩ := Text.exists_ofNat_eq hascii
  clear hascii
  revert n
  decide

/-! ### Addresses -/

/-- Digits of bases up to sixteen. -/
theorem isPlaceChar_of_mem_toDigits {base n : Nat} (hbase : 1 < base) (hle : base ≤ 16) {c : Char}
    (hc : c ∈ Nat.toDigits base n) : isPlaceChar c := by
  have hdigits : ∀ d < 16, isPlaceChar (Nat.digitChar d) := by decide
  obtain ⟨d, hd, rfl⟩ := Text.exists_digitChar_of_mem_toDigits hbase hc
  exact hdigits d (hd.trans_le hle)

/-- Addresses of version 4 are written as names are. -/
theorem Ipv4.isNameChar_of_mem_text {address : Ipv4} {c : Char} (hc : c ∈ address.text) :
    Host.isNameChar c := by
  have hdigits : ∀ d < 10, Host.isNameChar (Nat.digitChar d) := by decide
  rcases Text.mem_of_mem_intercalate hc with hc | ⟨piece, hpiece, hc⟩
  · rw [List.mem_singleton.mp hc]
    decide
  · obtain ⟨n, -, rfl⟩ := List.mem_map.mp hpiece
    obtain ⟨d, hd, rfl⟩ := Text.exists_digitChar_of_mem_toDigits (by decide) hc
    exact hdigits d hd

/-- Groups of digits are written with characters that do not end a host. -/
theorem Ipv6.isPlaceChar_of_mem_groupText {pieces : List UInt16} {c : Char}
    (hc : c ∈ groupText pieces) : isPlaceChar c := by
  rcases Text.mem_of_mem_intercalate hc with hc | ⟨piece, hpiece, hc⟩
  · rw [List.mem_singleton.mp hc]
    decide
  · obtain ⟨n, -, rfl⟩ := List.mem_map.mp hpiece
    exact isPlaceChar_of_mem_toDigits (by decide) (by decide) hc

/-- Addresses of version 6 are written with characters that do not end a host. -/
theorem Ipv6.isPlaceChar_of_mem_text {address : Ipv6} {c : Char} (hc : c ∈ address.text) :
    isPlaceChar c := by
  unfold text at hc
  simp only at hc
  split at hc
  · exact isPlaceChar_of_mem_groupText hc
  · rw [List.mem_append, List.mem_append] at hc
    rcases hc with (hc | hc) | hc
    · exact isPlaceChar_of_mem_groupText hc
    · have hcolon : c = ':' := by simpa using hc
      rw [hcolon]
      decide
    · exact isPlaceChar_of_mem_groupText hc

/-! ### Hosts -/

namespace Host

/-- A host that is written, and without characters that would end it. -/
def IsPlace (host : Host) : Prop := host.text ≠ [] ∧ ∀ c ∈ host.text, isPlaceChar c

/-- An address of version 4 is written without characters that would end it. -/
theorem isPlace_ipv4 (address : Ipv4) : (ipv4 address).IsPlace := by
  refine ⟨?_, fun c hc => isPlaceChar_of_isNameChar (Ipv4.isNameChar_of_mem_text hc)⟩
  change ['.'].intercalate (address.octets.map (Nat.toDigits 10)) ≠ []
  simp [Ipv4.octets, List.intercalate_cons_cons]

/-- An address of version 6 in its brackets is written without characters that would end it. -/
theorem isPlace_ipv6 (address : Ipv6) : (ipv6 address).IsPlace := by
  refine ⟨List.cons_ne_nil _ _, fun c hc => ?_⟩
  rw [text, List.cons_append, List.mem_cons, List.mem_append, List.mem_singleton] at hc
  rcases hc with rfl | hc | rfl
  · decide
  · exact Ipv6.isPlaceChar_of_mem_text hc
  · decide

/-! Hosts that were read -/

/-- **A domain name** that was read is small ASCII without forbidden characters, and stands for itself:
it was written in ASCII before its characters were checked. -/
theorem isNameChar_of_domain? {cs name : List Char} (h : domain? cs = some name) :
    (∀ c ∈ name, isNameChar c) ∧ Idna.toAscii? name = some name := by
  simp only [domain?, Option.bind_eq_bind, Option.bind_eq_some_iff, Option.pure_def,
    Option.some.injEq, Option.guard_eq_some', Bool.not_eq_true', List.any_eq_false] at h
  obtain ⟨text, -, ascii, hascii, -, hallowed, rfl⟩ := h
  refine ⟨fun c hc => ?_, Idna.toAscii?_toAscii? hascii⟩
  obtain ⟨hlow, hlower⟩ := Idna.isSmall_of_toAscii? hascii hc
  simp [isNameChar, hlow, hlower, hallowed c hc]

/-- **A host** is an address, or a domain name that does not look like one. -/
theorem exists_of_parse {cs : List Char} {host : Host} (h : parse cs = .ok host) :
    (∃ address, host = ipv6 address) ∨ (∃ address, host = ipv4 address) ∨
      ∃ name, host = domain name ∧ name ≠ [] ∧ (∀ c ∈ name, isNameChar c) ∧
        Idna.toAscii? name = some name ∧ ¬ endsInNumber name := by
  unfold parse at h
  split at h
  · unfold bracketed at h
    split at h
    · split at h
      · exact .inl ⟨_, (Except.ok.inj h).symm⟩
      · exact absurd h (by simp)
    · exact absurd h (by simp)
  · split at h
    · exact absurd h (by simp)
    · exact absurd h (by simp)
    · next name hne hdomain =>
        split at h
        · unfold ipv4Of ofNumbers at h
          split at h
          · simp only at h
            split at h
            · exact absurd h (by simp)
            · exact .inr (.inl ⟨_, (Except.ok.inj h).symm⟩)
          · exact absurd h (by simp)
        · next hend =>
            obtain ⟨hchars, hascii⟩ := isNameChar_of_domain? hdomain
            exact .inr (.inr ⟨name, (Except.ok.inj h).symm, fun hnil => hne hnil, hchars, hascii, hend⟩)

/-- **Hosts** that were read are written without characters that would end them. -/
theorem isPlace_of_parse {cs : List Char} {host : Host} (h : parse cs = .ok host) :
    host.IsPlace := by
  rcases exists_of_parse h with ⟨address, rfl⟩ | ⟨address, rfl⟩ | ⟨name, rfl, hne, hname, -⟩
  · exact isPlace_ipv6 address
  · exact isPlace_ipv4 address
  · exact ⟨hne, fun c hc => isPlaceChar_of_isNameChar (hname c hc)⟩

end Host

end Switchboard.Net
