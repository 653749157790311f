import Switchboard.Net.Url.Parse
import Switchboard.Proofs.Net.Hosts
import Switchboard.Proofs.Net.Percent
import Switchboard.Proofs.Text.Pieces
import Switchboard.Proofs.Text.Utf8

/-!
# Hosts are read back

A host that was read is written in a normal form, and reading this form again gives the same host. A
domain name that was read is the one in ASCII, which stands for itself, nothing of it is decoded any
more, and its last part is no number. An address of version 4 is written with four numbers, each of
which fills a byte. In an address of version 6 the double colon stands where the longest run of zero
pieces was, and nowhere else, since no group between colons is empty.

## Main results

* `Ipv4.ipv4Of_text`, `Ipv6.parse?_text`: addresses are read back.
* `Host.parse_text`: so are hosts that were read.
* `Host.splitPort_text`: where a written host ends.
-/

namespace Switchboard.Net

open Text (Split.all Split.once)

/-! ### Version 4 -/

/-- A character that is no digit stands in no number. -/
theorem not_mem_toDigits {base n : Nat} (hbase : 1 < base) (hle : base ≤ 16) {c : Char}
    (hc : ∀ d < 16, Nat.digitChar d ≠ c) : c ∉ Nat.toDigits base n := by
  intro hmem
  obtain ⟨d, hd, rfl⟩ := Text.exists_digitChar_of_mem_toDigits hbase hmem
  exact hc d (hd.trans_le hle) rfl

/-- A decimal number is read as a part of an address. -/
theorem Host.number?_toDigits (n : Nat) : number? (Nat.toDigits 10 n) = some n := by
  have hread : Text.Hex.numberIn 10 (Nat.toDigits 10 n) = some n :=
    Text.Hex.numberIn_toDigits (by decide) (by decide) n
  obtain ⟨d, ds, hdigits, hzero⟩ := Text.exists_toDigits_eq_cons n
  by_cases hd : d = '0'
  · rw [hzero hd]
    rfl
  · rw [hdigits] at hread ⊢
    unfold number?
    split
    · next h => exact absurd h (by simp)
    · next h => exact absurd (List.cons.inj h).1 hd
    · next h => exact absurd (List.cons.inj h).1 hd
    · next h => exact absurd (List.cons.inj h).1 hd
    · exact hread

namespace Ipv4

/-- An address of version 4 falls into its numbers. -/
theorem all_text (address : Ipv4) :
    Split.all '.' address.text = address.octets.map (Nat.toDigits 10) := by
  rw [Text.Split.all_eq_splitOn, text, List.splitOn_intercalate]
  · intro piece hpiece
    obtain ⟨n, -, rfl⟩ := List.mem_map.mp hpiece
    exact not_mem_toDigits (by decide) (by decide) (by decide)
  · simp [octets]

/-- All four of them count as parts. -/
theorem parts_text (address : Ipv4) :
    Host.parts address.text = address.octets.map (Nat.toDigits 10) := by
  have hlast : (address.octets.map (Nat.toDigits 10)).getLast? ≠ some [] := by
    intro h
    obtain ⟨n, -, hn⟩ := List.mem_map.mp (List.mem_of_getLast? h)
    exact Nat.toDigits_ne_nil hn
  rw [Host.parts, all_text]
  exact if_neg fun h => hlast h.2

/-- Four bytes make an address. -/
theorem ofNumbers_octets (address : Ipv4) :
    Host.ofNumbers address.octets = .ok (.ipv4 address) := by
  obtain ⟨bits⟩ := address
  have hpow : Nat.pow 256 (4 - 3) = 256 := rfl
  have hvalue : (256 * (256 * (256 * 0 + bits.toNat / 16777216 % 256) + bits.toNat / 65536 % 256) +
      bits.toNat / 256 % 256) * 256 + bits.toNat % 256 = bits.toNat := by
    have hbits : bits.toNat < 4294967296 := bits.toNat_lt
    omega
  unfold Host.ofNumbers octets
  simp only [List.dropLast_cons_cons, List.dropLast_singleton, List.length_cons, List.length_nil,
    List.any_cons, List.any_nil, List.foldl_cons, List.foldl_nil, List.getLastD_cons,
    List.getLastD_nil, Nat.zero_add, Nat.reduceAdd, hpow]
  rw [if_neg]
  · rw [hvalue, UInt32.ofNat_toNat]
  · simp only [Bool.or_eq_true, decide_eq_true_eq, Bool.false_eq_true, or_false, not_or, Nat.not_lt,
      Nat.not_le]
    omega

/-- **Addresses of version 4** are read back. -/
theorem ipv4Of_text (address : Ipv4) : Host.ipv4Of address.text = .ok (.ipv4 address) := by
  have hnumbers : (address.octets.map (Nat.toDigits 10)).mapM Host.number? = some address.octets := by
    simp [octets, Host.number?_toDigits]
  rw [Host.ipv4Of, parts_text, hnumbers]
  exact ofNumbers_octets address

/-- An address of version 4 ends in a number, so it is read as one. -/
theorem endsInNumber_text (address : Ipv4) : Host.endsInNumber address.text := by
  have hdigits (n : Nat) : (Nat.toDigits 10 n).all Char.isDigit :=
    List.all_eq_true.mpr fun c hc => Nat.isDigit_of_mem_toDigits (by decide) (by decide) hc
  rw [Host.endsInNumber, parts_text]
  simp [octets, hdigits]

/-- An address of version 4 is a name of labels in ASCII: its numbers. -/
theorem toAscii?_text (address : Ipv4) : Idna.toAscii? address.text = some address.text := by
  have hdigit : ∀ d < 10, ((Nat.digitChar d).toNat < 0x80 ∧
      (Nat.digitChar d).toLower = Nat.digitChar d) ∧ Nat.digitChar d ≠ '.' ∧
        Nat.digitChar d ≠ 'x' := by decide
  have hnumber {piece : List Char} (hpiece : piece ∈ address.octets.map (Nat.toDigits 10)) {c : Char}
      (hc : c ∈ piece) : Idna.IsSmall c ∧ c ≠ '.' ∧ c ≠ 'x' := by
    obtain ⟨n, -, rfl⟩ := List.mem_map.mp hpiece
    obtain ⟨d, hd, rfl⟩ := Text.exists_digitChar_of_mem_toDigits (by decide) hc
    exact hdigit d hd
  refine Idna.toAscii?_plain (by simp [octets]) (fun piece hpiece c hc => (hnumber hpiece hc).1)
    (fun piece hpiece hc => (hnumber hpiece hc).2.1 rfl) fun piece hpiece hprefix => ?_
  have hx : 'x' ∈ piece :=
    (List.isPrefixOf_iff_prefix.mp hprefix).subset (by decide : 'x' ∈ Idna.acePrefix)
  exact (hnumber hpiece hx).2.2 rfl

end Ipv4

/-! ### Version 6 -/

namespace Ipv6

/-- A number holds no colon. -/
theorem colon_not_mem_toDigits (n : Nat) : ':' ∉ Nat.toDigits 16 n :=
  not_mem_toDigits (by decide) (by decide) (by decide)

/-- **A piece** is read back from its digits. -/
theorem piece?_toDigits (piece : UInt16) : piece? (Nat.toDigits 16 piece.toNat) = some piece := by
  have hlength : (Nat.toDigits 16 piece.toNat).length ≤ 4 :=
    (Nat.length_toDigits_le_iff (by decide) (by decide)).mpr piece.toNat_lt
  have hread : Text.Hex.number? (Nat.toDigits 16 piece.toNat) = some piece.toNat :=
    Text.Hex.numberIn_toDigits (by decide) (by decide) piece.toNat
  unfold piece?
  rw [if_neg, hread, Option.map_some, UInt16.ofNat_toNat]
  simp only [Bool.or_eq_true, List.isEmpty_iff, Nat.toDigits_ne_nil, false_or, decide_eq_true_eq]
  exact Nat.not_lt.mpr hlength

/-- Pieces in front of the double colon are read back from their digits. -/
theorem mapM_piece? (pieces : List UInt16) :
    (pieces.map fun piece => Nat.toDigits 16 piece.toNat).mapM piece? = some pieces := by
  induction pieces with
  | nil => rfl
  | cons piece pieces ih =>
      rw [List.map_cons, List.mapM_cons, piece?_toDigits, ih]
      rfl

/-- Pieces at the end are read back, where an address of version 4 might stand. -/
theorem groups?_map (pieces : List UInt16) :
    groups? (pieces.map fun piece => Nat.toDigits 16 piece.toNat) = some pieces := by
  induction pieces with
  | nil => rfl
  | cons piece pieces ih =>
      cases pieces with
      | nil =>
          rw [List.map_cons, List.map_nil, groups?, piece?_toDigits]
      | cons next pieces =>
          rw [List.map_cons, List.map_cons, groups?, piece?_toDigits]
          · rw [List.map_cons] at ih
            rw [ih]
            rfl
          · exact nofun

/-- A single piece, as it is written. -/
theorem groupText_singleton (piece : UInt16) :
    groupText [piece] = Nat.toDigits 16 piece.toNat := by
  rw [groupText, List.map_cons, List.map_nil, List.intercalate_singleton]

/-- Pieces are written with a colon between them. -/
theorem groupText_cons_cons (piece next : UInt16) (pieces : List UInt16) :
    groupText (piece :: next :: pieces) =
      Nat.toDigits 16 piece.toNat ++ ':' :: groupText (next :: pieces) := by
  rw [groupText, List.map_cons, List.map_cons, List.intercalate_cons_cons, List.append_assoc,
    List.singleton_append]
  rfl

/-- Groups begin with a digit. -/
theorem exists_groupText_eq_cons (piece : UInt16) (pieces : List UInt16) :
    ∃ d ds, groupText (piece :: pieces) = d :: ds ∧ d ≠ ':' := by
  obtain ⟨d, ds, hdigits⟩ := List.exists_cons_of_ne_nil
    (Nat.toDigits_ne_nil (n := piece.toNat) (b := 16))
  have hd : d ≠ ':' := fun hd => colon_not_mem_toDigits piece.toNat
    (hdigits ▸ hd ▸ List.mem_cons_self)
  cases pieces with
  | nil => exact ⟨d, ds, by rw [groupText_singleton, hdigits], hd⟩
  | cons next pieces =>
      exact ⟨d, ds ++ ':' :: groupText (next :: pieces),
        by rw [groupText_cons_cons, hdigits, List.cons_append], hd⟩

/-- Groups are read piece by piece. -/
theorem pieces?_groupText {groups? : List (List Char) → Option (List UInt16)} (pieces : List UInt16)
    (hgroups : groups? (pieces.map fun piece => Nat.toDigits 16 piece.toNat) = some pieces) :
    pieces? groups? (groupText pieces) = some pieces := by
  cases pieces with
  | nil => rfl
  | cons piece pieces =>
      have hsplit : Split.all ':' (groupText (piece :: pieces)) =
          (piece :: pieces).map fun piece => Nat.toDigits 16 piece.toNat := by
        rw [Text.Split.all_eq_splitOn, groupText, List.splitOn_intercalate]
        · intro group hgroup
          obtain ⟨other, -, rfl⟩ := List.mem_map.mp hgroup
          exact colon_not_mem_toDigits _
        · exact List.cons_ne_nil _ _
      obtain ⟨d, ds, hcons, -⟩ := exists_groupText_eq_cons piece pieces
      rw [pieces?, hsplit, hgroups, hcons]
      rfl

/-! Where the double colon stands -/

/-- Text without a colon holds no double colon, and no half of one. -/
theorem once_append_of_not_mem {cs : List Char} (hcs : ':' ∉ cs) (tail : List Char) :
    Split.once [':', ':'] (cs ++ tail) =
      (Split.once [':', ':'] tail).map fun parts => (cs ++ parts.1, parts.2) := by
  induction cs with
  | nil => simp
  | cons c cs ih =>
      rw [List.mem_cons, not_or] at hcs
      have hprefix : ¬ [':', ':'].isPrefixOf (c :: (cs ++ tail)) := by simpa using fun h => absurd h hcs.1
      rw [List.cons_append, Split.once, if_neg hprefix, ih hcs.2, Option.map_map]
      rfl

/-- A colon that no other one follows is no double colon. -/
theorem once_cons_colon {tail : List Char} (htail : tail.head? ≠ some ':') :
    Split.once [':', ':'] (':' :: tail) =
      (Split.once [':', ':'] tail).map fun parts => (':' :: parts.1, parts.2) := by
  have hprefix : ¬ [':', ':'].isPrefixOf (':' :: tail) := by
    cases tail with
    | nil => simp
    | cons c tail => simpa using fun h => htail (congrArg some h.symm)
  rw [Split.once, if_neg hprefix]

/-- Groups of digits hold no double colon. -/
theorem once_groupText_append (pieces : List UInt16) (tail : List Char) :
    Split.once [':', ':'] (groupText pieces ++ tail) =
      (Split.once [':', ':'] tail).map fun parts => (groupText pieces ++ parts.1, parts.2) := by
  induction pieces with
  | nil => simp [groupText]
  | cons piece pieces ih =>
      have hdigits := once_append_of_not_mem (colon_not_mem_toDigits piece.toNat)
      cases pieces with
      | nil => rw [groupText_singleton, hdigits]
      | cons next pieces =>
          obtain ⟨d, ds, hcons, hd⟩ := exists_groupText_eq_cons next pieces
          have hhead : (groupText (next :: pieces) ++ tail).head? ≠ some ':' := by
            rw [hcons]
            exact fun h => hd (Option.some.inj h)
          rw [groupText_cons_cons, List.append_assoc, List.cons_append, hdigits,
            once_cons_colon hhead, ih, Option.map_map, Option.map_map]
          simp only [Function.comp_def, List.append_assoc, List.cons_append]

/-! The run of zeros -/

/-- A run of zeros between what is in front of it and what is behind it. -/
def IsRun (pieces : List UInt16) (run : Nat × Nat) : Prop :=
  pieces = pieces.take run.1 ++ List.replicate run.2 0 ++ pieces.drop (run.1 + run.2)

/-- The zeros from any piece on are a run. -/
theorem isRun_takeWhile (pieces : List UInt16) (start : Nat) :
    IsRun pieces (start, ((pieces.drop start).takeWhile (· = 0)).length) := by
  have hzeros : (pieces.drop start).takeWhile (· = 0) =
      List.replicate ((pieces.drop start).takeWhile (· = 0)).length 0 :=
    List.eq_replicate_iff.mpr ⟨rfl, fun piece hpiece => by
      simpa using List.mem_takeWhile_imp hpiece⟩
  have hrest : pieces.drop (start + ((pieces.drop start).takeWhile (· = 0)).length) =
      (pieces.drop start).dropWhile (· = 0) := by
    have hdrop : (((pieces.drop start).takeWhile (· = 0)) ++ (pieces.drop start).dropWhile (· = 0)).drop
        ((pieces.drop start).takeWhile (· = 0)).length = (pieces.drop start).dropWhile (· = 0) :=
      List.drop_left
    rwa [List.takeWhile_append_dropWhile, List.drop_drop] at hdrop
  rw [IsRun, ← hzeros, hrest, List.append_assoc, List.takeWhile_append_dropWhile,
    List.take_append_drop]

/-- **The longest run** is a run of zeros. -/
theorem isRun_longestZeros (pieces : List UInt16) : IsRun pieces (longestZeros pieces) := by
  have hfold (starts : List Nat) (best : Nat × Nat) (hbest : IsRun pieces best) :
      IsRun pieces (starts.foldl (fun best start =>
        let length := ((pieces.drop start).takeWhile (· = 0)).length
        if best.2 < length then (start, length) else best) best) := by
    induction starts generalizing best with
    | nil => exact hbest
    | cons start starts ih =>
        refine ih _ ?_
        simp only
        split
        · exact isRun_takeWhile pieces start
        · exact hbest
  exact hfold _ _ (by simp [IsRun])

/-- **Addresses of version 6** are read back. -/
theorem parse?_text (address : Ipv6) : parse? address.text = some address := by
  obtain ⟨pieces, hlength⟩ := address
  have hrun := isRun_longestZeros pieces
  unfold text parse?
  generalize longestZeros pieces = run at hrun
  obtain ⟨start, length⟩ := run
  simp only
  by_cases hshort : length < 2
  · have hnone : Split.once [':', ':'] (groupText pieces) = none := by
      have honce := once_groupText_append pieces []
      rwa [List.append_nil] at honce
    rw [if_pos hshort, hnone]
    simp only [pieces?_groupText pieces (groups?_map pieces), Option.bind_some, ofPieces?,
      dif_pos hlength]
  · have hsplit : Split.once [':', ':'] (groupText (pieces.take start) ++ [':', ':'] ++
        groupText (pieces.drop (start + length))) =
          some (groupText (pieces.take start), groupText (pieces.drop (start + length))) := by
      rw [List.append_assoc, once_groupText_append]
      simp [Split.once]
    have htotal := congrArg List.length hrun
    simp only [List.length_append, List.length_replicate, hlength] at htotal
    have hrest : 8 - ((pieces.take start).length + (pieces.drop (start + length)).length) = length := by
      omega
    have hroom : (pieces.take start).length + (pieces.drop (start + length)).length < 8 := by omega
    rw [if_neg hshort, hsplit]
    simp only [pieces?_groupText _ (mapM_piece? _), pieces?_groupText _ (groups?_map _),
      Option.bind_eq_bind, Option.bind_some, guard, if_pos hroom, hrest]
    rw [← hrun]
    exact dif_pos hlength

end Ipv6

/-! ### Hosts -/

namespace Host

open Text.Utf8 (encodeChars)

/-- A host as it is kept. -/
def IsNormal : Host → Prop
  | domain name =>
    name ≠ [] ∧ (∀ c ∈ name, isNameChar c) ∧ Idna.toAscii? name = some name ∧ ¬ endsInNumber name
  | _ => True

/-- **A host** that was read is in its normal form. -/
theorem isNormal_of_parse {cs : List Char} {host : Host} (h : parse cs = .ok host) :
    host.IsNormal := by
  rcases exists_of_parse h with ⟨address, rfl⟩ | ⟨address, rfl⟩ | ⟨name, rfl, hname⟩
  · trivial
  · trivial
  · exact hname

/-! Names are read back -/

/-- A name in ASCII without forbidden characters stands for itself: nothing of it is decoded. -/
theorem domain?_eq_self {name : List Char} (h : ∀ c ∈ name, isNameChar c)
    (hascii : Idna.toAscii? name = some name) : domain? name = some name := by
  have hforbidden {c : Char} (hc : c ∈ name) : ¬ isForbidden c := by
    have hc := h c hc
    simp only [isNameChar, Bool.and_eq_true, Bool.not_eq_true'] at hc
    simp [hc.1.2]
  have hpercent : 0x25 ∉ encodeChars name := by
    intro hmem
    obtain ⟨c, hc, hb⟩ := List.mem_flatMap.mp hmem
    rcases Text.Utf8.plain_or_high_of_mem_encodeChar hb with ⟨-, hsame⟩ | hhigh
    · have hsign : c = '%' := Char.toNat_inj.mp hsame.symm
      exact hforbidden hc (hsign ▸ by decide)
    · exact absurd hhigh (by decide)
  have hdecode : Text.Utf8.decodeChars (Percent.decode (encodeChars name)) = some name := by
    rw [Percent.decode_eq_self hpercent, Text.Utf8.decodeChars, Text.Utf8.units_encodeChars,
      Text.Utf8.sequence_map_some]
  have hallowed : !name.any isForbidden := by
    rw [Bool.not_eq_true', List.any_eq_false]
    exact fun c => hforbidden
  simp only [domain?, hdecode, hascii, Option.bind_eq_bind, Option.bind_some, guard, if_pos hallowed]
  rfl

/-- A name that stands for itself is read as an address of version 4 if it ends in a number, and as
a domain otherwise. -/
theorem parse_eq_of_name {name : List Char} (hne : name ≠ []) (h : ∀ c ∈ name, isNameChar c)
    (hascii : Idna.toAscii? name = some name) :
    parse name = if endsInNumber name then ipv4Of name else .ok (.domain name) := by
  obtain ⟨c, cs, rfl⟩ := List.exists_cons_of_ne_nil hne
  have hbracket : c ≠ '[' := by
    rintro rfl
    exact absurd (h '[' List.mem_cons_self) (by decide)
  unfold parse
  split
  · next heq => exact absurd (List.cons.inj heq).1 hbracket
  · rw [domain?_eq_self h hascii]

/-- **Hosts** that were read are read back. -/
theorem parse_text {host : Host} (h : host.IsNormal) : parse host.text = .ok host := by
  cases host with
  | domain name =>
      obtain ⟨hne, hname, hascii, hend⟩ := h
      exact (parse_eq_of_name hne hname hascii).trans (if_neg hend)
  | ipv4 address =>
      exact (parse_eq_of_name (isPlace_ipv4 address).1 (fun c => Ipv4.isNameChar_of_mem_text)
        address.toAscii?_text).trans ((if_pos (address.endsInNumber_text)).trans address.ipv4Of_text)
  | ipv6 address =>
      have hreverse : (address.text ++ [']']).reverse = ']' :: address.text.reverse := by
        rw [List.reverse_append, List.reverse_singleton, List.singleton_append]
      change bracketed (address.text ++ [']']) = _
      rw [bracketed, hreverse]
      simp only [List.reverse_reverse, address.parse?_text]

end Host

/-! ### Ports -/

/-- Groups hold no bracket. -/
theorem Ipv6.bracket_not_mem_groupText (pieces : List UInt16) : ']' ∉ groupText pieces := by
  intro hmem
  rcases Text.mem_of_mem_intercalate hmem with hc | ⟨group, hgroup, hc⟩
  · exact absurd (List.mem_singleton.mp hc) (by decide)
  · obtain ⟨piece, -, rfl⟩ := List.mem_map.mp hgroup
    exact not_mem_toDigits (by decide) (by decide) (by decide) hc

/-- So the bracket behind an address of version 6 is the first one. -/
theorem Ipv6.bracket_not_mem_text (address : Ipv6) : ']' ∉ address.text := by
  unfold text
  simp only
  split
  · exact bracket_not_mem_groupText _
  · simp only [List.mem_append, bracket_not_mem_groupText, false_or, or_false]
    decide

namespace Url

/-- Nothing behind a host, or a colon in front of a port. -/
def StartsPort (port : List Char) : Prop := ∀ c ∈ port.head?, c = ':'

/-- At the port there is nothing left of the host. -/
theorem splitPort_of_startsPort {port : List Char} (h : StartsPort port) :
    splitPort false port = ([], port) := by
  cases port with
  | nil => rfl
  | cons c port =>
      obtain rfl := h c rfl
      rfl

/-- A name holds no colon, so the port is behind it. -/
theorem splitPort_name_append {name : List Char} (h : ∀ c ∈ name, Host.isNameChar c)
    (port : List Char) :
    splitPort false (name ++ port) =
      (name ++ (splitPort false port).1, (splitPort false port).2) := by
  induction name with
  | nil => rfl
  | cons c name ih =>
      obtain ⟨hc, hname⟩ := List.forall_mem_cons.mp h
      have hne (d : Char) (hd : Host.isNameChar d = false) : c ≠ d := by
        rintro rfl
        exact absurd hc (by simp [hd])
      rw [List.cons_append, splitPort, if_neg (by simp [hne ':' (by decide)])]
      simp only [hne '[' (by decide), decide_false, Bool.false_and, Bool.or_self, ih hname]
      rfl

/-- Between brackets a colon stands for itself. -/
theorem splitPort_brackets_append {inner : List Char} (h : ']' ∉ inner) (port : List Char) :
    splitPort true (inner ++ ']' :: port) =
      (inner ++ ']' :: (splitPort false port).1, (splitPort false port).2) := by
  induction inner with
  | nil => rfl
  | cons c inner ih =>
      rw [List.mem_cons, not_or] at h
      rw [List.cons_append, splitPort, if_neg (by simp)]
      simp only [Ne.symm h.1, ne_eq, not_false_eq_true, decide_true, Bool.true_and, Bool.or_true,
        ih h.2]
      rfl

end Url

/-- **Where a host ends**: at the colon in front of the port. -/
theorem Host.splitPort_text {host : Host} (h : host.IsNormal) {port : List Char}
    (hport : Url.StartsPort port) : Url.splitPort false (host.text ++ port) = (host.text, port) := by
  have hrest := Url.splitPort_of_startsPort hport
  cases host with
  | domain name =>
      rw [text, Url.splitPort_name_append h.2.1, hrest, List.append_nil]
  | ipv4 address =>
      rw [text, Url.splitPort_name_append fun c => Ipv4.isNameChar_of_mem_text, hrest, List.append_nil]
  | ipv6 address =>
      have hinner := Url.splitPort_brackets_append address.bracket_not_mem_text port
      rw [hrest] at hinner
      change Url.splitPort false ('[' :: (address.text ++ [']'] ++ port)) = _
      rw [List.append_assoc, List.singleton_append, Url.splitPort, if_neg (by simp)]
      simp only [decide_true, Bool.true_or, hinner]
      rfl

end Switchboard.Net
