import Mathlib.Data.List.TakeWhile
import Mathlib.Tactic
import Switchboard.Net.Punycode

/-!
# Labels that are written are read again

Writing a label turns it into its ASCII characters and a list of entries, the entries into the steps of
a cursor, and these into digits. Each of the three turns can be undone, whatever the label is:

* a number is read back from its digits, since writer and reader use the same thresholds
  (`readNumbers_writeNumber`), and so are all of them, since they adapt the bias in the same way;
* the cursor stops at each entry again (`follow_cons`), because an entry lies behind the one before it:
  its code is higher, or it is the same and its index is higher;
* when all characters of a code have come in, the text is the label without the characters of higher
  codes (`follow_code`), and when all codes are done it is the label (`follow_entries`).

## Main results

* `decode?_encode`: every label is read again from what is written for it.
* `isWritten_of_mem_encode`: what a label is written with.
-/

namespace Switchboard.Net.Punycode

/-! ### Digits -/

/-- A digit is read as the number that it is for. -/
theorem value?_digit {n : Nat} (h : n < base) : value? (digit n) = some n := by
  have hall : ∀ n < 36, value? (digit n) = some n := by decide
  exact hall n h

/-- One of the thirty-six digits. -/
def IsDigit (c : Char) : Prop := ∃ n < base, c = digit n

/-- Behind a threshold there is room for the other digits. -/
theorem digit_bounds (bias place n : Nat) :
    threshold bias place + (n - threshold bias place) % (base - threshold bias place) < base := by
  have hbounds := threshold_bounds bias place
  have hroom : 0 < base - threshold bias place := by rw [base]; omega
  have hrest := Nat.mod_lt (n - threshold bias place) hroom
  omega

/-- A number is written in digits. -/
theorem isDigit_of_mem_writeNumber {bias place n : Nat} {c : Char}
    (h : c ∈ writeNumber bias place n) : IsDigit c := by
  induction n using Nat.strong_induction_on generalizing place with
  | _ n ih =>
      have hbounds := threshold_bounds bias place
      rw [writeNumber] at h
      split at h
      · next hlast =>
          exact ⟨n, hlast.trans_le (hbounds.2.trans (by decide)), List.mem_singleton.mp h⟩
      · next hmore =>
          rcases List.mem_cons.mp h with h | h
          · exact ⟨_, digit_bounds bias place n, h⟩
          · refine ih _ ?_ h
            exact (Nat.div_le_self _ _).trans_lt (Nat.sub_lt (by omega) hbounds.1)

/-- Several numbers are written in digits. -/
theorem isDigit_of_mem_writeNumbers {pace : Pace} {deltas : List Nat} {c : Char}
    (h : c ∈ writeNumbers pace deltas) : IsDigit c := by
  induction deltas generalizing pace with
  | nil => exact absurd h List.not_mem_nil
  | cons delta deltas ih => exact (List.mem_append.mp h).elim isDigit_of_mem_writeNumber ih

/-! ### Numbers -/

/-- **A number** is read back from its digits, whatever follows. The induction is on the number, which
loses its lowest digit; the weight of the next digit makes up for it. -/
theorem readNumbers_writeNumber (pace : Pace) (place weight sum n : Nat) (rest : List Char) :
    readNumbers pace place weight sum (writeNumber pace.bias place n ++ rest) =
      (readNumbers (pace.next (sum + n * weight)) base 1 0 rest).map
        ((sum + n * weight) :: ·) := by
  induction n using Nat.strong_induction_on generalizing place weight sum with
  | _ n ih =>
      have hbounds := threshold_bounds pace.bias place
      rw [writeNumber]
      split
      · next hlast =>
          have hvalue := value?_digit (hlast.trans_le (hbounds.2.trans (by decide)))
          simp only [List.cons_append, List.nil_append, readNumbers, hvalue, bind, Option.bind_some,
            if_pos hlast]
          cases readNumbers (pace.next (sum + n * weight)) base 1 0 rest <;> rfl
      · next hmore =>
          have hvalue := value?_digit (digit_bounds pace.bias place n)
          generalize hleast : threshold pace.bias place = least at *
          have hsum : sum + (least + (n - least) % (base - least)) * weight +
              (n - least) / (base - least) * (weight * (base - least)) = sum + n * weight := by
            have hcut := Nat.div_add_mod (n - least) (base - least)
            have hn : n = least + (n - least) % (base - least) +
                (n - least) / (base - least) * (base - least) := by
              rw [Nat.mul_comm] at hcut
              omega
            conv_rhs => rw [hn]
            ring
          have hless : (n - least) / (base - least) < n :=
            (Nat.div_le_self _ _).trans_lt (Nat.sub_lt (by omega) hbounds.1)
          simp only [List.cons_append, readNumbers, hvalue, bind, Option.bind_some, hleast,
            if_neg (show ¬ least + (n - least) % (base - least) < least by omega)]
          rw [ih _ hless, hsum]

/-- **All numbers** are read back from their digits. -/
theorem readNumbers_writeNumbers (pace : Pace) (deltas : List Nat) :
    readNumbers pace base 1 0 (writeNumbers pace deltas) = some deltas := by
  induction deltas generalizing pace with
  | nil => rfl
  | cons delta deltas ih =>
      rw [writeNumbers, readNumbers_writeNumber, Nat.mul_one, Nat.zero_add, ih]
      rfl

/-! ### The cursor -/

variable {code index n : Nat} {text label : List Char}

/-- **The cursor stops at an entry**: it goes on to a place behind the one where it stands, since either
the code is higher or the index is. -/
theorem follow_cons {index' : Nat} (hindex : index' ≤ text.length) (hvalid : n.isValidChar)
    (hready : code < n ∧ index ≤ text.length ∨ code = n ∧ index ≤ index') (deltas : List Nat) :
    follow code index text (((n - code) * (text.length + 1) + index' - index) :: deltas) =
      follow n (index' + 1) (text.insertIdx index' (Char.ofNat n)) deltas := by
  have hle : code ≤ n := hready.elim (fun h => h.1.le) fun h => h.1.le
  have hsum : index + ((n - code) * (text.length + 1) + index' - index) =
      index' + (n - code) * (text.length + 1) := by
    rcases hready with ⟨hcode, hplace⟩ | ⟨rfl, hplace⟩
    · have hrow : text.length + 1 ≤ (n - code) * (text.length + 1) :=
        Nat.le_mul_of_pos_left _ (Nat.sub_pos_of_lt hcode)
      omega
    · omega
  have hlt : index' < text.length + 1 := Nat.lt_succ_of_le hindex
  have hcode : code + (index' + (n - code) * (text.length + 1)) / (text.length + 1) = n := by
    rw [Nat.add_mul_div_right _ _ (Nat.succ_pos _), Nat.div_eq_of_lt hlt]
    omega
  have hplace : (index' + (n - code) * (text.length + 1)) % (text.length + 1) = index' := by
    rw [Nat.add_mul_mod_self_right, Nat.mod_eq_of_lt hlt]
  rw [follow]
  simp only [hsum, hcode, hplace, if_pos hvalid]

/-- A character comes in between two parts of a text. -/
theorem insertIdx_length_append {α : Type} (front back : List α) (a : α) :
    (front ++ back).insertIdx front.length a = front ++ a :: back := by
  induction front with
  | nil => rfl
  | cons b front ih =>
      rw [List.cons_append, List.length_cons, List.insertIdx_succ_cons, ih, List.cons_append]

/-- The text without the characters of a code. -/
def without (n : Nat) (text : List Char) : List Char := text.filter fun c => c.toNat ≠ n

/-- A character of the code is left out. -/
theorem without_cons_self {c : Char} (hc : c.toNat = n) (text : List Char) :
    without n (c :: text) = without n text :=
  List.filter_cons_of_neg (by simpa using hc)

/-- A character of another code stays. -/
theorem without_cons_of_ne {c : Char} (hc : c.toNat ≠ n) (text : List Char) :
    without n (c :: text) = c :: without n text :=
  List.filter_cons_of_pos (by simpa using hc)

/-- A character of the code comes in at the end of the part that is complete. -/
theorem insertIdx_without {c : Char} (hc : c.toNat = n) (front rest : List Char) :
    (front ++ without n rest).insertIdx front.length (Char.ofNat n) =
      front ++ [c] ++ without n rest := by
  rw [← hc, Char.ofNat_toNat, insertIdx_length_append, List.append_assoc]
  rfl

/-- **All characters of a code** come in where they belong. The induction is on the part of the text
behind the cursor; `front` is the part before it, which is complete. -/
theorem follow_code (hvalid : n.isValidChar) (front rest : List Char) (more : List (Nat × Nat))
    (hready : code < n ∧ index ≤ (front ++ without n rest).length ∨
      code = n ∧ index ≤ front.length) :
    ∃ code' ≤ n, ∃ index' ≤ (front ++ rest).length,
      follow code index (front ++ without n rest)
          (steps code index (front ++ without n rest).length
            ((indicesOf n front.length rest).map (fun index => (n, index)) ++ more)) =
        follow code' index' (front ++ rest) (steps code' index' (front ++ rest).length more) := by
  induction rest generalizing front code index with
  | nil =>
      refine ⟨code, hready.elim (fun h => h.1.le) fun h => h.1.le, index, ?_, rfl⟩
      simp only [without, List.filter_nil, List.append_nil] at hready ⊢
      exact hready.elim And.right And.right
  | cons c rest ih =>
      have hfront : front.length + 1 = (front ++ [c]).length := by simp
      by_cases hc : c.toNat = n
      · have hlength : (front ++ without n rest).length + 1 =
            (front ++ [c] ++ without n rest).length := by
          simp only [List.length_append, List.length_singleton]
          omega
        rw [without_cons_self hc] at hready ⊢
        rw [indicesOf, if_pos hc, List.map_cons, List.cons_append, steps,
          follow_cons (by simp) hvalid hready, insertIdx_without hc, hlength]
        obtain ⟨code', hcode, index', hindex, heq⟩ :=
          ih (front ++ [c]) (.inr ⟨rfl, hfront.le⟩)
        rw [List.append_assoc front [c] rest, List.singleton_append] at hindex heq
        exact ⟨code', hcode, index', hindex, hfront ▸ heq⟩
      · rw [without_cons_of_ne hc, List.append_cons front c (without n rest)] at hready ⊢
        rw [indicesOf, if_neg hc, hfront]
        obtain ⟨code', hcode, index', hindex, heq⟩ := ih (front ++ [c])
          (hready.imp id fun h => ⟨h.1, h.2.trans (by rw [← hfront]; exact Nat.le_succ _)⟩)
        rw [List.append_assoc front [c] rest, List.singleton_append] at hindex heq
        exact ⟨code', hcode, index', hindex, heq⟩

/-! ### Codes -/

/-- A list of codes with one code more. -/
theorem mem_insertCode {m : Nat} {ns : List Nat} : m ∈ insertCode n ns ↔ m = n ∨ m ∈ ns := by
  fun_induction insertCode n ns with
  | case1 => simp
  | case2 => rw [List.mem_cons]
  | case3 => simp
  | case4 first rest hlt hne ih =>
      rw [List.mem_cons, ih, List.mem_cons]
      tauto

/-- The list stays in ascending order. -/
theorem pairwise_insertCode {ns : List Nat} (h : ns.Pairwise (· < ·)) :
    (insertCode n ns).Pairwise (· < ·) := by
  fun_induction insertCode n ns with
  | case1 => exact List.pairwise_singleton _ _
  | case2 first rest hlt =>
      refine List.pairwise_cons.mpr ⟨fun m hm => ?_, h⟩
      rcases List.mem_cons.mp hm with rfl | hm
      · exact hlt
      · exact hlt.trans ((List.pairwise_cons.mp h).1 m hm)
  | case3 => exact h
  | case4 first rest hlt hne ih =>
      obtain ⟨hfirst, hrest⟩ := List.pairwise_cons.mp h
      refine List.pairwise_cons.mpr ⟨fun m hm => ?_, ih hrest⟩
      rcases mem_insertCode.mp hm with rfl | hm
      · omega
      · exact hfirst m hm

/-- The codes of a label are those of its characters beyond ASCII. -/
theorem mem_codes : n ∈ codes label ↔ ∃ c ∈ label, ¬ isBasic c ∧ c.toNat = n := by
  have hfold (ns : List Nat) : n ∈ ns.foldr insertCode [] ↔ n ∈ ns := by
    induction ns with
    | nil => rfl
    | cons m ns ih => rw [List.foldr_cons, mem_insertCode, ih, List.mem_cons]
  rw [codes, hfold, List.mem_map]
  simp only [List.mem_filter, Bool.not_eq_true', Bool.not_eq_true, and_assoc]

/-- The codes of a label ascend. -/
theorem pairwise_codes (label : List Char) : (codes label).Pairwise (· < ·) := by
  rw [codes]
  induction (label.filter fun c => !isBasic c).map Char.toNat with
  | nil => exact List.Pairwise.nil
  | cons n ns ih => exact pairwise_insertCode ih

/-! ### Labels -/

/-- Where no character is between a code and the higher ones of a list, the characters up to the code
are those of none of the higher ones. -/
theorem filter_le {ns : List Nat} (hfirst : ∀ m ∈ ns, n < m)
    (hbelow : ∀ c ∈ label, c.toNat ∉ n :: ns → c.toNat < n) :
    (label.filter fun c => c.toNat ≤ n) = label.filter fun c => c.toNat ∉ ns := by
  refine List.filter_congr fun c hc => decide_eq_decide.mpr ⟨fun hle hmem => ?_, fun hmem => ?_⟩
  · exact absurd (hfirst _ hmem) (Nat.not_lt.mpr hle)
  · by_cases hn : c.toNat = n
    · exact hn.le
    · exact (hbelow c hc (by simp [hn, hmem])).le

/-- The characters of none of some codes, without those of one more. -/
theorem without_filter (n : Nat) (ns : List Nat) (label : List Char) :
    without n (label.filter fun c => c.toNat ∉ ns) = label.filter fun c => c.toNat ∉ n :: ns := by
  rw [without, List.filter_filter]
  refine List.filter_congr fun c _ => ?_
  simp [not_or]

/-- **All codes**: the cursor puts in the characters of a list of codes. The induction is on the codes,
and what carries it is that the text so far is the label without their characters, all of which are of
higher code than the text. -/
theorem follow_entries {ns : List Nat} (hsorted : ns.Pairwise (· < ·))
    (hvalid : ∀ n ∈ ns, n.isValidChar)
    (hbelow : ∀ c ∈ label, c.toNat ∉ ns → ∀ n ∈ ns, c.toNat < n)
    (hready : ∀ n ∈ ns, code < n ∧ index ≤ (label.filter fun c => c.toNat ∉ ns).length ∨
      code ≤ n ∧ index = 0) :
    follow code index (label.filter fun c => c.toNat ∉ ns)
        (steps code index (label.filter fun c => c.toNat ∉ ns).length
          (ns.flatMap fun n => (indicesOf n 0 (label.filter fun c => c.toNat ≤ n)).map
            fun index => (n, index))) = some label := by
  induction ns generalizing code index with
  | nil => simp [steps, follow]
  | cons n ns ih =>
      obtain ⟨hfirst, hsorted⟩ := List.pairwise_cons.mp hsorted
      obtain ⟨hchar, hvalid⟩ := List.forall_mem_cons.mp hvalid
      have hupTo := filter_le hfirst fun c hc hmem => hbelow c hc hmem n List.mem_cons_self
      have hstart : code < n ∧ index ≤
          ([] ++ without n (label.filter fun c => c.toNat ≤ n)).length ∨
            code = n ∧ index ≤ ([] : List Char).length := by
        rw [hupTo, List.nil_append, without_filter]
        rcases hready n List.mem_cons_self with h | ⟨hle, rfl⟩
        · exact .inl h
        · exact hle.lt_or_eq.imp (fun hlt => ⟨hlt, Nat.zero_le _⟩) fun heq => ⟨heq, Nat.le_refl _⟩
      obtain ⟨code', hcode, index', hindex, heq⟩ := follow_code hchar [] _ _ hstart
      simp only [hupTo, List.nil_append, without_filter] at hindex heq
      rw [List.flatMap_cons, hupTo]
      refine heq.trans (ih hsorted hvalid (fun c hc hmem m hm => ?_) fun m hm => .inl
        ⟨hcode.trans_lt (hfirst m hm), hindex⟩)
      by_cases hn : c.toNat = n
      · exact hn ▸ hfirst m hm
      · exact hbelow c hc (by simp [hn, hmem]) m (List.mem_cons_of_mem n hm)

/-- The cursor puts the label together again, from its ASCII characters. -/
theorem follow_basic (label : List Char) :
    follow firstCode 0 (label.filter isBasic)
      (steps firstCode 0 (label.filter isBasic).length (entries label)) = some label := by
  have hbasic : (label.filter fun c => c.toNat ∉ codes label) = label.filter isBasic := by
    refine List.filter_congr fun c hc => ?_
    have hmem : c.toNat ∉ codes label ↔ isBasic c := by
      rw [mem_codes]
      constructor
      · intro h
        by_contra hnot
        exact h ⟨c, hc, hnot, rfl⟩
      · rintro h ⟨d, -, hd, heq⟩
        exact hd (by simpa only [isBasic, heq] using h)
    simp [hmem]
  have hbeyond {n : Nat} (hn : n ∈ codes label) : firstCode ≤ n ∧ n.isValidChar := by
    obtain ⟨c, -, hc, rfl⟩ := mem_codes.mp hn
    exact ⟨by simpa [isBasic] using hc, c.valid⟩
  rw [← hbasic]
  refine follow_entries (pairwise_codes label) (fun n hn => (hbeyond hn).2) (fun c hc hmem n hn => ?_)
    fun n hn => .inr ⟨(hbeyond hn).1, rfl⟩
  have hbasic : isBasic c := by
    by_contra hnot
    exact hmem (mem_codes.mpr ⟨c, hc, hnot, rfl⟩)
  exact lt_of_lt_of_le (by simpa [isBasic] using hbasic) (hbeyond hn).1

/-- Digits are no hyphens. -/
theorem IsDigit.ne_hyphen {c : Char} (h : IsDigit c) : c ≠ '-' := by
  have hall : ∀ n < 36, digit n ≠ '-' := by decide
  obtain ⟨n, hn, rfl⟩ := h
  exact hall n hn

/-- A text without hyphens is all digits. -/
theorem parts_of_no_hyphen {digits : List Char} (h : ∀ c ∈ digits, c ≠ '-') :
    parts digits = ([], digits) := by
  have hdrop : digits.reverse.dropWhile (· ≠ '-') = [] :=
    List.dropWhile_eq_nil_iff.mpr fun c hc => by simpa using h c (List.mem_reverse.mp hc)
  simp only [parts, hdrop]

/-- A text falls apart at its last hyphen, if something stands before it. -/
theorem parts_hyphen {basic digits : List Char} (hne : basic ≠ [])
    (h : ∀ c ∈ digits, c ≠ '-') : parts (basic ++ '-' :: digits) = (basic, digits) := by
  have hno : ∀ c ∈ digits.reverse, decide (c ≠ '-') := fun c hc => by
    simpa using h c (List.mem_reverse.mp hc)
  have hreverse : (basic ++ '-' :: digits).reverse = digits.reverse ++ '-' :: basic.reverse := by
    simp
  have hdrop : (basic ++ '-' :: digits).reverse.dropWhile (· ≠ '-') = '-' :: basic.reverse := by
    rw [hreverse, List.dropWhile_append_of_pos hno]
    rfl
  have htake : (basic ++ '-' :: digits).reverse.takeWhile (· ≠ '-') = digits.reverse := by
    rw [hreverse, List.takeWhile_append_of_pos hno]
    simp
  obtain ⟨last, front, hlast⟩ := List.exists_cons_of_ne_nil (List.reverse_ne_nil_iff.mpr hne)
  simp only [parts, hdrop, htake, hlast, List.reverse_reverse]
  rw [← hlast, List.reverse_reverse]

/-- The last hyphen is the one behind the ASCII characters, since digits are none. -/
theorem parts_encode (label : List Char) :
    parts (encode label) = (label.filter isBasic,
      writeNumbers { count := (label.filter isBasic).length }
        (steps firstCode 0 (label.filter isBasic).length (entries label))) := by
  have hno : ∀ c ∈ writeNumbers { count := (label.filter isBasic).length }
      (steps firstCode 0 (label.filter isBasic).length (entries label)), c ≠ '-' :=
    fun c hc => (isDigit_of_mem_writeNumbers hc).ne_hyphen
  simp only [encode]
  split
  · next hempty => rw [parts_of_no_hyphen hno, List.isEmpty_iff.mp hempty]
  · next hnonempty => exact parts_hyphen (fun h => hnonempty (List.isEmpty_iff.mpr h)) hno

/-- **Every label is read again** from what is written for it. -/
theorem decode?_encode (label : List Char) : decode? (encode label) = some label := by
  have hbasic : (label.filter isBasic).all isBasic :=
    List.all_eq_true.mpr fun c hc => (List.mem_filter.mp hc).2
  rw [decode?, parts_encode]
  simp only [hbasic, guard, if_true, readNumbers_writeNumbers, bind, Option.bind_some, pure]
  exact follow_basic label

/-- What a label is written with: its own ASCII characters, digits and a hyphen. -/
theorem isWritten_of_mem_encode {c : Char} (h : c ∈ encode label) :
    c ∈ label ∧ isBasic c ∨ c = '-' ∨ IsDigit c := by
  simp only [encode] at h
  split at h
  · exact .inr (.inr (isDigit_of_mem_writeNumbers h))
  · rcases List.mem_append.mp h with h | h
    · exact .inl (List.mem_filter.mp h)
    · exact .inr ((List.mem_cons.mp h).imp id isDigit_of_mem_writeNumbers)

/-- A label in German. -/
example : encode "bücher".toList = "bcher-kva".toList := by decide +kernel

end Switchboard.Net.Punycode
