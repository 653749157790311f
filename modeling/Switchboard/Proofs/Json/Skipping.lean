import Switchboard.Json.Codec
import Switchboard.Proofs.Json.Texts

/-!
# Skipping values

What belongs to no field of a record is skipped: the skipper knows no values, only brackets, and keeps
those that are open in a list of its own. It skips every text of a value, however deep the value is
nested, and stops right behind it.

The skipper is a machine with fuel, and two units of fuel for a byte are enough. `Passes` says that the
machine gets from one place to another and uses no more fuel than that, so that the passages over the
parts of a text make up the passage over the whole.

## Main results

* `Reader.skipString_content_append`, `Reader.skipNumber_of_number`: strings and numbers.
* `Reader.passes_value`: the machine passes every text of a value.
* `Reader.skip_text`: values are skipped.
-/

namespace Switchboard.Json

open Reader (byte)

namespace Reader

/-! ### Strings -/

/-- Bytes that stand for themselves are skipped. -/
theorem skipString_plain_append {front : List UInt8} (hfront : ∀ b ∈ front, IsPlain b)
    (rest : List UInt8) : skipString (front ++ rest) = skipString rest := by
  induction front with
  | nil => rfl
  | cons b front ih =>
      obtain ⟨⟨hquote, hslash, hcontrol⟩, hfront⟩ := List.forall_mem_cons.mp hfront
      rw [List.cons_append, skipString.eq_def]
      simp only [if_neg hquote, if_neg hslash, if_neg hcontrol]
      exact ih hfront

/-- The digits of a sixteen-bit unit are skipped with what is in front of them. -/
theorem skipString_unit {h₁ h₂ h₃ h₄ : UInt8} {n : Nat} (h : hexFour h₁ h₂ h₃ h₄ = some n)
    (rest : List UInt8) :
    skipString (byte '\\' :: byte 'u' :: h₁ :: h₂ :: h₃ :: h₄ :: rest) = skipString rest := by
  have hslash : ¬ byte '\\' = byte '"' := by decide
  rw [skipString.eq_def]
  simp only [if_neg hslash, if_true, h, Option.isSome_some]

/-- The text of a character is skipped. -/
theorem skipString_charText_append {c : Char} {front : List UInt8} (h : IsCharText c front)
    (rest : List UInt8) : skipString (front ++ rest) = skipString rest := by
  cases h with
  | plain hquote hslash hcontrol =>
      exact skipString_plain_append
        (fun b hb => isPlain_of_mem_encodeChar hquote hslash hcontrol hb) rest
  | letter hletter =>
      have hslash : ¬ byte '\\' = byte '"' := by decide
      obtain ⟨hu, -⟩ := simpleEscape_eq_some hletter
      rw [List.cons_append, List.singleton_append, skipString.eq_def]
      simp only [if_neg hslash, if_neg hu, if_true, hletter, Option.isSome_some]
  | unit hn _ _ => exact skipString_unit hn rest
  | pair hn _ hm _ =>
      simp only [List.cons_append, List.nil_append]
      rw [skipString_unit hn, skipString_unit hm]

/-- **Strings** are skipped from behind their opening quote. -/
theorem skipString_content_append {cs : List Char} {content : List UInt8}
    (h : IsContent cs content) (rest : List UInt8) :
    skipString (content ++ byte '"' :: rest) = .ok rest := by
  induction h with
  | nil =>
      rw [List.nil_append, skipString.eq_def]
      simp only [if_true]
  | cons hc _ ih => rw [List.append_assoc, skipString_charText_append hc, ih]

/-! ### Numbers -/

section Numbers

variable {positive : Bool} {digits dropped : Nat} {e : Int} {bytes left : List UInt8} {n : Number}

/-- The digits that were not collected are counted to the same end. -/
theorem countDigits_collect (m : Nat) (bytes : List UInt8) :
    (countDigits (collect m bytes).2).2 = (countDigits bytes).2 := by
  induction bytes generalizing m with
  | nil => rfl
  | cons b bytes ih =>
      by_cases hb : isDigit b
      · simp only [collect, if_pos hb]
        split
        · rw [ih, countDigits, if_pos hb]
        · rfl
      · rw [collect, if_neg hb]

/-- The digits of an exponent that were not collected are digits. -/
theorem countDigits_collectExponent (m : Nat) (bytes : List UInt8) :
    (countDigits (collectExponent m bytes).2.2).2 = (countDigits bytes).2 ∧
      ((collectExponent m bytes).2.1 = false →
        (collectExponent m bytes).2.2 = (countDigits bytes).2) := by
  induction bytes generalizing m with
  | nil => exact ⟨rfl, fun _ => rfl⟩
  | cons b bytes ih =>
      by_cases hb : isDigit b
      · simp only [collectExponent, countDigits, if_pos hb]
        split
        · exact ih _
        · exact ⟨rfl, fun h => absurd h (by simp)⟩
      · simp only [collectExponent, countDigits, if_neg hb]
        exact ⟨trivial, fun _ => trivial⟩

/-- Scaling takes no bytes. -/
theorem eq_of_double (h : double positive digits e bytes = .ok (n, left)) : bytes = left := by
  unfold double at h
  split at h
  · exact absurd h (by simp [refuse])
  · exact (Prod.mk.inj (Except.ok.inj h)).2

/-- The digits of an exponent are skipped to the same end. -/
theorem skips_of_exponentDigits {up : Bool}
    (h : exponentDigits positive digits e up bytes = .ok (n, left)) :
    ∃ b r, bytes = b :: r ∧ isDigit b ∧ (countDigits r).2 = left := by
  cases bytes with
  | nil => exact absurd h (by simp [exponentDigits, refuse])
  | cons b r =>
      obtain ⟨hcount, hall⟩ := countDigits_collectExponent (b.toNat - 0x30) r
      rw [exponentDigits] at h
      split at h
      · next hb =>
          refine ⟨b, r, rfl, hb, ?_⟩
          simp only at h
          split at h
          · split at h
            · exact absurd h (by simp [refuse])
            · rw [← hcount, eq_of_double h]
          · next hsmall => rw [← hall (by simpa using hsmall), eq_of_double h]
      · exact absurd h (by simp [refuse])

/-- An exponent with its sign is skipped to the same end. -/
theorem skipExponent_of_exponent (h : exponent positive digits e bytes = .ok (n, left)) :
    skipExponent bytes = .ok left := by
  cases bytes with
  | nil => exact absurd h (by simp [exponent, refuse])
  | cons b r =>
      rw [exponent_cons] at h
      by_cases hsign : b = byte '+' ∨ b = byte '-'
      · have hdigits : ∃ up, exponentDigits positive digits e up r = .ok (n, left) := by
          split at h
          · exact ⟨_, h⟩
          · next hplus => exact ⟨_, by rwa [if_pos (hsign.resolve_left hplus)] at h⟩
        obtain ⟨up, hdigits⟩ := hdigits
        obtain ⟨c, r', rfl, hc, rfl⟩ := skips_of_exponentDigits hdigits
        simp only [skipExponent, if_pos hsign, if_pos hc]
      · obtain ⟨hplus, hminus⟩ := not_or.mp hsign
        rw [if_neg hplus, if_neg hminus] at h
        obtain ⟨c, r', heq, hc, rfl⟩ := skips_of_exponentDigits h
        obtain ⟨rfl, rfl⟩ := List.cons.inj heq
        simp only [skipExponent, if_neg hsign, if_pos hc]

/-- What the skipper does behind the digits in front of a point. -/
def skipAfterDigits : List UInt8 → Except Fault (List UInt8)
  | [] => .ok []
  | c :: r =>
    if c = byte '.' then
      if startsWithDigit r then
        match (countDigits r).2 with
        | [] => .ok []
        | d :: r' => if d = byte 'e' ∨ d = byte 'E' then skipExponent r' else .ok (d :: r')
      else refuse .badNumber (r.drop 1)
    else if c = byte 'e' ∨ c = byte 'E' then skipExponent r
    else .ok (c :: r)

/-- The first digit of a number that is skipped: behind a zero there is no other one. -/
theorem skipNumber_cons (b : UInt8) (r : List UInt8) :
    skipNumber (b :: r) =
      if !isDigit b then refuse .badNumber r
      else if b = byte '0' && startsWithDigit r then refuse .badNumber (r.drop 1)
      else skipAfterDigits (countDigits r).2 := rfl

/-- A number without more digits takes no bytes. -/
theorem eq_of_bare (h : bare positive digits dropped bytes = .ok (n, left)) : bytes = left := by
  unfold bare at h
  split_ifs at h
  · exact (Prod.mk.inj (Except.ok.inj h)).2
  · exact eq_of_double h
  · exact (Prod.mk.inj (Except.ok.inj h)).2
  · exact eq_of_double h

/-- What stands behind the first digits is skipped to the same end. -/
theorem skipAfterDigits_of_afterDigits
    (h : afterDigits positive digits dropped bytes = .ok (n, left)) :
    skipAfterDigits bytes = .ok left := by
  cases bytes with
  | nil =>
      rw [afterDigits_nil] at h
      rw [← eq_of_bare h, skipAfterDigits]
  | cons b r =>
      rw [afterDigits_cons] at h
      rw [skipAfterDigits]
      split_ifs at h ⊢ with hpoint hstart he
      · simp only [fraction, if_pos hstart, countDigits_collect] at h
        generalize (countDigits r).2 = behind at h ⊢
        cases behind with
        | nil => rw [← eq_of_double h]
        | cons c behind =>
            simp only at h ⊢
            split_ifs at h ⊢
            · exact skipExponent_of_exponent h
            · rw [eq_of_double h]
      · simp only [fraction, if_neg hstart] at h
        split at h
        · exact absurd h (by simp [refuse])
        · exact absurd h (by simp [refuse])
      · exact skipExponent_of_exponent h
      · rw [eq_of_bare h]

/-- **Numbers** are skipped as far as they are read. -/
theorem skipNumber_of_number (h : number positive bytes = .ok (n, left)) :
    skipNumber bytes = .ok left := by
  cases bytes with
  | nil => exact absurd h (by simp [number, refuse])
  | cons b r =>
      rw [skipNumber_cons]
      simp only [number] at h
      split at h
      · next hzero =>
          split at h
          · exact absurd h (by simp [refuse])
          · next hstart =>
              have hnone : (countDigits r).2 = r := by
                cases r with
                | nil => rfl
                | cons c r => exact congrArg Prod.snd (if_neg hstart)
              rw [hzero, hnone]
              simp only [show isDigit (byte '0') = true by decide, hstart, Bool.not_true,
                Bool.false_eq_true, if_false, Bool.and_false]
              exact skipAfterDigits_of_afterDigits h
      · next hzero =>
          split at h
          · next hb =>
              rw [countDigits_collect] at h
              simp only [hb, hzero, Bool.not_true, Bool.false_eq_true, if_false, decide_false,
                Bool.false_and]
              exact skipAfterDigits_of_afterDigits h
          · exact absurd h (by simp [refuse])

end Numbers

/-! ### The machine -/

/-- How much fuel is enough at a place before so many bytes. Behind an opening bracket there is a step
that takes no byte. -/
def room : SkipPoint → Nat → Nat
  | .after false, n => 2 * n + 1
  | .after true, n => 2 * n
  | .value, n => 2 * n

/-- The machine gets from a place to another one in one or more steps, and uses no more fuel than there
is room for. -/
def Passes (point : SkipPoint) (brackets : List Bracket) (bytes : List UInt8)
    (point' : SkipPoint) (brackets' : List Bracket) (rest : List UInt8) : Prop :=
  ∃ cost, cost + 1 + room point' rest.length ≤ room point bytes.length ∧
    ∀ fuel, skipFrom (fuel + cost + 1) point brackets bytes =
      skipFrom fuel point' brackets' rest

/-- The byte that closes a bracket. -/
def closing : Bracket → UInt8
  | .square => byte ']'
  | .curly => byte '\x7d'

section Machine

variable {point point' point'' : SkipPoint} {brackets brackets' brackets'' outer : List Bracket}
  {bracket : Bracket} {comma : Bool} {bytes bytes' rest r : List UInt8} {b : UInt8}

/-- One step before a value, by its first byte. -/
theorem skipFrom_value (hskip : skipSpace bytes = b :: r) (fuel : Nat) :
    skipFrom (fuel + 1) .value brackets bytes =
      if b = byte 'n' then word ['u', 'l', 'l'] r >>= skipFrom fuel (.after true) brackets
      else if b = byte 't' then word ['r', 'u', 'e'] r >>= skipFrom fuel (.after true) brackets
      else if b = byte 'f' then word ['a', 'l', 's', 'e'] r >>= skipFrom fuel (.after true) brackets
      else if b = byte '-' then skipNumber r >>= skipFrom fuel (.after true) brackets
      else if isDigit b then skipNumber (b :: r) >>= skipFrom fuel (.after true) brackets
      else if b = byte '"' then skipString r >>= skipFrom fuel (.after true) brackets
      else if b = byte '[' then skipFrom fuel (.after false) (.square :: brackets) r
      else if b = byte '\x7b' then skipFrom fuel (.after false) (.curly :: brackets) r
      else refuse .noValue r := by
  rw [skipFrom, hskip]

/-- One step inside a bracket: on to the next item, or out of the bracket. -/
theorem skipFrom_after (hskip : skipSpace bytes = b :: r) (fuel : Nat) :
    skipFrom (fuel + 1) (.after comma) (bracket :: outer) bytes =
      if b = byte ',' && comma then
        match bracket with
        | .square => skipFrom fuel .value (bracket :: outer) r
        | .curly => skipKey r >>= skipFrom fuel .value (bracket :: outer)
      else if b = closing bracket then skipFrom fuel (.after true) outer r
      else if comma then
        match bracket with
        | .square => refuse .missingCommaInArray r
        | .curly => refuse .missingCommaInObject r
      else
        match bracket with
        | .square => skipFrom fuel .value (bracket :: outer) (b :: r)
        | .curly => skipKey (b :: r) >>= skipFrom fuel .value (bracket :: outer) := by
  cases bracket <;> simp only [skipFrom, hskip, closing]

/-- Skipping goes on from where it stands. -/
theorem Passes.trans (h : Passes point brackets bytes point' brackets' bytes')
    (h' : Passes point' brackets' bytes' point'' brackets'' rest) :
    Passes point brackets bytes point'' brackets'' rest := by
  obtain ⟨cost, hroom, hrun⟩ := h
  obtain ⟨cost', hroom', hrun'⟩ := h'
  refine ⟨cost' + 1 + cost, by omega, fun fuel => ?_⟩
  have hfirst := hrun (fuel + cost' + 1)
  rw [hrun' fuel] at hfirst
  rw [← hfirst]
  congr 1
  omega

/-- One step. -/
theorem Passes.of_step
    (h : ∀ fuel, skipFrom (fuel + 1) point brackets bytes = skipFrom fuel point' brackets' rest)
    (hroom : 1 + room point' rest.length ≤ room point bytes.length) :
    Passes point brackets bytes point' brackets' rest :=
  ⟨0, by omega, h⟩

/-- Space in front of a value makes no difference. -/
theorem Passes.of_skipSpace (hskip : skipSpace bytes = b :: r)
    (hspace : ¬ isSpace b) (h : Passes .value brackets (b :: r) point' brackets' rest) :
    Passes .value brackets bytes point' brackets' rest := by
  obtain ⟨cost, hroom, hrun⟩ := h
  have hlength : (b :: r).length ≤ bytes.length := by
    rw [← hskip]
    exact (List.dropWhile_suffix isSpace).length_le
  refine ⟨cost, ?_, fun fuel => ?_⟩
  · simp only [room] at hroom ⊢
    omega
  · rw [← hrun fuel, skipFrom_value hskip, skipFrom_value (skipSpace_cons hspace r)]

/-! ### Items and members -/

/-- A closing bracket ends the innermost array or object. -/
theorem passes_closing {gap : List UInt8} (hgap : IsGap gap) (bracket : Bracket) (comma : Bool) :
    Passes (.after comma) (bracket :: outer) (gap ++ closing bracket :: rest) (.after true) outer
      rest := by
  have hapart : ¬ isSpace (closing bracket) ∧ closing bracket ≠ byte ',' := by
    cases bracket <;> decide
  refine .of_step (fun fuel => ?_) ?_
  · rw [skipFrom_after (skipSpace_gap_cons hgap hapart.1 rest), decide_eq_false hapart.2,
      Bool.false_and, if_neg (by decide), if_pos rfl]
  · rw [List.length_append, List.length_cons]
    cases comma <;> simp only [room] <;> omega

/-- The machine passes the texts of the values that can be items: a text begins with a byte that is
neither space nor the closing bracket of arrays, and behind it stands no byte of a number. -/
structure PassesTexts {α : Type} (text : α → List UInt8 → Prop) : Prop where
  starts {x : α} {bytes : List UInt8} : text x bytes →
    ∃ b r, bytes = b :: r ∧ ¬ isSpace b ∧ b ≠ byte ']'
  passes {x : α} {bytes rest : List UInt8} (brackets : List Bracket) : text x bytes →
    Ends rest → Passes .value brackets (bytes ++ rest) (.after true) brackets rest

variable {α : Type} {text : α → List UInt8 → Prop}

/-- An item in front of what follows it. -/
theorem PassesTexts.spaced (h : PassesTexts text) {x : α} (hx : Spaced text x bytes)
    (hrest : Ends rest) :
    ∃ b r gap, skipSpace (bytes ++ rest) = b :: r ∧ ¬ isSpace b ∧ b ≠ byte ']' ∧ IsGap gap ∧
      Passes .value brackets (b :: r) (.after true) brackets (gap ++ rest) := by
  obtain ⟨before, middle, behind, hbefore, hmiddle, hbehind, rfl⟩ := hx
  obtain ⟨b, r, rfl, hspace, hclose⟩ := h.starts hmiddle
  refine ⟨b, r ++ (behind ++ rest), behind, ?_, hspace, hclose, hbehind, ?_⟩
  · rw [List.append_assoc, List.append_assoc, List.cons_append,
      skipSpace_gap_cons hbefore hspace]
  · exact h.passes brackets hmiddle (ends_gap_append hbehind hrest)

/-- **Items.** The machine passes the items and the bracket behind them. -/
theorem PassesTexts.separated (h : PassesTexts text) {xs : List α}
    (hxs : Separated text xs bytes) (outer : List Bracket) (rest : List UInt8) :
    ∃ b r, skipSpace (bytes ++ byte ']' :: rest) = b :: r ∧ ¬ isSpace b ∧ b ≠ byte ']' ∧
      Passes .value (.square :: outer) (b :: r) (.after true) outer rest := by
  induction hxs with
  | last hx =>
      obtain ⟨b, r, gap, hskip, hspace, hclose, hgap, hpasses⟩ :=
        h.spaced hx (ends_closing rest).2.1
      exact ⟨b, r, hskip, hspace, hclose, hpasses.trans (passes_closing hgap .square true)⟩
  | @cons x xs bytes more hx _ ih =>
      obtain ⟨c, s, hskip', hspace', -, hmore⟩ := ih
      obtain ⟨b, r, gap, hskip, hspace, hclose, hgap, hpasses⟩ :=
        h.spaced hx (ends_closing (more ++ byte ']' :: rest)).1
      have hcomma : Passes (.after true) (.square :: outer)
          (gap ++ byte ',' :: (more ++ byte ']' :: rest)) .value (.square :: outer)
          (more ++ byte ']' :: rest) := by
        refine .of_step (fun fuel => ?_) ?_
        · have hcomma := skipSpace_gap_cons hgap (b := byte ',') (by decide)
            (more ++ byte ']' :: rest)
          simp only [skipFrom_after hcomma, decide_true, Bool.true_and, if_true]
        · simp only [room, List.length_append, List.length_cons]
          omega
      rw [List.append_assoc, List.cons_append]
      exact ⟨b, r, hskip, hspace, hclose,
        (hpasses.trans hcomma).trans (hmore.of_skipSpace hskip' hspace')⟩

/-- **Arrays.** The machine passes the items from behind the opening bracket. -/
theorem PassesTexts.items (h : PassesTexts text) {xs : List α} (hxs : IsBody text xs bytes) :
    Passes (.after false) (.square :: outer) (bytes ++ byte ']' :: rest) (.after true) outer
      rest := by
  rcases hxs with ⟨rfl, hgap⟩ | hseparated
  · exact passes_closing hgap .square false
  · obtain ⟨b, r, hskip, hspace, hclose, hpasses⟩ :=
      h.separated hseparated outer rest
    have hlength : (b :: r).length ≤ (bytes ++ byte ']' :: rest).length := by
      rw [← hskip]
      exact (List.dropWhile_suffix isSpace).length_le
    refine Passes.trans (.of_step (fun fuel => ?_) ?_) hpasses
    · simp only [skipFrom_after hskip, Bool.and_false, Bool.false_eq_true, if_false, closing,
        if_neg hclose]
    · simp only [room]
      omega

/-- A member in front of what follows it: behind the key and the colon stands its value. -/
theorem PassesTexts.member (h : PassesTexts text) {entry : String × α}
    (hentry : Spaced (IsMember text) entry bytes) (hrest : Ends rest) :
    ∃ r left gap, skipSpace (bytes ++ rest) = byte '"' :: r ∧
      skipKey (byte '"' :: r) = .ok left ∧ left.length ≤ r.length ∧ IsGap gap ∧
      Passes .value brackets left (.after true) brackets (gap ++ rest) := by
  obtain ⟨before, middle, behind, hbefore, hmiddle, hbehind, rfl⟩ := hentry
  obtain ⟨_, gap, gap', value, ⟨content, hcontent, rfl⟩, hgap, hgap', hvalue, rfl⟩ := hmiddle
  obtain ⟨b, r, rfl, hspace, -⟩ := h.starts hvalue
  have hpasses := h.passes brackets hvalue (ends_gap_append hbehind hrest)
  have hskip := skipSpace_gap_cons hgap' hspace (r ++ (behind ++ rest))
  refine ⟨content ++ byte '"' :: (gap ++ byte ':' :: (gap' ++ (b :: r ++ (behind ++ rest)))),
    gap' ++ (b :: r ++ (behind ++ rest)), behind, ?_, ?_, ?_, hbehind, ?_⟩
  · rw [List.append_assoc, List.append_assoc, skipSpace_gap_append hbefore]
    simp only [List.append_assoc, List.cons_append, List.nil_append]
    exact skipSpace_cons (by decide) _
  · have hkey := skipString_content_append hcontent
      (gap ++ byte ':' :: (gap' ++ (b :: r ++ (behind ++ rest))))
    rw [skipKey, skipSpace_cons (by decide)]
    simp only [if_true, hkey, bind, Except.bind]
    exact colon_gap_append hgap _
  · simp only [List.length_append, List.length_cons]
    omega
  · exact hpasses.of_skipSpace hskip hspace

/-- **Members.** The machine passes the members and the bracket behind them. -/
theorem PassesTexts.separatedMembers (h : PassesTexts text) {entries : List (String × α)}
    (hentries : Separated (IsMember text) entries bytes) (outer : List Bracket)
    (rest : List UInt8) :
    ∃ r left, skipSpace (bytes ++ byte '\x7d' :: rest) = byte '"' :: r ∧
      skipKey (byte '"' :: r) = .ok left ∧ left.length ≤ r.length ∧
      Passes .value (.curly :: outer) left (.after true) outer rest := by
  induction hentries with
  | last hentry =>
      obtain ⟨r, left, gap, hskip, hkey, hlength, hgap, hpasses⟩ :=
        h.member hentry (ends_closing rest).2.2
      exact ⟨r, left, hskip, hkey, hlength, hpasses.trans (passes_closing hgap .curly true)⟩
  | @cons entry entries bytes more hentry _ ih =>
      obtain ⟨r', left', hskip', hkey', hlength', hmore⟩ := ih
      obtain ⟨r, left, gap, hskip, hkey, hlength, hgap, hpasses⟩ :=
        h.member hentry (ends_closing (more ++ byte '\x7d' :: rest)).1
      have hcomma : Passes (.after true) (.curly :: outer)
          (gap ++ byte ',' :: (more ++ byte '\x7d' :: rest)) .value (.curly :: outer) left' := by
        have hlong : (byte '"' :: r').length ≤ (more ++ byte '\x7d' :: rest).length := by
          rw [← hskip']
          exact (List.dropWhile_suffix isSpace).length_le
        refine .of_step (fun fuel => ?_) ?_
        · have hcomma := skipSpace_gap_cons hgap (b := byte ',') (by decide)
            (more ++ byte '\x7d' :: rest)
          have hkey : skipKey (more ++ byte '\x7d' :: rest) = .ok left' := by
            rw [← hkey', skipKey, skipKey, hskip', skipSpace_cons (by decide)]
          simp only [skipFrom_after hcomma, decide_true, Bool.true_and, if_true, hkey, bind,
            Except.bind]
        · simp only [room, List.length_append, List.length_cons] at hlong ⊢
          omega
      rw [List.append_assoc, List.cons_append]
      exact ⟨r, left, hskip, hkey, hlength, (hpasses.trans hcomma).trans hmore⟩

/-- **Objects.** The machine passes the members from behind the opening bracket. -/
theorem PassesTexts.members (h : PassesTexts text) {entries : List (String × α)}
    (hentries : IsBody (IsMember text) entries bytes) :
    Passes (.after false) (.curly :: outer) (bytes ++ byte '\x7d' :: rest) (.after true) outer
      rest := by
  rcases hentries with ⟨rfl, hgap⟩ | hseparated
  · exact passes_closing hgap .curly false
  · obtain ⟨r, left, hskip, hkey, hlength, hpasses⟩ :=
      h.separatedMembers hseparated outer rest
    have hlong : (byte '"' :: r).length ≤ (bytes ++ byte '\x7d' :: rest).length := by
      rw [← hskip]
      exact (List.dropWhile_suffix isSpace).length_le
    have hquote : ¬ byte '"' = byte '\x7d' := by decide
    refine Passes.trans (.of_step (fun fuel => ?_) ?_) hpasses
    · simp only [skipFrom_after hskip, Bool.and_false, Bool.false_eq_true, if_false, closing,
        if_neg hquote, hkey, bind, Except.bind]
    · simp only [room, List.length_cons] at hlong ⊢
      omega

/-! ### Values -/

/-- What has no brackets takes one step, and at least a byte. -/
theorem passes_scalar {front : List UInt8} (hne : front ≠ [])
    (h : ∀ fuel, skipFrom (fuel + 1) .value brackets (front ++ rest) =
      skipFrom fuel (.after true) brackets rest) :
    Passes .value brackets (front ++ rest) (.after true) brackets rest := by
  refine .of_step h ?_
  have hpos := List.length_pos_iff.mpr hne
  simp only [room, List.length_append]
  omega

/-- A null is skipped. -/
theorem passes_null : Passes .value brackets (wordBytes ['n', 'u', 'l', 'l'] ++ rest)
    (.after true) brackets rest := by
  refine passes_scalar (by decide) fun fuel => ?_
  rw [wordBytes, List.map_cons, List.cons_append, skipFrom_value (skipSpace_cons (by decide) _),
    if_pos rfl]
  exact congrArg (· >>= skipFrom fuel (.after true) brackets) (word_append ['u', 'l', 'l'] rest)

/-- The word for true is skipped. -/
theorem passes_true : Passes .value brackets (wordBytes ['t', 'r', 'u', 'e'] ++ rest)
    (.after true) brackets rest := by
  refine passes_scalar (by decide) fun fuel => ?_
  rw [wordBytes, List.map_cons, List.cons_append, skipFrom_value (skipSpace_cons (by decide) _),
    if_neg (by decide), if_pos rfl]
  exact congrArg (· >>= skipFrom fuel (.after true) brackets) (word_append ['r', 'u', 'e'] rest)

/-- The word for false is skipped. -/
theorem passes_false : Passes .value brackets (wordBytes ['f', 'a', 'l', 's', 'e'] ++ rest)
    (.after true) brackets rest := by
  refine passes_scalar (by decide) fun fuel => ?_
  rw [wordBytes, List.map_cons, List.cons_append, skipFrom_value (skipSpace_cons (by decide) _),
    if_neg (by decide), if_neg (by decide), if_pos rfl]
  exact congrArg (· >>= skipFrom fuel (.after true) brackets)
    (word_append ['a', 'l', 's', 'e'] rest)

/-- A number is skipped. -/
theorem passes_number {n : Number} (h : IsNumberText n bytes) (hrest : Ends rest) :
    Passes .value brackets (bytes ++ rest) (.after true) brackets rest := by
  rcases h with ⟨r, rfl, hnumber⟩ | ⟨b, r, rfl, hdigit, hnumber⟩
  · have hskip := skipNumber_of_number (isLocal_number false hrest hnumber)
    refine passes_scalar (List.cons_ne_nil _ _) fun fuel => ?_
    rw [List.cons_append, skipFrom_value (skipSpace_cons (by decide) _), if_neg (by decide),
      if_neg (by decide), if_neg (by decide), if_pos rfl, hskip]
    rfl
  · obtain ⟨hspace, -, hn, ht, hf, hminus⟩ := apart_of_isDigit hdigit
    have hskip := skipNumber_of_number (isLocal_number true hrest hnumber)
    refine passes_scalar (List.cons_ne_nil _ _) fun fuel => ?_
    rw [List.cons_append] at hskip ⊢
    rw [skipFrom_value (skipSpace_cons hspace _), if_neg hn, if_neg ht, if_neg hf, if_neg hminus,
      if_pos hdigit, hskip]
    rfl

/-- A string is skipped. -/
theorem passes_string {s : String} (h : IsQuoted s bytes) :
    Passes .value brackets (bytes ++ rest) (.after true) brackets rest := by
  obtain ⟨content, hcontent, rfl⟩ := h
  refine passes_scalar (by simp) fun fuel => ?_
  rw [List.append_assoc, List.cons_append, List.singleton_append,
    skipFrom_value (skipSpace_cons (by decide) _), if_neg (by decide), if_neg (by decide),
    if_neg (by decide), if_neg (by decide), if_neg (by decide), if_pos rfl,
    skipString_content_append hcontent]
  rfl

/-- An array is skipped if its items are. -/
theorem passes_array (h : PassesTexts text) {xs : List α} {body : List UInt8}
    (hxs : IsBody text xs body) :
    Passes .value brackets (byte '[' :: (body ++ [byte ']']) ++ rest) (.after true) brackets
      rest := by
  rw [List.cons_append, List.append_assoc, List.singleton_append]
  refine Passes.trans (.of_step (fun fuel => ?_) ?_) (h.items hxs)
  · rw [skipFrom_value (skipSpace_cons (by decide) _), if_neg (by decide), if_neg (by decide),
      if_neg (by decide), if_neg (by decide), if_neg (by decide), if_neg (by decide), if_pos rfl]
  · simp only [room, List.length_cons]
    omega

/-- An object is skipped if its members are. -/
theorem passes_object (h : PassesTexts text) {entries : List (String × α)} {body : List UInt8}
    (hentries : IsBody (IsMember text) entries body) :
    Passes .value brackets (byte '\x7b' :: (body ++ [byte '\x7d']) ++ rest) (.after true) brackets
      rest := by
  rw [List.cons_append, List.append_assoc, List.singleton_append]
  refine Passes.trans (.of_step (fun fuel => ?_) ?_) (h.members hentries)
  · rw [skipFrom_value (skipSpace_cons (by decide) _), if_neg (by decide), if_neg (by decide),
      if_neg (by decide), if_neg (by decide), if_neg (by decide), if_neg (by decide),
      if_neg (by decide), if_pos rfl]
  · simp only [room, List.length_cons]
    omega

/-- **Values.** The machine passes every text of a value. The induction is on the levels, as for the
reader of values. -/
theorem passes_value (levels : Nat) : PassesTexts (IsText levels) := by
  induction levels using Nat.strong_induction_on with
  | _ levels ih =>
      refine ⟨IsText.starts, fun {v bytes rest} brackets h hrest => ?_⟩
      cases v with
      | null => rw [IsText] at h; rw [h]; exact passes_null
      | bool b =>
          cases b with
          | false => rw [IsText] at h; rw [h]; exact passes_false
          | true => rw [IsText] at h; rw [h]; exact passes_true
      | number n => rw [IsText] at h; exact passes_number h hrest
      | string s => rw [IsText] at h; exact passes_string h
      | array items =>
          obtain ⟨inner, body, rfl, hbody, rfl⟩ := h.exists_of_array
          exact passes_array (ih inner (Nat.lt_succ_self inner)) hbody
      | object members =>
          obtain ⟨inner, entries, body, rfl, hbody, -, rfl⟩ := h.exists_of_object
          exact passes_object (ih inner (Nat.lt_succ_self inner)) hbody

end Machine

/-- **Skipping** stops right behind the text of a value. -/
theorem skip_text {levels : Nat} {v : Value} {gap bytes rest : List UInt8} (hgap : IsGap gap)
    (h : IsText levels v bytes) (hrest : Ends rest) : skip (gap ++ (bytes ++ rest)) = .ok rest := by
  obtain ⟨b, r, rfl, hspace, -⟩ := h.starts
  have hskip := skipSpace_gap_cons hgap hspace (r ++ rest)
  have hpasses := ((passes_value levels).passes [] h hrest).of_skipSpace hskip hspace
  obtain ⟨cost, hroom, hrun⟩ := hpasses
  simp only [room] at hroom
  obtain ⟨spare, hspare⟩ := Nat.exists_eq_add_of_le hroom
  have hfuel : 2 * (gap ++ (b :: r ++ rest)).length + 2 =
      spare + 2 * rest.length + 1 + 1 + cost + 1 := by
    rw [List.cons_append]
    omega
  rw [skip, hfuel, List.cons_append, hrun, skipFrom]

end Reader

end Switchboard.Json
