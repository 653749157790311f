import Mathlib.Data.List.TakeWhile
import Switchboard.Proofs.Json.Texts
import Switchboard.Proofs.Results

/-!
# What the reader accepts

The reader of values reads back every text of the grammar. Here is the converse: whatever it takes
from the front of some bytes is a text of the value that it gives. So parsing accepts the documents
of the grammar that are nested no deeper than the limit, and nothing else.

`Accepts` is what is known about a reader. For the parts of a number, whose texts are those that the
reader takes whole, it says that the reader does not look beyond what it takes.

A character that is written as it is may have several bytes, which the reader takes one by one. That
they are the bytes of one character shows only when the content is decoded: then a byte that
continues a character was taken as it is, since an escape gives a whole character.

## Main results

* `Reader.accepts_number`, `Reader.accepts_string`: numbers and strings that are read.
* `Reader.accepts_value`: values that are read.
* `Value.parse_eq_ok_iff`: parsing gives a value when the text is one of the value.
-/

namespace Switchboard.Json

open Reader (byte)
open Text.Utf8 (encodeChar encodeChars)

/-- What a reader takes from the front of some bytes is a text of what it gives. -/
def Accepts {α : Type} (reader : Reader α) (text : α → List UInt8 → Prop) : Prop :=
  ∀ ⦃bytes left : List UInt8⦄ ⦃x : α⦄, reader bytes = .ok (x, left) →
    ∃ middle, text x middle ∧ bytes = middle ++ left

/-- The bytes that a reader takes whole. -/
def TakenBy {α : Type} (reader : Reader α) (x : α) (bytes : List UInt8) : Prop :=
  reader bytes = .ok (x, [])

namespace Reader

/-! ### Numbers -/

/-- What is refused gives no result. -/
theorem refuse_ne_ok {α : Type} {cause : Cause} {left : List UInt8} {x : α} :
    (refuse cause left : Except Fault α) ≠ .ok x := nofun

/-- A text that begins with a digit does so whatever follows. -/
theorem startsWithDigit_of_append {front back : List UInt8} (h : startsWithDigit front) :
    startsWithDigit (front ++ back) := by
  cases front with
  | nil => exact absurd h (by simp [startsWithDigit])
  | cons b r => exact h

/-- Counting takes all digits up to the first byte that is none. -/
theorem exists_of_countDigits {bytes left : List UInt8} {k : Nat}
    (h : countDigits bytes = (k, left)) :
    ¬ startsWithDigit left ∧
      ∃ digits, countDigits digits = (k, []) ∧ bytes = digits ++ left := by
  induction bytes generalizing k with
  | nil =>
      obtain ⟨rfl, rfl⟩ := Prod.mk.inj h
      exact ⟨by simp [startsWithDigit], [], rfl, rfl⟩
  | cons b r ih =>
      rw [countDigits] at h
      split at h
      · next hb =>
          obtain ⟨rfl, rfl⟩ := Prod.mk.inj h
          obtain ⟨hleft, digits, hdigits, hr⟩ := ih (k := (countDigits r).1) rfl
          refine ⟨hleft, b :: digits, ?_, by rw [List.cons_append, ← hr]⟩
          rw [countDigits, if_pos hb, hdigits]
      · next hb =>
          obtain ⟨rfl, rfl⟩ := Prod.mk.inj h
          exact ⟨hb, [], rfl, rfl⟩

/-- Digits that are collected, and those that are only counted behind them. -/
theorem exists_of_collect {bytes behind left : List UInt8} {n m k : Nat}
    (hcollect : collect n bytes = (m, behind)) (hcount : countDigits behind = (k, left)) :
    ∃ digits counted, collect n digits = (m, counted) ∧ countDigits counted = (k, []) ∧
      bytes = digits ++ left ∧ behind = counted ++ left := by
  induction bytes generalizing n with
  | nil =>
      obtain ⟨rfl, rfl⟩ := Prod.mk.inj hcollect
      obtain ⟨rfl, rfl⟩ := Prod.mk.inj hcount
      exact ⟨[], [], rfl, rfl, rfl, rfl⟩
  | cons b r ih =>
      rw [collect] at hcollect
      simp only at hcollect
      split at hcollect
      · next hb =>
          split at hcollect
          · next hsmall =>
              obtain ⟨digits, counted, hdigits, hcounted, rfl, hbehind⟩ := ih hcollect
              refine ⟨b :: digits, counted, ?_, hcounted, rfl, hbehind⟩
              rw [collect, if_pos hb]
              exact (if_pos hsmall).trans hdigits
          · next hlarge =>
              obtain ⟨rfl, rfl⟩ := Prod.mk.inj hcollect
              obtain ⟨-, digits, hdigits, hr⟩ := exists_of_countDigits hcount
              refine ⟨digits, digits, ?_, hdigits, hr, hr⟩
              cases digits with
              | nil => rfl
              | cons c digits =>
                  obtain ⟨rfl, -⟩ := List.cons.inj hr
                  rw [collect, if_pos hb]
                  exact if_neg hlarge
      · next hb =>
          obtain ⟨rfl, rfl⟩ := Prod.mk.inj hcollect
          rw [countDigits, if_neg hb] at hcount
          obtain ⟨rfl, rfl⟩ := Prod.mk.inj hcount
          exact ⟨[], [], rfl, rfl, rfl, rfl⟩

/-- An exponent that is too large is found to be so at the same digit whatever follows, and one that fits
is collected up to the end of its digits. -/
theorem exists_of_collectExponent {bytes left : List UInt8} {n m : Nat} {tooLarge : Bool}
    (h : collectExponent n bytes = (m, tooLarge, left)) :
    ∃ digits, bytes = digits ++ left ∧ ∀ more, (tooLarge ∨ more = []) →
      collectExponent n (digits ++ more) = (m, tooLarge, more) := by
  induction bytes generalizing n with
  | nil =>
      obtain ⟨rfl, rfl, rfl⟩ : n = m ∧ false = tooLarge ∧ [] = left := by simpa [collectExponent] using h
      exact ⟨[], rfl, by simp [collectExponent]⟩
  | cons b r ih =>
      rw [collectExponent] at h
      simp only at h
      split at h
      · next hb =>
          split at h
          · next hsmall =>
              obtain ⟨digits, rfl, hdigits⟩ := ih h
              refine ⟨b :: digits, rfl, fun more hmore => ?_⟩
              rw [List.cons_append, collectExponent, if_pos hb]
              exact (if_pos hsmall).trans (hdigits more hmore)
          · next hlarge =>
              obtain ⟨rfl, rfl, rfl⟩ : n = m ∧ true = tooLarge ∧ r = left := by simpa using h
              refine ⟨[b], rfl, fun more _ => ?_⟩
              rw [List.singleton_append, collectExponent, if_pos hb]
              exact if_neg hlarge
      · obtain ⟨rfl, rfl, rfl⟩ : n = m ∧ false = tooLarge ∧ b :: r = left := by simpa using h
        exact ⟨[], rfl, by simp [collectExponent]⟩

section Parts

variable (positive : Bool) (digits dropped : Nat) (e : Int)

/-- A reader that takes no bytes. -/
theorem exists_double {bytes left : List UInt8} {n : Number}
    (h : double positive digits e bytes = .ok (n, left)) :
    bytes = left ∧ TakenBy (double positive digits e) n [] := by
  unfold TakenBy
  unfold double at h ⊢
  split at h
  · exact absurd h refuse_ne_ok
  · simp only [Except.ok.injEq, Prod.mk.injEq] at h ⊢
    exact ⟨h.2, h.1, trivial⟩

/-- The digits of an exponent take what they take whatever follows. -/
theorem accepts_exponentDigits (up : Bool) :
    Accepts (exponentDigits positive digits e up) (TakenBy (exponentDigits positive digits e up)) := by
  intro bytes left n h
  cases bytes with
  | nil => exact absurd h refuse_ne_ok
  | cons b r =>
      simp only [exponentDigits] at h
      generalize hcollect : collectExponent (b.toNat - 0x30) r = collected at h
      obtain ⟨m, tooLarge, rest⟩ := collected
      obtain ⟨front, rfl, hfront⟩ := exists_of_collectExponent hcollect
      split at h
      · next hb =>
          simp only at h
          split at h
          · next hlarge =>
              split at h
              · exact absurd h refuse_ne_ok
              · next hzero =>
                  obtain ⟨-, more, hmore, hrest⟩ := exists_of_countDigits
                    (show countDigits rest = ((countDigits rest).1, (countDigits rest).2) from rfl)
                  obtain ⟨hleft, htaken⟩ := exists_double _ _ _ h
                  refine ⟨b :: (front ++ more), ?_, ?_⟩
                  · simp only [TakenBy, exponentDigits, if_pos hb, hfront more (.inl hlarge),
                      if_pos hlarge, if_neg hzero, hmore]
                    exact htaken
                  · rw [List.cons_append, List.append_assoc, ← hleft, ← hrest]
          · next hlarge =>
              obtain ⟨rfl, htaken⟩ := exists_double _ _ _ h
              refine ⟨b :: front, ?_, rfl⟩
              have hall := hfront [] (.inr rfl)
              rw [List.append_nil] at hall
              simp only [TakenBy, exponentDigits, if_pos hb, hall, if_neg hlarge]
              exact htaken
      · exact absurd h refuse_ne_ok

/-- An exponent with its sign takes what it takes whatever follows. -/
theorem accepts_exponent :
    Accepts (exponent positive digits e) (TakenBy (exponent positive digits e)) := by
  intro bytes left n h
  cases bytes with
  | nil => exact absurd h refuse_ne_ok
  | cons b r =>
      unfold TakenBy
      rw [exponent_cons] at h
      split_ifs at h with hplus hminus
      · obtain ⟨middle, hmiddle, rfl⟩ := accepts_exponentDigits _ _ _ _ h
        exact ⟨b :: middle, by rwa [exponent_cons, if_pos hplus], rfl⟩
      · obtain ⟨middle, hmiddle, rfl⟩ := accepts_exponentDigits _ _ _ _ h
        exact ⟨b :: middle, by rwa [exponent_cons, if_neg hplus, if_pos hminus], rfl⟩
      · obtain ⟨middle, hmiddle, hbytes⟩ := accepts_exponentDigits _ _ _ _ h
        cases middle with
        | nil => exact absurd hmiddle refuse_ne_ok
        | cons c middle =>
            obtain ⟨rfl, -⟩ := List.cons.inj hbytes
            exact ⟨b :: middle, by rwa [exponent_cons, if_neg hplus, if_neg hminus], hbytes⟩

/-- A number without point and exponent ends where its digits end. -/
theorem exists_bare {bytes left : List UInt8} {n : Number}
    (h : bare positive digits dropped bytes = .ok (n, left)) :
    bytes = left ∧ TakenBy (bare positive digits dropped) n [] := by
  unfold TakenBy
  unfold bare at h ⊢
  split_ifs at h ⊢
  · simp only [Except.ok.injEq, Prod.mk.injEq] at h ⊢
    exact ⟨h.2, h.1, trivial⟩
  · exact exists_double _ _ _ h
  · simp only [Except.ok.injEq, Prod.mk.injEq] at h ⊢
    exact ⟨h.2, h.1, trivial⟩
  · exact exists_double _ _ _ h

/-- The digits behind a point take what they take whatever follows. -/
theorem accepts_fraction :
    Accepts (fraction positive digits dropped) (TakenBy (fraction positive digits dropped)) := by
  intro r left n h
  unfold TakenBy
  unfold fraction at h ⊢
  generalize hcollect : collect digits r = collected at h
  obtain ⟨m, behind⟩ := collected
  simp only at h
  generalize hcount : countDigits behind = counted at h
  obtain ⟨k, rest⟩ := counted
  obtain ⟨front, counted, hfront, hcounted, rfl, rfl⟩ := exists_of_collect hcollect hcount
  obtain ⟨hrest, -⟩ := exists_of_countDigits hcount
  simp only [List.length_append, Nat.add_sub_add_right] at h
  rw [startsWithDigit_append hrest] at h
  split at h
  · next hstart =>
      cases rest with
      | nil =>
          obtain ⟨rfl, htaken⟩ := exists_double _ _ _ h
          refine ⟨front, ?_, rfl⟩
          simp only [hfront, hcounted, if_pos hstart]
          exact htaken
      | cons c rest =>
          simp only at h
          split at h
          · next hexp =>
              obtain ⟨middle, hmiddle, rfl⟩ := accepts_exponent _ _ _ h
              have hends : ¬ startsWithDigit (c :: middle) := hrest
              refine ⟨front ++ c :: middle, ?_, by rw [List.append_assoc, List.cons_append]⟩
              simp only [collect_append hends, hfront, countDigits_append hends, hcounted,
                startsWithDigit_append hends, if_pos hstart, List.nil_append, List.length_append,
                Nat.add_sub_add_right, if_pos hexp]
              exact hmiddle
          · obtain ⟨rfl, htaken⟩ := exists_double _ _ _ h
            refine ⟨front, ?_, rfl⟩
            simp only [hfront, hcounted, if_pos hstart]
            exact htaken
  · split at h
    · exact absurd h refuse_ne_ok
    · exact absurd h refuse_ne_ok

/-- Behind its first digits a number takes what it takes whatever follows. -/
theorem accepts_afterDigits :
    Accepts (afterDigits positive digits dropped) (TakenBy (afterDigits positive digits dropped)) := by
  intro bytes left n h
  unfold TakenBy
  cases bytes with
  | nil =>
      obtain ⟨rfl, htaken⟩ := exists_bare _ _ _ h
      exact ⟨[], htaken, rfl⟩
  | cons b r =>
      rw [afterDigits_cons] at h
      split_ifs at h with hpoint hexp
      · obtain ⟨middle, hmiddle, rfl⟩ := accepts_fraction _ _ _ h
        exact ⟨b :: middle, by rwa [afterDigits_cons, if_pos hpoint], rfl⟩
      · obtain ⟨middle, hmiddle, rfl⟩ := accepts_exponent _ _ _ h
        exact ⟨b :: middle, by rwa [afterDigits_cons, if_neg hpoint, if_pos hexp], rfl⟩
      · obtain ⟨rfl, htaken⟩ := exists_bare _ _ _ h
        exact ⟨[], htaken, rfl⟩

/-- **Numbers.** The reader of numbers does not look beyond what it takes. -/
theorem accepts_number : Accepts (number positive) (TakenBy (number positive)) := by
  intro bytes left n h
  unfold TakenBy
  cases bytes with
  | nil => exact absurd h refuse_ne_ok
  | cons b r =>
      simp only [number] at h
      split at h
      · next hzero =>
          split at h
          · exact absurd h refuse_ne_ok
          · next hstart =>
              obtain ⟨middle, hmiddle, rfl⟩ := accepts_afterDigits _ _ _ h
              refine ⟨b :: middle, ?_, rfl⟩
              rw [number, if_pos hzero, if_neg (mt startsWithDigit_of_append hstart)]
              exact hmiddle
      · next hzero =>
          split at h
          · next hb =>
              generalize hcollect : collect (b.toNat - 0x30) r = collected at h
              obtain ⟨m, behind⟩ := collected
              generalize hcount : countDigits behind = counted at h
              obtain ⟨k, rest⟩ := counted
              obtain ⟨front, counted, hfront, hcounted, rfl, rfl⟩ := exists_of_collect hcollect hcount
              obtain ⟨hrest, -⟩ := exists_of_countDigits hcount
              obtain ⟨middle, hmiddle, rfl⟩ := accepts_afterDigits _ _ _ h
              have hends : ¬ startsWithDigit middle := mt startsWithDigit_of_append hrest
              refine ⟨b :: (front ++ middle), ?_, by rw [List.cons_append, List.append_assoc]⟩
              simp only [number, if_neg hzero, if_pos hb, collect_append hends, hfront,
                countDigits_append hends, hcounted, List.nil_append]
              exact hmiddle
          · exact absurd h refuse_ne_ok

end Parts

/-! ### Strings -/

/-- Bytes that are put in front belong to the content that was read. -/
theorem exists_of_push {front content left : List UInt8}
    {result : Except Fault (List UInt8 × List UInt8)} (h : push front result = .ok (content, left)) :
    ∃ more, result = .ok (more, left) ∧ content = front ++ more := by
  obtain ⟨⟨more, _⟩, hresult, heq⟩ := exists_of_map_eq_ok h
  obtain ⟨rfl, rfl⟩ := Prod.mk.inj heq
  exact ⟨more, hresult, rfl⟩

/-- Behind the first bytes of a character, its further bytes and then the rest of a string. -/
def Continues (bytes left : List UInt8) (content : List UInt8) : Prop :=
  ∀ ⦃tail : List UInt8⦄ ⦃cs : List Char⦄, (∀ t ∈ tail, Text.Utf8.continues t) →
    content = tail ++ encodeChars cs →
    ∃ body, IsContent cs body ∧ bytes = tail ++ body ++ byte '"' :: left

/-- The bytes of a whole character continue nothing. -/
theorem Continues.of_isCharText {c : Char} {front bytes left more : List UInt8}
    (hfront : IsCharText c front) (h : Continues bytes left more) :
    Continues (front ++ bytes) left (encodeChar c ++ more) := by
  intro tail cs htail hcontent
  cases tail with
  | nil =>
      obtain ⟨cs, rfl, hmore⟩ := Text.Utf8.exists_of_encodeChars_eq hcontent.symm
      obtain ⟨body, hbody, rfl⟩ := h (List.forall_mem_nil _)
        (show more = [] ++ encodeChars cs from hmore.symm)
      exact ⟨front ++ body, .cons hfront hbody, by simp only [List.nil_append, List.append_assoc]⟩
  | cons t tail =>
      obtain ⟨b, rest, hchar, hb, -⟩ := Text.Utf8.exists_encodeChar_eq_cons c
      rw [hchar, List.cons_append, List.cons_append] at hcontent
      obtain ⟨rfl, -⟩ := List.cons.inj hcontent
      exact absurd (htail _ List.mem_cons_self) hb

/-- A character that begins with a byte that stands for itself can be written as it is. -/
theorem isCharText_of_isPlain {c : Char} {b : UInt8} {tail : List UInt8} (hb : IsPlain b)
    (h : encodeChar c = b :: tail) : IsCharText c (encodeChar c) := by
  obtain ⟨hquote, hslash, hcontrol⟩ := hb
  refine .plain ?_ ?_ ?_
  · rintro rfl
    exact hquote (List.cons.inj h).1.symm
  · rintro rfl
    exact hslash (List.cons.inj h).1.symm
  · by_contra hlow
    have hone : c.toNat < 0x80 := by omega
    rw [encodeChar, if_pos hone] at h
    refine hcontrol ?_
    rw [← (List.cons.inj h).1, UInt8.lt_iff_toNat_lt, Text.Utf8.toNat_ofNat_of_lt (by omega)]
    exact Nat.not_le.mp hlow

/-- A byte that stands for itself comes in front. -/
theorem Continues.of_isPlain {b : UInt8} {bytes left more : List UInt8} (hb : IsPlain b)
    (h : Continues bytes left more) : Continues (b :: bytes) left (b :: more) := by
  intro tail cs htail hcontent
  cases tail with
  | nil =>
      cases cs with
      | nil => exact absurd hcontent (List.cons_ne_nil b more)
      | cons c cs =>
          obtain ⟨_, tail, hchar, -, htail⟩ := Text.Utf8.exists_encodeChar_eq_cons c
          have hcons : encodeChars (c :: cs) = encodeChar c ++ encodeChars cs := List.flatMap_cons
          rw [List.nil_append, hcons, hchar, List.cons_append] at hcontent
          obtain ⟨rfl, hmore⟩ := List.cons.inj hcontent
          obtain ⟨body, hbody, rfl⟩ := h htail hmore
          refine ⟨encodeChar c ++ body, .cons (isCharText_of_isPlain hb hchar) hbody, ?_⟩
          rw [hchar, List.nil_append, List.cons_append, List.cons_append]
  | cons t tail =>
      rw [List.cons_append] at hcontent
      obtain ⟨rfl, hmore⟩ := List.cons.inj hcontent
      obtain ⟨body, hbody, rfl⟩ := h (List.forall_mem_cons.mp htail).2 hmore
      exact ⟨body, hbody, rfl⟩

/-- **A string** that is read goes on to be read whatever stands behind it. The cases are those of the
reader that give a result: the closing quote, a pair of units, one unit, a letter behind a backslash, and
a byte that stands for itself. -/
theorem continues_of_stringBytes {bytes content left : List UInt8}
    (h : stringBytes bytes = .ok (content, left)) : Continues bytes left content := by
  fun_induction stringBytes bytes generalizing content with
  | case2 r =>
      obtain ⟨rfl, rfl⟩ := Prod.mk.inj (Except.ok.inj h)
      intro tail cs _ hcontent
      obtain ⟨rfl, hcs⟩ := List.append_eq_nil_iff.mp hcontent.symm
      cases cs with
      | nil => exact ⟨[], .nil, rfl⟩
      | cons c cs =>
          obtain ⟨b, tail, hchar, -⟩ := Text.Utf8.exists_encodeChar_eq_cons c
          have hcons : encodeChars (c :: cs) = encodeChar c ++ encodeChars cs := List.flatMap_cons
          rw [hcons, hchar] at hcs
          exact absurd hcs (List.cons_ne_nil b _)
  | case9 _ _ _ _ _ hn _ hhigh _ _ _ _ _ _ hm hlow _ ih =>
      obtain ⟨more, hmore, hcontent⟩ := exists_of_push h
      rw [hcontent]
      exact .of_isCharText (.pair hn hhigh hm hlow) (ih hmore)
  | case14 _ _ _ _ _ _ hn hlow hhigh _ ih =>
      obtain ⟨more, hmore, rfl⟩ := exists_of_push h
      exact .of_isCharText (.unit hn hlow hhigh) (ih hmore)
  | case17 e r hu b hletter _ ih =>
      obtain ⟨more, hmore, rfl⟩ := exists_of_push h
      rw [← (simpleEscape_eq_some hletter).2]
      exact .of_isCharText (.letter hletter) (ih hmore)
  | case19 b r hquote hslash hcontrol ih =>
      obtain ⟨more, hmore, rfl⟩ := exists_of_push h
      exact .of_isPlain ⟨hquote, hslash, hcontrol⟩ (ih hmore)
  | _ => exact absurd h refuse_ne_ok

/-- **Strings.** What is read from behind an opening quote is a string and the quote that closes
it. -/
theorem accepts_string :
    Accepts string fun s bytes => ∃ content, IsContent s.toList content ∧
      bytes = content ++ [byte '"'] := by
  intro bytes left s h
  obtain ⟨⟨content, _⟩, hcontent, h⟩ := exists_of_bind_eq_ok h
  simp only at h
  split at h
  · next text hdecode =>
      obtain ⟨rfl, rfl⟩ := Prod.mk.inj (Except.ok.inj h)
      have hencode : content = [] ++ encodeChars text.toList :=
        (Text.Utf8.decode_eq_some_iff.mp hdecode).symm
      obtain ⟨body, hbody, rfl⟩ :=
        continues_of_stringBytes hcontent (List.forall_mem_nil _) hencode
      exact ⟨_, ⟨body, hbody, rfl⟩, by simp only [List.nil_append, List.append_assoc,
        List.singleton_append]⟩
  · exact absurd h refuse_ne_ok

/-! ### Space -/

/-- White space is all that is skipped. -/
theorem exists_gap_append_skipSpace (bytes : List UInt8) :
    ∃ gap, IsGap gap ∧ bytes = gap ++ skipSpace bytes :=
  ⟨bytes.takeWhile isSpace, fun _ hb => List.mem_takeWhile_imp hb,
    List.takeWhile_append_dropWhile.symm⟩

end Reader

section Texts

variable {α : Type} {text : α → List UInt8 → Prop}

/-- A text with space in front of it. -/
def Led (text : α → List UInt8 → Prop) (x : α) (bytes : List UInt8) : Prop :=
  ∃ gap middle, IsGap gap ∧ text x middle ∧ bytes = gap ++ middle

/-- More white space may lead a text. -/
theorem Led.gap_append {x : α} {gap bytes : List UInt8} (hgap : IsGap gap) (h : Led text x bytes) :
    Led text x (gap ++ bytes) := by
  obtain ⟨gap', middle, hgap', hmiddle, rfl⟩ := h
  refine ⟨gap ++ gap', middle, ?_, hmiddle, (List.append_assoc _ _ _).symm⟩
  exact fun b hb => (List.mem_append.mp hb).elim (hgap b) (hgap' b)

/-- One or more texts and a bracket that closes them. -/
def IsClosed (close : UInt8) (text : α → List UInt8 → Prop) (xs : List α) (bytes : List UInt8) :
    Prop := ∃ more, Separated text xs more ∧ bytes = more ++ [close]

/-- What stands behind a text, up to a closing bracket: the further texts, each behind a comma. -/
def IsTail (close : UInt8) (text : α → List UInt8 → Prop) (xs : List α) (bytes : List UInt8) : Prop :=
  ∃ gap, IsGap gap ∧ ((xs = [] ∧ bytes = gap ++ [close]) ∨
    ∃ more, Separated text xs more ∧ bytes = gap ++ byte ',' :: (more ++ [close]))

/-- More white space may lead a list of texts. -/
theorem Separated.gap_append {xs : List α} {gap bytes : List UInt8} (hgap : IsGap gap)
    (h : Separated text xs bytes) : Separated text xs (gap ++ bytes) := by
  have hspaced {x : α} {front : List UInt8} (hx : Spaced text x front) :
      Spaced text x (gap ++ front) := by
    obtain ⟨before, middle, behind, hbefore, hmiddle, hbehind, rfl⟩ := hx
    refine ⟨gap ++ before, middle, behind, ?_, hmiddle, hbehind, by simp only [List.append_assoc]⟩
    exact fun b hb => (List.mem_append.mp hb).elim (hgap b) (hbefore b)
  cases h with
  | last hx => exact .last (hspaced hx)
  | cons hx hmore =>
      rw [← List.append_assoc]
      exact .cons (hspaced hx) hmore

/-- A text and what stands behind it. -/
theorem Led.separated {close : UInt8} {x : α} {xs : List α} {front back : List UInt8}
    (hx : Led text x front) (hxs : IsTail close text xs back) :
    IsClosed close text (x :: xs) (front ++ back) := by
  obtain ⟨before, middle, hbefore, hmiddle, rfl⟩ := hx
  obtain ⟨behind, hbehind, ⟨rfl, rfl⟩ | ⟨more, hmore, rfl⟩⟩ := hxs
  · exact ⟨_, .last ⟨before, middle, behind, hbefore, hmiddle, hbehind, rfl⟩,
      (List.append_assoc _ _ _).symm⟩
  · refine ⟨_, .cons ⟨before, middle, behind, hbefore, hmiddle, hbehind, rfl⟩ hmore, ?_⟩
    simp only [List.append_assoc, List.cons_append]

end Texts

namespace Reader

/-! ### Items -/

section Items

variable {α : Type} {item : Reader α} {text : α → List UInt8 → Prop}

/-- What the loop over the items does first, by whether an item was read already. -/
theorem exists_of_items {fuel : Nat} {first : Bool} {bytes left : List UInt8} {xs : List α}
    (h : items item (fuel + 1) first bytes = .ok (xs, left)) :
    ∃ gap, IsGap gap ∧ ((xs = [] ∧ bytes = gap ++ byte ']' :: left) ∨
      ∃ gap' rest, IsGap gap' ∧ itemAndMore item fuel rest = .ok (xs, left) ∧
        bytes = gap ++ ((if first then [] else [byte ',']) ++ (gap' ++ rest))) := by
  obtain ⟨gap, hgap, hbytes⟩ := exists_gap_append_skipSpace bytes
  refine ⟨gap, hgap, ?_⟩
  rw [items] at h
  split at h
  · exact absurd h refuse_ne_ok
  · next b r hskip =>
      rw [hbytes, hskip]
      split_ifs at h with hclose hfirst hcomma
      · obtain ⟨rfl, rfl⟩ := Prod.mk.inj (Except.ok.inj h)
        exact .inl ⟨rfl, by rw [hclose]⟩
      · exact .inr ⟨[], b :: r, isGap_nil, h, by rw [if_pos hfirst]; rfl⟩
      · split at h
        · exact absurd h refuse_ne_ok
        · next c r' hskip' =>
            split_ifs at h
            · exact absurd h refuse_ne_ok
            · obtain ⟨gap', hgap', hr⟩ := exists_gap_append_skipSpace r
              refine .inr ⟨gap', c :: r', hgap', h, ?_⟩
              rw [if_neg hfirst, hcomma, ← hskip', ← hr]
              rfl
      · exact absurd h refuse_ne_ok

/-- An item is read first, and further ones behind it. -/
theorem exists_of_itemAndMore {fuel : Nat} {bytes left : List UInt8} {xs : List α}
    (h : itemAndMore item fuel bytes = .ok (xs, left)) :
    ∃ x rest more, item bytes = .ok (x, rest) ∧ items item fuel false rest = .ok (more, left) ∧
      xs = x :: more := by
  obtain ⟨⟨x, rest⟩, hitem, h⟩ := exists_of_bind_eq_ok h
  obtain ⟨⟨more, left⟩, hmore, h⟩ := exists_of_bind_eq_ok h
  obtain ⟨rfl, rfl⟩ := Prod.mk.inj (Except.ok.inj h)
  exact ⟨x, rest, more, hitem, hmore, rfl⟩

/-- An item that was read, with the further ones. -/
theorem accepts_itemAndMore (hitem : Accepts item (Led text)) {fuel : Nat}
    (htail : Accepts (items item fuel false) (IsTail (byte ']') text)) :
    Accepts (itemAndMore item fuel) (IsClosed (byte ']') text) := by
  intro bytes left xs h
  obtain ⟨x, rest, more, hx, hmore, rfl⟩ := exists_of_itemAndMore h
  obtain ⟨front, hfront, rfl⟩ := hitem hx
  obtain ⟨back, hback, rfl⟩ := htail hmore
  exact ⟨front ++ back, hfront.separated hback, (List.append_assoc _ _ _).symm⟩

/-- **Further items** of an array are read from their texts only. -/
theorem accepts_furtherItems (hitem : Accepts item (Led text)) (fuel : Nat) :
    Accepts (items item fuel false) (IsTail (byte ']') text) := by
  induction fuel with
  | zero => exact fun bytes left xs h => absurd h refuse_ne_ok
  | succ fuel ih =>
      intro bytes left xs h
      obtain ⟨gap, hgap, ⟨rfl, rfl⟩ | ⟨gap', rest, hgap', hrest, rfl⟩⟩ := exists_of_items h
      · exact ⟨_, ⟨gap, hgap, .inl ⟨rfl, rfl⟩⟩, (List.append_assoc gap [byte ']'] left).symm⟩
      · obtain ⟨_, ⟨more, hmore, rfl⟩, rfl⟩ := accepts_itemAndMore hitem ih hrest
        refine ⟨_, ⟨gap, hgap, .inr ⟨gap' ++ more, hmore.gap_append hgap', rfl⟩⟩, ?_⟩
        simp only [Bool.false_eq_true, if_false, List.append_assoc, List.cons_append,
          List.nil_append]

/-- **Arrays.** What is read from behind an opening bracket is a body and a bracket that closes
it. -/
theorem accepts_items (hitem : Accepts item (Led text)) (fuel : Nat) :
    Accepts (items item fuel true) fun xs bytes =>
      ∃ body, IsBody text xs body ∧ bytes = body ++ [byte ']'] := by
  intro bytes left xs h
  cases fuel with
  | zero => exact absurd h refuse_ne_ok
  | succ fuel =>
      obtain ⟨gap, hgap, ⟨rfl, rfl⟩ | ⟨gap', rest, hgap', hrest, rfl⟩⟩ := exists_of_items h
      · exact ⟨_, ⟨gap, .inl ⟨rfl, hgap⟩, rfl⟩, (List.append_assoc gap [byte ']'] left).symm⟩
      · obtain ⟨_, ⟨more, hmore, rfl⟩, rfl⟩ :=
          accepts_itemAndMore hitem (accepts_furtherItems hitem fuel) hrest
        refine ⟨_, ⟨gap ++ (gap' ++ more), .inr ((hmore.gap_append hgap').gap_append hgap), rfl⟩, ?_⟩
        simp only [if_true, List.append_assoc, List.nil_append]

end Items

/-! ### Members -/

/-- Collects a member whose value is read by `item`. -/
def collectMember {α : Type} (item : Reader α) (key : String) (entries : List (String × α)) :
    Reader (List (String × α)) := fun bytes => do
  let (v, left) ← item (← colon bytes)
  return (entries ++ [(key, v)], left)

section Members

variable {α : Type} {item : Reader α} {text : α → List UInt8 → Prop}

/-- A colon is read behind white space. -/
theorem exists_of_colon {bytes left : List UInt8} (h : colon bytes = .ok left) :
    ∃ gap, IsGap gap ∧ bytes = gap ++ byte ':' :: left := by
  obtain ⟨gap, hgap, hbytes⟩ := exists_gap_append_skipSpace bytes
  unfold colon at h
  split at h
  · exact absurd h refuse_ne_ok
  · next b r hskip =>
      split_ifs at h with hb
      · rw [← Except.ok.inj h, ← hb, ← hskip]
        exact ⟨gap, hgap, hbytes⟩
      · exact absurd h refuse_ne_ok

/-- The end of an object or the next key, by whether a member was read already. -/
theorem exists_of_nextKey {first : Bool} {bytes left : List UInt8} {key? : Option String}
    (h : nextKey first bytes = .ok (key?, left)) :
    ∃ gap, IsGap gap ∧ ((key? = none ∧ bytes = gap ++ byte '\x7d' :: left) ∨
      ∃ gap' key r, IsGap gap' ∧ key? = some key ∧ string r = .ok (key, left) ∧
        bytes = gap ++ ((if first then [] else [byte ',']) ++ (gap' ++ byte '"' :: r))) := by
  obtain ⟨gap, hgap, hbytes⟩ := exists_gap_append_skipSpace bytes
  refine ⟨gap, hgap, ?_⟩
  unfold nextKey at h
  simp only at h
  split at h
  · exact absurd h refuse_ne_ok
  · next b r hskip =>
      rw [hbytes, hskip]
      split_ifs at h with hclose hfirst hquote hcomma
      · obtain ⟨rfl, rfl⟩ := Prod.mk.inj (Except.ok.inj h)
        exact .inl ⟨rfl, by rw [hclose]⟩
      · obtain ⟨⟨key, left⟩, hkey, h⟩ := exists_of_map_eq_ok h
        obtain ⟨rfl, rfl⟩ := Prod.mk.inj h
        exact .inr ⟨[], key, r, isGap_nil, rfl, hkey, by rw [if_pos hfirst, hquote]; rfl⟩
      · exact absurd h refuse_ne_ok
      · split at h
        · exact absurd h refuse_ne_ok
        · next c r' hskip' =>
            split_ifs at h with hquote
            · obtain ⟨⟨key, left⟩, hkey, h⟩ := exists_of_map_eq_ok h
              obtain ⟨rfl, rfl⟩ := Prod.mk.inj h
              obtain ⟨gap', hgap', hr⟩ := exists_gap_append_skipSpace r
              refine .inr ⟨gap', key, r', hgap', rfl, hkey, ?_⟩
              rw [if_neg hfirst, hcomma, ← hquote, ← hskip', ← hr]
              rfl
            · exact absurd h refuse_ne_ok
            · exact absurd h refuse_ne_ok
      · exact absurd h refuse_ne_ok

/-- What the loop over the members does first. -/
theorem exists_of_members {fuel : Nat} {first : Bool} {bytes left : List UInt8}
    {before after : List (String × α)}
    (h : members (collectMember item) (fuel + 1) first before bytes = .ok (after, left)) :
    ∃ gap, IsGap gap ∧ ((after = before ∧ bytes = gap ++ byte '\x7d' :: left) ∨
      ∃ gap' r, IsGap gap' ∧ memberAndMore (collectMember item) fuel before r = .ok (after, left) ∧
        bytes = gap ++ ((if first then [] else [byte ',']) ++ (gap' ++ byte '"' :: r))) := by
  obtain ⟨⟨key?, behind⟩, hkey, hmore⟩ := exists_of_bind_eq_ok h
  obtain ⟨gap, hgap, ⟨rfl, hbytes⟩ | ⟨gap', key, r, hgap', rfl, hstring, hbytes⟩⟩ :=
    exists_of_nextKey hkey
  · obtain ⟨rfl, rfl⟩ := Prod.mk.inj (Except.ok.inj hmore)
    exact ⟨gap, hgap, .inl ⟨rfl, hbytes⟩⟩
  · refine ⟨gap, hgap, .inr ⟨gap', r, hgap', ?_, hbytes⟩⟩
    rw [memberAndMore, hstring]
    exact hmore

/-- A member is read as its key, a colon and its value, and further ones behind it. -/
theorem exists_of_memberAndMore {fuel : Nat} {r left : List UInt8}
    {before after : List (String × α)}
    (h : memberAndMore (collectMember item) fuel before r = .ok (after, left)) :
    ∃ key behind value x rest, string r = .ok (key, behind) ∧ colon behind = .ok value ∧
      item value = .ok (x, rest) ∧
      members (collectMember item) fuel false (before ++ [(key, x)]) rest = .ok (after, left) := by
  obtain ⟨⟨key, behind⟩, hkey, h⟩ := exists_of_bind_eq_ok h
  obtain ⟨⟨next, rest⟩, hmember, hmore⟩ := exists_of_bind_eq_ok h
  obtain ⟨value, hcolon, hmember⟩ := exists_of_bind_eq_ok hmember
  obtain ⟨⟨x, rest⟩, hitem, hmember⟩ := exists_of_bind_eq_ok hmember
  obtain ⟨rfl, rfl⟩ := Prod.mk.inj (Except.ok.inj hmember)
  exact ⟨key, behind, value, x, rest, hkey, hcolon, hitem, hmore⟩

/-- A reader that collects entries behind those that it was given. -/
def Collects (reader : List (String × α) → Reader (List (String × α)))
    (text : List (String × α) → List UInt8 → Prop) : Prop :=
  ∀ before, Accepts (reader before) fun after bytes =>
    ∃ entries, after = before ++ entries ∧ text entries bytes

/-- A member that was read, from behind the opening quote of its key, with the further ones. -/
theorem collects_memberAndMore (hitem : Accepts item (Led text)) {fuel : Nat}
    (htail : Collects (members (collectMember item) fuel false)
      (IsTail (byte '\x7d') (IsMember text))) :
    Collects (memberAndMore (collectMember item) fuel) fun entries bytes =>
      IsClosed (byte '\x7d') (IsMember text) entries (byte '"' :: bytes) := by
  intro before r left after h
  obtain ⟨key, behind, value, x, rest, hkey, hcolon, hx, hmore⟩ := exists_of_memberAndMore h
  obtain ⟨_, ⟨content, hcontent, rfl⟩, rfl⟩ := accepts_string hkey
  obtain ⟨gap, hgap, rfl⟩ := exists_of_colon hcolon
  obtain ⟨_, ⟨gap', middle, hgap', hmiddle, rfl⟩, rfl⟩ := hitem hx
  obtain ⟨back, ⟨entries, rfl, hback⟩, rfl⟩ := htail _ hmore
  have hmember : IsMember text (key, x)
      (byte '"' :: content ++ [byte '"'] ++ gap ++ byte ':' :: (gap' ++ middle)) :=
    ⟨_, gap, gap', middle, ⟨content, hcontent, rfl⟩, hgap, hgap', hmiddle, rfl⟩
  have hled : Led (IsMember text) (key, x) _ := ⟨[], _, isGap_nil, hmember, rfl⟩
  refine ⟨content ++ [byte '"'] ++ gap ++ byte ':' :: (gap' ++ middle) ++ back,
    ⟨(key, x) :: entries, ?_, hled.separated hback⟩, ?_⟩
  · rw [List.append_assoc, List.singleton_append]
  · simp only [List.append_assoc, List.cons_append, List.nil_append]

/-- **Further members** of an object are read from their texts only. -/
theorem collects_furtherMembers (hitem : Accepts item (Led text)) (fuel : Nat) :
    Collects (members (collectMember item) fuel false) (IsTail (byte '\x7d') (IsMember text)) := by
  induction fuel with
  | zero => exact fun before bytes left after h => absurd h refuse_ne_ok
  | succ fuel ih =>
      intro before bytes left after h
      obtain ⟨gap, hgap, ⟨rfl, rfl⟩ | ⟨gap', r, hgap', hread, rfl⟩⟩ := exists_of_members h
      · exact ⟨_, ⟨[], (List.append_nil _).symm, gap, hgap, .inl ⟨rfl, rfl⟩⟩,
          (List.append_assoc gap [byte '\x7d'] left).symm⟩
      · obtain ⟨middle, ⟨entries, rfl, more, hmore, hclosed⟩, rfl⟩ :=
          collects_memberAndMore hitem ih before hread
        refine ⟨gap ++ byte ',' :: (gap' ++ byte '"' :: middle), ⟨entries, rfl, gap, hgap,
          .inr ⟨gap' ++ more, hmore.gap_append hgap', ?_⟩⟩, ?_⟩
        · rw [hclosed, List.append_assoc]
        · simp only [Bool.false_eq_true, if_false, List.append_assoc, List.cons_append,
            List.nil_append]

/-- **Objects.** What is read from behind an opening brace is a body and a brace that closes it. -/
theorem collects_members (hitem : Accepts item (Led text)) (fuel : Nat) :
    Collects (members (collectMember item) fuel true) fun entries bytes =>
      ∃ body, IsBody (IsMember text) entries body ∧ bytes = body ++ [byte '\x7d'] := by
  intro before bytes left after h
  cases fuel with
  | zero => exact absurd h refuse_ne_ok
  | succ fuel =>
      obtain ⟨gap, hgap, ⟨rfl, rfl⟩ | ⟨gap', r, hgap', hread, rfl⟩⟩ := exists_of_members h
      · exact ⟨_, ⟨[], (List.append_nil _).symm, gap, .inl ⟨rfl, hgap⟩, rfl⟩,
          (List.append_assoc gap [byte '\x7d'] left).symm⟩
      · obtain ⟨middle, ⟨entries, rfl, more, hmore, hclosed⟩, rfl⟩ :=
          collects_memberAndMore hitem (collects_furtherMembers hitem fuel) before hread
        refine ⟨gap ++ (gap' ++ byte '"' :: middle), ⟨entries, rfl, gap ++ (gap' ++ more),
          .inr ((hmore.gap_append hgap').gap_append hgap), ?_⟩, ?_⟩
        · rw [hclosed, List.append_assoc, List.append_assoc]
        · simp only [if_true, List.append_assoc, List.cons_append, List.nil_append]

end Members

/-! ### Values -/

/-- A word is read letter by letter. -/
theorem exists_of_word {cs : List Char} {bytes left : List UInt8} (h : word cs bytes = .ok left) :
    bytes = wordBytes cs ++ left := by
  induction cs generalizing bytes with
  | nil => exact Except.ok.inj h
  | cons c cs ih =>
      cases bytes with
      | nil => exact absurd h refuse_ne_ok
      | cons b r =>
          rw [word] at h
          split at h
          · next hb =>
              rw [hb, ih h]
              rfl
          · exact absurd h refuse_ne_ok

/-- A word that stands for a value. -/
theorem exists_of_map_word {cs : List Char} {r left : List UInt8} {v v' : Value}
    (h : (word cs r).map (fun left => (v, left)) = .ok (v', left)) :
    v' = v ∧ r = wordBytes cs ++ left := by
  obtain ⟨_, hword, hv⟩ := exists_of_map_eq_ok h
  obtain ⟨rfl, rfl⟩ := Prod.mk.inj hv
  exact ⟨rfl, exists_of_word hword⟩

/-- A value that is made of what a reader takes. -/
theorem exists_of_map_accepts {α : Type} {reader : Reader α} {text : α → List UInt8 → Prop}
    (hreader : Accepts reader text) {f : α → Value} {r left : List UInt8} {v : Value}
    (h : (reader r).map (fun (x, left) => (f x, left)) = .ok (v, left)) :
    ∃ x middle, v = f x ∧ text x middle ∧ r = middle ++ left := by
  obtain ⟨⟨x, _⟩, hread, hv⟩ := exists_of_map_eq_ok h
  obtain ⟨rfl, rfl⟩ := Prod.mk.inj hv
  obtain ⟨middle, hmiddle, rfl⟩ := hreader hread
  exact ⟨x, middle, rfl, hmiddle, rfl⟩

/-- The first byte of a value tells its kind. -/
theorem accepts_value_cons {levels : Nat} {b : UInt8} {r left : List UInt8} {v : Value}
    (hinner : ∀ inner, levels = inner + 1 → Accepts (value inner) (Led (IsText inner)))
    (hspace : ¬ isSpace b) (h : value levels (b :: r) = .ok (v, left)) :
    ∃ middle, IsText levels v middle ∧ b :: r = middle ++ left := by
  rw [value_cons hspace] at h
  split_ifs at h with hn ht hf hminus hdigit hquote hopen hbrace
  · obtain ⟨rfl, rfl⟩ := exists_of_map_word h
    exact ⟨_, by rw [IsText], by rw [hn]; rfl⟩
  · obtain ⟨rfl, rfl⟩ := exists_of_map_word h
    exact ⟨_, by rw [IsText], by rw [ht]; rfl⟩
  · obtain ⟨rfl, rfl⟩ := exists_of_map_word h
    exact ⟨_, by rw [IsText], by rw [hf]; rfl⟩
  · obtain ⟨n, middle, rfl, hmiddle, rfl⟩ := exists_of_map_accepts (accepts_number _) h
    exact ⟨b :: middle, by rw [IsText, hminus]; exact .inl ⟨middle, rfl, hmiddle⟩, rfl⟩
  · obtain ⟨n, middle, rfl, hmiddle, hbytes⟩ := exists_of_map_accepts (accepts_number _) h
    refine ⟨middle, ?_, hbytes⟩
    cases middle with
    | nil => exact absurd hmiddle refuse_ne_ok
    | cons c middle =>
        obtain ⟨rfl, -⟩ := List.cons.inj hbytes
        rw [IsText]
        exact .inr ⟨b, middle, rfl, hdigit, hmiddle⟩
  · obtain ⟨s, _, rfl, ⟨content, hcontent, rfl⟩, rfl⟩ := exists_of_map_accepts accepts_string h
    exact ⟨byte '"' :: content ++ [byte '"'], by rw [IsText]; exact ⟨content, hcontent, rfl⟩,
      by rw [hquote]; rfl⟩
  · cases levels with
    | zero => exact absurd h refuse_ne_ok
    | succ inner =>
        obtain ⟨xs, _, rfl, ⟨body, hbody, rfl⟩, rfl⟩ :=
          exists_of_map_accepts (accepts_items (hinner inner rfl) _) h
        exact ⟨byte '[' :: (body ++ [byte ']']), by rw [IsText]; exact ⟨body, hbody, rfl⟩,
          by rw [hopen]; rfl⟩
  · cases levels with
    | zero => exact absurd h refuse_ne_ok
    | succ inner =>
        obtain ⟨_, _, rfl, ⟨entries, rfl, body, hbody, rfl⟩, rfl⟩ :=
          exists_of_map_accepts (f := fun entries => .object (Members.ofList entries))
            (collects_members (hinner inner rfl) _ []) h
        refine ⟨byte '\x7b' :: (body ++ [byte '\x7d']), ?_, by rw [hbrace]; rfl⟩
        rw [IsText]
        exact ⟨_, body, hbody, rfl, rfl⟩
  · exact absurd h refuse_ne_ok

/-- What is left does not begin with white space. -/
theorem skipSpace_eq_cons {bytes r : List UInt8} {b : UInt8} (h : skipSpace bytes = b :: r) :
    ¬ isSpace b := by
  have hhead := List.head?_dropWhile_not isSpace bytes
  rw [show bytes.dropWhile isSpace = b :: r from h] at hhead
  simpa using hhead

/-- **Values.** What the reader of values takes is a text of the value that it gives. The induction
is on the levels, which arrays and objects use up. -/
theorem accepts_value (levels : Nat) : Accepts (value levels) (Led (IsText levels)) := by
  induction levels using Nat.strong_induction_on with
  | _ levels ih =>
      intro bytes left v h
      obtain ⟨gap, hgap, hbytes⟩ := exists_gap_append_skipSpace bytes
      rw [hbytes, value_gap_append hgap] at h
      cases hskip : skipSpace bytes with
      | nil =>
          rw [hskip] at h
          exact absurd h (by simp [value, skipSpace, refuse])
      | cons b r =>
          rw [hskip] at h
          have hinner (inner : Nat) (hlevels : levels = inner + 1) :=
            ih inner (hlevels ▸ Nat.lt_succ_self inner)
          obtain ⟨middle, hmiddle, hr⟩ := accepts_value_cons hinner (skipSpace_eq_cons hskip) h
          refine ⟨gap ++ middle, ⟨gap, middle, hgap, hmiddle, rfl⟩, ?_⟩
          rw [hbytes, hskip, hr, List.append_assoc]

/-- A reader that reads a whole text leaves nothing but space. -/
theorem exists_of_whole {α : Type} {reader : Reader α} {bytes : List UInt8} {x : α}
    (h : whole reader bytes = .ok x) : ∃ left, reader bytes = .ok (x, left) ∧ IsGap left := by
  obtain ⟨⟨y, left⟩, hread, h⟩ := exists_of_bind_eq_ok h
  simp only at h
  split at h
  · next hskip =>
      obtain ⟨gap, hgap, hleft⟩ := exists_gap_append_skipSpace left
      rw [hskip, List.append_nil] at hleft
      obtain rfl := Except.ok.inj h
      exact ⟨left, hread, hleft ▸ hgap⟩
  · exact absurd h refuse_ne_ok

end Reader

namespace Value

/-- **Every text that is read** is a text of the value that was read. -/
theorem isDocument_of_parseBytes {v : Value} {bytes : List UInt8} (h : parseBytes bytes = .ok v) :
    IsDocument maxLevels v bytes := by
  obtain ⟨left, hread, hleft⟩ := Reader.exists_of_whole h
  obtain ⟨_, ⟨gap, middle, hgap, hmiddle, rfl⟩, rfl⟩ := Reader.accepts_value maxLevels hread
  exact ⟨gap, middle, left, hgap, hmiddle, hleft, rfl⟩

/-- **Parsing** gives a value when the text is one of the value, with space around it and arrays and
objects nested no deeper than the limit. -/
theorem parse_eq_ok_iff {v : Value} {text : String} :
    parse text = .ok v ↔ IsDocument maxLevels v (Text.Utf8.encode text) :=
  ⟨isDocument_of_parseBytes, parseBytes_of_isDocument⟩

end Value

end Switchboard.Json
