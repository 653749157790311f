import Switchboard.Proofs.Alias.PlainFormat
import Switchboard.Proofs.Pattern.Language
import Switchboard.Proofs.Unicode.Folding

/-!
# Which texts a plain format recognizes

A plain format is a row of literals with a placeholder between each two of them. A text is
recognized by the format when it can be cut into something before the command, the literals
in any case, a value for every placeholder, and a trailer that reaches to the end of the text.
`Cut` is such a cut, with the conditions on its parts.

Nothing in this description depends on which of several cuts is preferred.

## Convention

Case is ignored by simple case folding throughout, in keys and values too: a word character
is one that folds as an ASCII letter, a digit or the low line does.

## Main results

* `matches_trailer_iff`: the texts that the pattern of the trailer matches.
* `matches_segments_iff`: the texts that the patterns of some segments match.
* `isMatch_iff_cut`: a text is recognized exactly when it can be cut, and values are taken
  out of exactly the texts that are recognized.
-/

namespace Switchboard.Alias.Format

open Pattern (Expr Atom Matches matches_set_iff matches_cat_iff matches_opt_iff
  matches_capture_iff matches_loop_iff matches_loop_set_iff matches_concat_cons_iff
  matches_finish_iff)
open Unicode (CharSet)
open Unicode.Case (foldCode)
open Text (isBlank)

/-! ### Texts up to case -/

/-- Texts that agree up to simple case folding. -/
def SameFold (xs ys : List Char) : Prop :=
  xs.map (fun c => foldCode c.toNat) = ys.map fun c => foldCode c.toNat

/-- Only the empty text folds like the empty text. -/
@[simp] theorem sameFold_nil_right {xs : List Char} : SameFold xs [] ↔ xs = [] := by
  simp [SameFold]

/-- A text folds like itself. -/
theorem SameFold.refl (xs : List Char) : SameFold xs xs := rfl

/-- Texts that fold alike in two parts fold alike. -/
theorem SameFold.append {xs xs' ys ys' : List Char} (h : SameFold xs ys)
    (h' : SameFold xs' ys') : SameFold (xs ++ xs') (ys ++ ys') := by
  simp only [SameFold, List.map_append] at h h' ⊢
  rw [h, h']

/-- What agrees with two texts one after the other is two such texts. -/
theorem SameFold.of_append {xs ys ys' : List Char} (h : SameFold xs (ys ++ ys')) :
    ∃ x x', xs = x ++ x' ∧ SameFold x ys ∧ SameFold x' ys' := by
  rw [SameFold, List.map_append] at h
  obtain ⟨x, x', rfl, hx, hx'⟩ := List.map_eq_append_iff.mp h
  exact ⟨x, x', rfl, hx, hx'⟩

/-! ### The trailer -/

/-- The ASCII digits and letters, and the low line. -/
def IsAsciiWordChar (d : Char) : Prop :=
  ('0' ≤ d ∧ d ≤ '9') ∨ ('A' ≤ d ∧ d ≤ 'Z') ∨ ('a' ≤ d ∧ d ≤ 'z') ∨ d = '_'

instance : DecidablePred IsAsciiWordChar :=
  fun d => inferInstanceAs (Decidable (_ ∨ _ ∨ _ ∨ d = '_'))

/-- A character of keys and values. -/
def IsWordChar (c : Char) : Prop := ∃ d, IsAsciiWordChar d ∧ foldCode c.toNat = foldCode d.toNat

/-- A key or a value. -/
def IsWord (cs : List Char) : Prop := cs ≠ [] ∧ ∀ c ∈ cs, IsWordChar c

/-- Text of ASCII word characters is a key or a value. -/
theorem isWord_of_ascii {cs : List Char} (hne : cs ≠ []) (h : ∀ c ∈ cs, IsAsciiWordChar c) :
    IsWord cs :=
  ⟨hne, fun c hc => ⟨c, h c hc, rfl⟩⟩

/-- A key and a value with an equals sign between them, behind at most one blank. -/
def IsPair (cs : List Char) : Prop :=
  ∃ gap key value, cs = gap ++ key ++ '=' :: value ∧ gap.length ≤ 1 ∧
    (∀ c ∈ gap, isBlank c) ∧ IsWord key ∧ IsWord value

/-- Blanks, if there are any, and then pairs, if there are any. -/
def IsTrailer (cs : List Char) : Prop :=
  ∃ (gap : List Char) (pairs : List (List Char)),
    cs = gap ++ pairs.flatten ∧ (∀ c ∈ gap, isBlank c) ∧ ∀ pair ∈ pairs, IsPair pair

section Language

variable {pre cs post : List Char}

/-- The set for a letter holds the characters that fold like it. -/
theorem has_sameFold_iff {c d : Char} :
    (CharSet.sameFold c.toNat).has d ↔ foldCode d.toNat = foldCode c.toNat := by
  rw [CharSet.has, CharSet.contains, beq_iff_eq]

/-- The set for white space. -/
theorem has_spaceSet (c : Char) : spaceSet.has c = isBlank c := Bool.or_false _

/-- The set for characters within a line. -/
theorem has_lineSet_iff {c : Char} : lineSet.has c ↔ c ≠ '\n' := by
  have hsingle : (CharSet.single '\n').contains c.toNat ↔ c = '\n' := by
    rw [CharSet.single, CharSet.contains, Bool.and_eq_true, decide_eq_true_eq, decide_eq_true_eq,
      ← Nat.le_antisymm_iff, eq_comm, Char.toNat_inj]
  rw [CharSet.has, lineSet, CharSet.contains, Bool.not_eq_true', ← Bool.not_eq_true, hsingle]

/-- The set for the characters of words, before it is closed under folding. -/
theorem has_asciiWordSet_iff {d : Char} : asciiWordSet.has d ↔ IsAsciiWordChar d := by
  have hlow : d = '_' ↔ d.toNat = 95 := by rw [← Char.toNat_inj]; rfl
  simp only [CharSet.has, asciiWordSet, CharSet.contains, CharSet.empty, List.any_nil,
    Bool.or_false, Bool.or_eq_true, Bool.and_eq_true, decide_eq_true_eq, IsAsciiWordChar, hlow,
    Char.le_def, UInt32.le_iff_toNat_le]
  change _ ↔ (48 ≤ d.toNat ∧ d.toNat ≤ 57) ∨ (65 ≤ d.toNat ∧ d.toNat ≤ 90) ∨
    (97 ≤ d.toNat ∧ d.toNat ≤ 122) ∨ d.toNat = 95
  omega

/-- The set for the characters of words. -/
theorem has_wordSet_iff {c : Char} : wordSet.has c ↔ IsWordChar c := by
  rw [CharSet.has, wordSet, CharSet.contains_folded]
  constructor
  · rintro ⟨m, hm, hfold⟩
    have hlt : m < 123 := by
      simp only [asciiWordSet, CharSet.contains, CharSet.empty, List.any_nil, Bool.or_false,
        Bool.or_eq_true, Bool.and_eq_true, decide_eq_true_eq] at hm
      omega
    have hascii : ∀ n < 123, (Char.ofNat n).toNat = n := by decide
    have hchar := hascii m hlt
    refine ⟨Char.ofNat m, has_asciiWordSet_iff.mp ?_, ?_⟩
    · rwa [CharSet.has, hchar]
    · rw [hchar, hfold]
  · rintro ⟨d, hd, hfold⟩
    exact ⟨d.toNat, has_asciiWordSet_iff.mpr hd, hfold.symm⟩

/-- What a letter of a format matches. -/
theorem matches_letter_iff {c : Char} :
    Matches (letterExpr c) pre cs post ↔ SameFold cs [c] := by
  rw [letterExpr, matches_set_iff]
  simp only [has_sameFold_iff]
  constructor
  · rintro ⟨d, rfl, hd⟩
    simpa [SameFold] using hd
  · intro h
    obtain ⟨d, hd, hfold⟩ := List.map_eq_singleton_iff.mp h
    exact ⟨d, hd, hfold⟩

/-- The equals sign folds like no other character. -/
theorem sameFold_equals_iff {xs : List Char} : SameFold xs ['='] ↔ xs = ['='] := by
  constructor
  · intro h
    obtain ⟨d, rfl, hfold⟩ := List.map_eq_singleton_iff.mp h
    have hd := Unicode.Case.eq_of_foldCode_eq (by decide) hfold
    rw [Char.toNat_inj.mp hd]
  · rintro rfl
    exact SameFold.refl _

/-- What the pattern of a word matches. -/
theorem matches_word_iff : Matches wordExpr pre cs post ↔ IsWord cs := by
  rw [wordExpr, matches_loop_set_iff]
  simp only [has_wordSet_iff, IsWord]

/-- What the pattern of a pair matches. -/
theorem matches_pair_iff : Matches pairExpr pre cs post ↔ IsPair cs := by
  simp only [pairExpr, matches_cat_iff, matches_opt_iff, matches_set_iff, matches_word_iff,
    matches_letter_iff, sameFold_equals_iff, has_spaceSet]
  constructor
  · rintro ⟨gap, _, rfl, hgap, key, _, rfl, hkey, _, value, rfl, rfl, hvalue⟩
    refine ⟨gap, key, value, by simp, ?_, ?_, hkey, hvalue⟩
    · rcases hgap with rfl | ⟨b, rfl, -⟩ <;> simp
    · rcases hgap with rfl | ⟨b, rfl, hb⟩
      · simp
      · simpa using hb
  · rintro ⟨gap, key, value, rfl, hlength, hgap, hkey, hvalue⟩
    refine ⟨gap, key ++ '=' :: value, by simp, ?_, key, '=' :: value, rfl, hkey, ['='], value, rfl,
      rfl, hvalue⟩
    cases gap with
    | nil => exact Or.inl rfl
    | cons b rest =>
        obtain rfl : rest = [] := by
          rw [← List.length_eq_zero_iff]
          simpa using hlength
        exact Or.inr ⟨b, rfl, hgap b List.mem_cons_self⟩

/-- What stands in front of a trailer or behind it. -/
theorem matches_gap_iff : Matches gapExpr pre cs post ↔ ∀ c ∈ cs, isBlank c := by
  rw [gapExpr, matches_opt_iff, matches_loop_set_iff]
  simp only [has_spaceSet]
  constructor
  · rintro (rfl | ⟨-, h⟩)
    · simp
    · exact h
  · intro h
    rcases eq_or_ne cs [] with rfl | hne
    · exact Or.inl rfl
    · exact Or.inr ⟨hne, h⟩

/-- What the pattern of some pairs matches. -/
theorem matches_pairs_iff :
    Matches (.opt true (.loop true pairExpr)) pre cs post ↔
      ∃ pairs : List (List Char), cs = pairs.flatten ∧ ∀ pair ∈ pairs, IsPair pair := by
  rw [matches_opt_iff, matches_loop_iff matches_pair_iff]
  constructor
  · rintro (rfl | ⟨pairs, -, hpairs, rfl⟩)
    · exact ⟨[], rfl, by simp⟩
    · exact ⟨pairs, rfl, hpairs⟩
  · rintro ⟨pairs, rfl, hpairs⟩
    rcases eq_or_ne pairs [] with rfl | hne
    · exact Or.inl rfl
    · exact Or.inr ⟨pairs, hne, hpairs, rfl⟩

/-- **The trailer** matches blanks and then pairs. -/
theorem matches_trailer_iff : Matches trailerExpr pre cs post ↔ IsTrailer cs := by
  simp only [trailerExpr, matches_capture_iff, matches_cat_iff, matches_gap_iff, matches_pairs_iff]
  constructor
  · rintro ⟨gap, _, rfl, hgap, pairs, rfl, hpairs⟩
    exact ⟨gap, pairs, rfl, hgap, hpairs⟩
  · rintro ⟨gap, pairs, rfl, hgap, hpairs⟩
    exact ⟨gap, pairs.flatten, rfl, hgap, pairs, rfl, hpairs⟩

end Language

/-! ### Literals and values -/

/-- The literals around the placeholders: what stands before the first one, between each two, and
behind the last one. -/
def literals : List Segment → List (List Char)
  | [] => [[]]
  | .literal text :: rest => (literals rest).modifyHead (text ++ ·)
  | .placeholder _ :: rest => [] :: literals rest

/-- Literals and values in turns, beginning with a literal. -/
def weave : (literals values : List (List Char)) → List Char
  | [], _ => []
  | literal :: _, [] => literal
  | literal :: literals, value :: values => literal ++ value ++ weave literals values

/-- There is a literal in front of every placeholder, though it may be empty. -/
theorem exists_literals_eq_cons (segments : List Segment) :
    ∃ first more, literals segments = first :: more := by
  induction segments with
  | nil => exact ⟨[], [], rfl⟩
  | cons segment rest ih =>
      cases segment with
      | literal text =>
          obtain ⟨first, more, heq⟩ := ih
          exact ⟨text ++ first, more, by rw [literals, heq]; rfl⟩
      | placeholder inner => exact ⟨[], literals rest, rfl⟩

/-- Text in front of the first literal. -/
theorem weave_append_cons (text first : List Char) (more values : List (List Char)) :
    weave ((text ++ first) :: more) values = text ++ weave (first :: more) values := by
  cases values with
  | nil => rfl
  | cons value values => simp only [weave, List.append_assoc]

/-- Literal text is written in front of what follows. -/
theorem weave_literals_literal (text : List Char) (rest : List Segment)
    (values : List (List Char)) :
    weave (literals (.literal text :: rest)) values = text ++ weave (literals rest) values := by
  obtain ⟨first, more, heq⟩ := exists_literals_eq_cons rest
  rw [literals, heq]
  exact weave_append_cons text first more values

/-- Literals and values for the literals and placeholders of some segments. -/
structure Fits (segments : List Segment) (written values : List (List Char)) : Prop where
  sameFold : List.Forall₂ SameFold written (literals segments)
  length_values : values.length = (names segments).length
  /-- Values are not empty and stay on one line. -/
  line : ∀ value ∈ values, value ≠ [] ∧ '\n' ∉ value

namespace Fits

variable {segments : List Segment} {written values : List (List Char)}

/-- What a format takes begins with text for a literal. -/
theorem exists_written_eq_cons (h : Fits segments written values) :
    ∃ first more, written = first :: more := by
  obtain ⟨first', more', heq⟩ := exists_literals_eq_cons segments
  have hsame := h.sameFold
  rw [heq] at hsame
  obtain ⟨first, more, -, -, rfl⟩ := List.forall₂_cons_right_iff.mp hsame
  exact ⟨first, more, rfl⟩

/-- In front of the first literal there may be more literal text. -/
theorem literal {text m first : List Char} {more : List (List Char)} (hm : SameFold m text)
    (h : Fits segments (first :: more) values) :
    Fits (.literal text :: segments) ((m ++ first) :: more) values where
  sameFold := by
    obtain ⟨first', more', heq⟩ := exists_literals_eq_cons segments
    have hsame := h.sameFold
    rw [heq] at hsame
    rw [literals, heq]
    obtain ⟨hfirst, hmore⟩ := List.forall₂_cons.mp hsame
    exact .cons (hm.append hfirst) hmore
  length_values := h.length_values
  line := h.line

/-- Literal text is a part of the first literal. -/
theorem of_literal {text : List Char} (h : Fits (.literal text :: segments) written values) :
    ∃ m first more, written = (m ++ first) :: more ∧ SameFold m text ∧
      Fits segments (first :: more) values := by
  obtain ⟨first', more', heq⟩ := exists_literals_eq_cons segments
  have hsame := h.sameFold
  rw [literals, heq] at hsame
  obtain ⟨first, more, hfirst, hmore, rfl⟩ := List.forall₂_cons_right_iff.mp hsame
  obtain ⟨m, first, rfl, hm, hfirst⟩ := hfirst.of_append
  exact ⟨m, first, more, rfl, hm, by rw [heq]; exact .cons hfirst hmore, h.length_values, h.line⟩

/-- A value comes in for a placeholder. -/
theorem placeholder {inner value : List Char} (hvalue : value ≠ [] ∧ '\n' ∉ value)
    (h : Fits segments written values) :
    Fits (.placeholder inner :: segments) ([] :: written) (value :: values) where
  sameFold := .cons (SameFold.refl _) h.sameFold
  length_values := congrArg (· + 1) h.length_values
  line := List.forall_mem_cons.mpr ⟨hvalue, h.line⟩

/-- A format that begins with a placeholder takes a value first. -/
theorem of_placeholder {inner : List Char}
    (h : Fits (.placeholder inner :: segments) written values) :
    ∃ written' value values', written = [] :: written' ∧ values = value :: values' ∧
      (value ≠ [] ∧ '\n' ∉ value) ∧ Fits segments written' values' := by
  obtain ⟨m, written', hm, hwritten, rfl⟩ := List.forall₂_cons_right_iff.mp h.sameFold
  obtain rfl := sameFold_nil_right.mp hm
  obtain ⟨value, values', rfl⟩ := List.exists_cons_of_length_eq_add_one h.length_values
  obtain ⟨hvalue, hline⟩ := List.forall_mem_cons.mp h.line
  exact ⟨written', value, values', rfl, rfl, hvalue, hwritten, Nat.succ_inj.mp h.length_values,
    hline⟩

end Fits

/-! ### Segments -/

/-- The letters of a literal match what agrees with them up to case. -/
theorem matches_letters_iff {text : List Char} {es : List (Expr Atom)} {pre cs post : List Char} :
    Matches (.concat (text.map letterExpr ++ es)) pre cs post ↔
      ∃ m rest, cs = m ++ rest ∧ SameFold m text ∧ Matches (.concat es) (pre ++ m) rest post := by
  induction text generalizing pre cs with
  | nil =>
      constructor
      · intro h
        exact ⟨[], cs, rfl, SameFold.refl _, by simpa using h⟩
      · rintro ⟨m, rest, rfl, hm, h⟩
        obtain rfl := sameFold_nil_right.mp hm
        simpa using h
  | cons c text ih =>
      rw [List.map_cons, List.cons_append, matches_concat_cons_iff]
      constructor
      · rintro ⟨x, _, rfl, hx, h⟩
        obtain ⟨m, rest, rfl, hm, hrest⟩ := ih.mp h
        refine ⟨x ++ m, rest, by simp, (matches_letter_iff.mp hx).append hm, by simpa using hrest⟩
      · rintro ⟨_, rest, rfl, hm, h⟩
        obtain ⟨x, m, rfl, hx, hm⟩ := SameFold.of_append (show SameFold _ ([c] ++ text) from hm)
        refine ⟨x, m ++ rest, by simp, matches_letter_iff.mpr hx, ih.mpr ⟨m, rest, rfl, hm, ?_⟩⟩
        simpa using h

/-- What a placeholder matches. -/
theorem matches_wildcard_iff {pre cs post : List Char} :
    Matches wildcardExpr pre cs post ↔ cs ≠ [] ∧ '\n' ∉ cs := by
  rw [wildcardExpr, matches_loop_set_iff]
  simp only [has_lineSet_iff, ne_eq, and_congr_right_iff]
  exact fun _ => ⟨fun h hmem => h _ hmem rfl, fun h c hc heq => h (heq ▸ hc)⟩

/-- **Segments** match literals in any case and values in turns. -/
theorem matches_segments_iff {index : Nat} {segments : List Segment} {es : List (Expr Atom)}
    {pre cs post : List Char} :
    Matches (.concat (segmentExprs index segments ++ es)) pre cs post ↔
      ∃ written values rest, Fits segments written values ∧ cs = weave written values ++ rest ∧
        Matches (.concat es) (pre ++ weave written values) rest post := by
  induction segments generalizing index pre cs with
  | nil =>
      constructor
      · intro h
        exact ⟨[[]], [], cs, ⟨.cons (SameFold.refl _) .nil, rfl, by simp⟩, rfl,
          by simpa [weave, segmentExprs] using h⟩
      · rintro ⟨written, values, rest, hfits, rfl, h⟩
        obtain rfl := List.length_eq_zero_iff.mp hfits.length_values
        obtain ⟨m, more, hm, hmore, rfl⟩ := List.forall₂_cons_right_iff.mp hfits.sameFold
        obtain rfl := sameFold_nil_right.mp hm
        simpa [weave, segmentExprs] using h
  | cons segment segments ih =>
      cases segment with
      | literal text =>
          rw [segmentExprs, List.append_assoc, matches_letters_iff]
          constructor
          · rintro ⟨m, _, rfl, hm, h⟩
            obtain ⟨written, values, rest, hfits, rfl, hrest⟩ := ih.mp h
            obtain ⟨first, more, rfl⟩ := hfits.exists_written_eq_cons
            refine ⟨(m ++ first) :: more, values, rest, hfits.literal hm, ?_, ?_⟩
            · rw [weave_append_cons, List.append_assoc]
            · rwa [weave_append_cons, ← List.append_assoc]
          · rintro ⟨written, values, rest, hfits, rfl, h⟩
            obtain ⟨m, first, more, rfl, hm, hfits⟩ := hfits.of_literal
            rw [weave_append_cons, ← List.append_assoc] at h
            refine ⟨m, weave (first :: more) values ++ rest, ?_, hm,
              ih.mpr ⟨_, values, rest, hfits, rfl, h⟩⟩
            rw [weave_append_cons, List.append_assoc]
      | placeholder inner =>
          rw [segmentExprs, List.cons_append, matches_concat_cons_iff]
          simp only [matches_capture_iff, matches_wildcard_iff]
          constructor
          · rintro ⟨value, _, rfl, hvalue, h⟩
            obtain ⟨written, values, rest, hfits, rfl, hrest⟩ := ih.mp h
            exact ⟨[] :: written, value :: values, rest, hfits.placeholder hvalue,
              by simp [weave], by simpa [weave] using hrest⟩
          · rintro ⟨written, values, rest, hfits, rfl, h⟩
            obtain ⟨written, value, values, rfl, rfl, hvalue, hfits⟩ := hfits.of_placeholder
            exact ⟨value, weave written values ++ rest, by simp [weave], hvalue,
              ih.mpr ⟨written, values, rest, hfits, rfl, by simpa [weave] using h⟩⟩

/-! ### Cuts -/

/-- A cut of a text into something before the command, the literals of some segments in any case,
values for their placeholders, and a trailer. -/
structure Cut (segments : List Segment) (text : List Char) where
  before : List Char
  written : List (List Char)
  values : List (List Char)
  trailer : List Char
  text_eq : text = before ++ weave written values ++ trailer
  fits : Fits segments written values
  isTrailer : IsTrailer trailer

/-- A match of a plain format is a cut up to the end of the text. -/
theorem matches_formatExpr_iff {segments : List Segment} {pre cs post : List Char} :
    Matches (formatExpr segments) pre cs post ↔
      post = [] ∧ ∃ written values trailer, cs = weave written values ++ trailer ∧
        Fits segments written values ∧ IsTrailer trailer := by
  simp only [formatExpr, matches_segments_iff, matches_concat_cons_iff, matches_trailer_iff,
    finishExpr, matches_finish_iff]
  constructor
  · rintro ⟨written, values, _, hfits, rfl, trailer, _, rfl, htrailer, _, _, rfl,
      ⟨rfl, hpost⟩, hnil⟩
    obtain ⟨⟩ := hnil
    exact ⟨hpost, written, values, trailer, by simp, hfits, htrailer⟩
  · rintro ⟨rfl, written, values, trailer, rfl, hfits, htrailer⟩
    exact ⟨written, values, trailer, hfits, rfl, trailer, [], by simp, htrailer, [], [], rfl,
      ⟨rfl, rfl⟩, .empty⟩

/-- **Recognition.** A text is recognized by a plain format exactly when it can be cut, and values
are taken out of exactly the texts that are recognized. -/
theorem isMatch_iff_cut {owner format : String} {recognizer : Recognizer} (hplain : Plain format)
    (hcompile : Recognizer.compile owner format = .ok recognizer) (text : String) :
    (recognizer.isMatch text ↔ Nonempty (Cut (split format.toList) text.toList)) ∧
      ((recognizer.extract text).isSome ↔ recognizer.isMatch text) := by
  obtain ⟨-, hexpr⟩ := expr_of_compile hplain hcompile
  refine ⟨?_, ?_⟩
  · rw [Recognizer.isMatch, Pattern.isMatch, hexpr, Pattern.Match.found_iff_matches]
    simp only [matches_formatExpr_iff]
    constructor
    · rintro ⟨pre, _, _, htext, rfl, written, values, trailer, rfl, hfits, htrailer⟩
      exact ⟨⟨pre, written, values, trailer, by simpa using htext, hfits, htrailer⟩⟩
    · rintro ⟨⟨pre, written, values, trailer, htext, hfits, htrailer⟩⟩
      exact ⟨pre, _, [], by simpa using htext, rfl, written, values, trailer, rfl, hfits, htrailer⟩
  · rw [Recognizer.extract, Option.isSome_map, Pattern.groups?, Option.isSome_map,
      Pattern.Match.search_isSome]
    rfl

/-- A text that is recognized in capitals, in the middle of a message and with a trailer. -/
theorem isMatch_iff_cut_play :
    ∃ recognizer, Recognizer.compile "music" "play {{title}}" = .ok recognizer ∧
      Plain "play {{title}}" ∧ recognizer.isMatch "so PLAY a song vol=1" ∧
      Nonempty (Cut (split "play {{title}}".toList) "so PLAY a song vol=1".toList) ∧
      (recognizer.extract "so PLAY a song vol=1").isSome := by
  have hplain : Plain "play {{title}}" := Accepted.play.plain
  have hrun : (Recognizer.compile "music" "play {{title}}").toOption.any
      (·.isMatch "so PLAY a song vol=1") := by decide +kernel
  obtain ⟨recognizer, hcompile⟩ :
      ∃ recognizer, Recognizer.compile "music" "play {{title}}" = .ok recognizer :=
    Accepted.play.exists_recognizer
  rw [hcompile] at hrun
  have hmatch : recognizer.isMatch "so PLAY a song vol=1" := hrun
  obtain ⟨hcut, hextract⟩ := isMatch_iff_cut hplain hcompile "so PLAY a song vol=1"
  exact ⟨recognizer, hcompile, hplain, hmatch, hcut.mp hmatch, hextract.mpr hmatch⟩

end Switchboard.Alias.Format
