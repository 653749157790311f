import Switchboard.Proofs.Alias.LetterCase
import Switchboard.Proofs.Alias.TrailerWords

/-!
# Where trailers begin

Pairs are meant to be words at the end of a command. The pattern of a format does not say so: the
blank in front of a pair is optional, and a trailer may begin right behind what the format takes.
So the two parts of a command, in front of its trailer and from there on, may divide a word of it.
Then the first pair of the trailer is the end of a longer word, and every other pair is a word.

Only the format can prevent this. Where it ends with white space, a command cannot be divided within
a word. Where it ends with anything else, some command is: there is a text that ends with a value or
a literal and a long key right behind.

## Main results

* `pairs_are_words_iff`: for which formats the pairs of commands are words.
-/

namespace Switchboard.Alias

open Text (isBlank)
open Text.Blank (Divides)

/-- A format that is accepted is not empty. -/
theorem Recognizer.toList_ne_nil_of_compile {owner format : String} {recognizer : Recognizer}
    (h : compile owner format = .ok recognizer) : format.toList ≠ [] := by
  rw [ne_eq, String.toList_eq_nil_iff]
  rintro rfl
  exact absurd h (by simp [compile])

/-- **Pairs behind a part of a text** are words of the text, or one of them is the end of a word. -/
theorem pairWord_mem_words_append {text front trailer : List Char} (htext : text = front ++ trailer)
    {pair : String × String} (hpair : pair ∈ Parameters.ofTrailer trailer) :
    pairWord pair ∈ Text.Blank.words text ∨
      Divides front trailer ∧ (Text.Blank.words trailer).head? = some (pairWord pair) ∧
        ∃ piece, piece ≠ [] ∧ piece <:+ front ∧
          piece ++ pairWord pair ∈ Text.Blank.words text := by
  obtain ⟨hword, -⟩ := pairWord_mem_words hpair
  rw [htext]
  by_cases hdivides : Divides front trailer
  · obtain ⟨rest, piece, rfl, hne, -, hwords⟩ := Text.Blank.words_append_of_divides hdivides
    obtain ⟨first, more, htrailer⟩ := List.exists_cons_of_ne_nil (List.ne_nil_of_mem hword)
    rw [htrailer] at hword hwords ⊢
    rw [hwords]
    rcases List.mem_cons.mp hword with heq | hmore
    · exact .inr ⟨hdivides, by rw [heq]; rfl, piece, hne, List.suffix_append rest piece,
        by simp [heq]⟩
    · exact .inl (List.mem_append_right _ (List.mem_cons_of_mem _ hmore))
  · rw [Text.Blank.words_append_of_not_divides hdivides]
    exact .inl (List.mem_append_right _ hword)

namespace Format

/-! ### Formats that end with white space -/

/-- A format of no text takes no text. -/
theorem Fits.weave_eq_nil {segments : List Segment} {written values : List (List Char)}
    (h : Fits segments written values) (hempty : segments.flatMap Segment.chars = []) :
    weave written values = [] := by
  induction segments generalizing written values with
  | nil =>
      obtain rfl := List.length_eq_zero_iff.mp h.length_values
      obtain ⟨m, more, hm, -, rfl⟩ := List.forall₂_cons_right_iff.mp h.sameFold
      exact sameFold_nil_right.mp hm
  | cons segment segments ih =>
      obtain ⟨hsegment, hsegments⟩ := List.append_eq_nil_iff.mp hempty
      cases segment with
      | literal text =>
          obtain ⟨m, first, more, rfl, hm, hfits⟩ := h.of_literal
          obtain rfl : text = [] := hsegment
          obtain rfl := sameFold_nil_right.mp hm
          exact ih hfits hsegments
      | placeholder inner => exact absurd hsegment (List.cons_ne_nil _ _)

/-- Text that agrees up to case ends with the same character without case. -/
theorem SameFold.getLast?_eq {xs ys : List Char} (h : SameFold xs ys) {b : Char}
    (hb : Unicode.Case.isAlone b.toNat) (hlast : ys.getLast? = some b) : xs.getLast? = some b := by
  have hfold := congrArg List.getLast? h
  rw [List.getLast?_map, List.getLast?_map, hlast] at hfold
  obtain ⟨c, hc, hsame⟩ := Option.map_eq_some_iff.mp hfold
  rwa [Char.toNat_inj.mp (Unicode.Case.eq_of_foldCode_eq hb hsame)] at hc

/-- What a format takes that ends with white space ends with it too. Its last segment is a literal then,
since the closing brace of a placeholder is no white space. -/
theorem Fits.getLast?_weave {segments : List Segment} {written values : List (List Char)}
    (h : Fits segments written values) {b : Char} (hb : isBlank b)
    (hlast : (segments.flatMap Segment.chars).getLast? = some b) :
    (weave written values).getLast? = some b := by
  induction segments generalizing written values with
  | nil => exact absurd hlast (by simp)
  | cons segment segments ih =>
      rw [List.flatMap_cons, List.getLast?_append] at hlast
      cases segment with
      | literal text =>
          obtain ⟨m, first, more, rfl, hm, hfits⟩ := h.of_literal
          rw [weave_append_cons, List.getLast?_append]
          cases hrest : (segments.flatMap Segment.chars).getLast? with
          | none =>
              rw [hrest, Option.none_or] at hlast
              rw [hfits.weave_eq_nil (List.getLast?_eq_none_iff.mp hrest), List.getLast?_nil,
                Option.none_or]
              exact hm.getLast?_eq (Text.isAlone_of_isBlank hb) hlast
          | some c =>
              rw [hrest, Option.some_or] at hlast
              rw [ih hfits (hrest.trans hlast), Option.some_or]
      | placeholder inner =>
          obtain ⟨written, value, values, rfl, rfl, -, hfits⟩ := h.of_placeholder
          cases hrest : (segments.flatMap Segment.chars).getLast? with
          | none =>
              rw [hrest, Option.none_or, Segment.chars, List.getLast?_append] at hlast
              obtain rfl : '}' = b := Option.some.inj hlast
              exact absurd hb (by decide)
          | some c =>
              rw [hrest, Option.some_or] at hlast
              rw [weave, List.getLast?_append, ih hfits (hrest.trans hlast), Option.some_or]

/-! ### Formats that end with anything else -/

/-- A literal stays as it is. -/
theorem lettered_literal (text : List Char) (segments : List Segment) :
    lettered (.literal text :: segments) = text ++ lettered segments :=
  weave_literals_literal text segments _

/-- A placeholder gets one letter. -/
theorem lettered_placeholder (inner : List Char) (segments : List Segment) :
    lettered (.placeholder inner :: segments) = 'x' :: lettered segments := rfl

/-- A letter for each value fits into a format. -/
theorem fits_lettered (segments : List Segment) :
    Fits segments (literals segments) ((List.replicate (names segments).length 'x').map ([·])) where
  sameFold := List.forall₂_same.mpr fun text _ => SameFold.refl text
  length_values := by simp
  line := by
    intro value hvalue
    obtain ⟨c, hc, rfl⟩ := List.mem_map.mp hvalue
    rw [List.eq_of_mem_replicate hc]
    decide

/-- With letters for the placeholders, a format that does not end with white space does not end with
white space. -/
theorem exists_getLast?_lettered {segments : List Segment} {c : Char} (hc : ¬ isBlank c)
    (hlast : (segments.flatMap Segment.chars).getLast? = some c) :
    ∃ d ∈ (lettered segments).getLast?, ¬ isBlank d := by
  induction segments with
  | nil => exact absurd hlast (by simp)
  | cons segment segments ih =>
      rw [List.flatMap_cons, List.getLast?_append] at hlast
      cases hrest : (segments.flatMap Segment.chars).getLast? with
      | none =>
          have hnil : lettered segments = [] :=
            (fits_lettered segments).weave_eq_nil (List.getLast?_eq_none_iff.mp hrest)
          cases segment with
          | literal text =>
              rw [hrest, Option.none_or] at hlast
              rw [lettered_literal, hnil, List.append_nil]
              exact ⟨c, hlast, hc⟩
          | placeholder inner =>
              rw [lettered_placeholder, hnil]
              exact ⟨'x', rfl, by decide⟩
      | some d =>
          rw [hrest, Option.some_or] at hlast
          obtain ⟨e, he, hblank⟩ := ih (hrest.trans hlast)
          refine ⟨e, ?_, hblank⟩
          cases segment with
          | literal text =>
              rw [lettered_literal, List.getLast?_append, Option.mem_def.mp he, Option.some_or]
              rfl
          | placeholder inner =>
              rw [lettered_placeholder, List.getLast?_cons, Option.mem_def.mp he]
              rfl

/-- A row of letters is a word. -/
theorem isWord_replicate (n : Nat) : IsWord (List.replicate (n + 1) 'a') := by
  refine isWord_of_ascii (by simp) fun c hc => ?_
  rw [List.eq_of_mem_replicate hc]
  decide

/-- A pair with a key of so many letters, without a blank in front of it. -/
def longGroup (n : Nat) : Group :=
  .glue (List.replicate (n + 1) 'a') (List.replicate 1 'a') (isWord_replicate n) (isWord_replicate 0)

/-- A pair whose word is longer than the part of the text in front of it is no word of the text,
where this part ends with a character of a word. -/
theorem longGroup_word_not_mem {front : List Char} (hfront : ∃ c ∈ front.getLast?, ¬ isBlank c) :
    (longGroup front.length).word ∉
      Text.Blank.words (front ++ Group.allChars [longGroup front.length]) := by
  have hglued : (longGroup front.length).Glued := rfl
  obtain ⟨c, hc, hblank⟩ := Group.exists_head_chars hglued
  have hdivides : Divides front (Group.allChars [longGroup front.length]) :=
    ⟨hfront, c, by simpa [Group.allChars] using hc, hblank⟩
  obtain ⟨rest, piece, hsplit, hne, -, hwords⟩ := Text.Blank.words_append_of_divides hdivides
  rw [hwords, Group.words_allChars]
  intro hmem
  rcases List.mem_append.mp hmem with hrest | hlast
  · have hle := Text.Blank.length_le_of_mem_words hrest
    have hlength := congrArg List.length hsplit
    simp [longGroup, Group.glue, Group.word, Group.pair, Pair.word] at hle hlength
    omega
  · have heq : (longGroup front.length).word = piece ++ (longGroup front.length).word := by
      simpa [Group.words] using hlast
    exact hne (List.self_eq_append_left.mp heq)

/-- **Pairs and words.** Let a text be recognized by a plain format. Then a trailer is found, and
every pair of it is a word of the text, unless the trailer begins within a word; then its first pair
is the end of a longer word.

The pairs of all recognized texts are words exactly if the format ends with white space. If it does
not, some letters for its values and a pair with a long key behind them make up a text with a pair that
is no word. -/
theorem pairs_are_words_iff {owner format : String} {recognizer : Recognizer}
    (hplain : Plain format) (hcompile : Recognizer.compile owner format = .ok recognizer) :
    (∀ text, recognizer.isMatch text → ∃ parameters front trailer,
      recognizer.extract text = some parameters ∧ recognizer.trailer? text = some trailer ∧
        text.toList = front ++ trailer ∧
        ∀ pair ∈ parameters.extra,
          pairWord pair ∈ Text.Blank.words text.toList ∨
            Divides front trailer ∧ (Text.Blank.words trailer).head? = some (pairWord pair) ∧
              ∃ piece, piece ≠ [] ∧ piece <:+ front ∧
                piece ++ pairWord pair ∈ Text.Blank.words text.toList) ∧
    ((∀ text parameters, recognizer.extract text = some parameters →
        ∀ pair ∈ parameters.extra, pairWord pair ∈ Text.Blank.words text.toList) ↔
      ∃ c ∈ format.toList.getLast?, isBlank c) := by
  refine ⟨fun text hmatch => ?_, fun h => ?_, ?_⟩
  · rw [← recognizer.isSome_extract] at hmatch
    obtain ⟨parameters, hextract⟩ := Option.isSome_iff_exists.mp hmatch
    obtain ⟨cut, htrailer, rfl⟩ := exists_cut_of_extract hplain hcompile hextract
    exact ⟨_, _, cut.trailer, hextract, htrailer, cut.text_eq,
      fun pair hpair => pairWord_mem_words_append cut.text_eq hpair⟩
  · obtain ⟨c, hlast⟩ : ∃ c, format.toList.getLast? = some c :=
      ⟨_, List.getLast?_eq_some_getLast (Recognizer.toList_ne_nil_of_compile hcompile)⟩
    refine ⟨c, hlast, by_contra fun hc => ?_⟩
    rw [← flatMap_chars_split format.toList] at hlast
    obtain ⟨front, hfront⟩ : ∃ front, front = lettered (split format.toList) := ⟨_, rfl⟩
    have hend := exists_getLast?_lettered hc hlast
    have htrailer : IsTrailer (Group.allChars [longGroup front.length]) :=
      Group.isTrailer_iff.mpr ⟨[], [longGroup front.length], by simp, rfl⟩
    obtain ⟨bindings, hextract⟩ := extract_lettered hplain hcompile htrailer
    rw [← hfront] at hend hextract
    have hword := h _ _ hextract _ (entry_mem_ofTrailer (longGroup front.length))
    rw [String.toList_ofList, Group.pairWord_entry] at hword
    exact longGroup_word_not_mem hend hword
  · rintro ⟨b, hlast, hb⟩ text parameters hextract pair hpair
    obtain ⟨cut, -, rfl⟩ := exists_cut_of_extract hplain hcompile hextract
    rw [← flatMap_chars_split format.toList] at hlast
    have hweave := cut.fits.getLast?_weave hb hlast
    refine (pairWord_mem_words_append cut.text_eq hpair).resolve_right fun hdivided => ?_
    obtain ⟨⟨⟨c, hc, hblank⟩, -⟩, -⟩ := hdivided
    rw [List.getLast?_append, hweave, Option.some_or] at hc
    obtain rfl := Option.some.inj hc
    exact hblank hb

/-- The format of a command with one value and a space behind it. -/
def Accepted.playBlank : Accepted :=
  ⟨"music", "play {{title}} ", by decide +kernel, by decide +kernel⟩

/-- A format that ends with a space, so that the pairs of all its texts are words of them. -/
theorem pairs_are_words_iff_play :
    ∃ recognizer, Recognizer.compile "music" "play {{title}} " = .ok recognizer ∧
      Plain "play {{title}} " ∧
      recognizer.extract "play song vol=1" = some ⟨[("title", "song")], [("vol", "1")]⟩ ∧
      ∀ text parameters, recognizer.extract text = some parameters →
        ∀ pair ∈ parameters.extra, pairWord pair ∈ Text.Blank.words text.toList := by
  have hplain : Plain "play {{title}} " := Accepted.playBlank.plain
  have hrun : (Recognizer.compile "music" "play {{title}} ").toOption.bind
      (·.extract "play song vol=1") = some ⟨[("title", "song")], [("vol", "1")]⟩ := by
    decide +kernel
  obtain ⟨recognizer, hcompile⟩ :
      ∃ recognizer, Recognizer.compile "music" "play {{title}} " = .ok recognizer :=
    Accepted.playBlank.exists_recognizer
  rw [hcompile] at hrun
  have hblank : ∃ c ∈ "play {{title}} ".toList.getLast?, isBlank c :=
    ⟨' ', rfl, by decide⟩
  exact ⟨recognizer, hcompile, hplain, hrun, (pairs_are_words_iff hplain hcompile).2.mpr hblank⟩

/-- Without a blank at the end of the format, a pair may be the end of a word. -/
theorem extra_divided_word :
    Plain "play {{title}}" ∧
      ((Recognizer.compile "music" "play {{title}}").toOption.bind
        (·.extract "play xa=b")) = some ⟨[("title", "x")], [("a", "b")]⟩ ∧
      pairWord ("a", "b") ∉ Text.Blank.words "play xa=b".toList :=
  ⟨Accepted.play.plain, by decide +kernel⟩

end Format

end Switchboard.Alias
