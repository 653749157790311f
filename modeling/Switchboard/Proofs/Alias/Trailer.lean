import Mathlib.Data.String.Basic
import Switchboard.Proofs.Alias.Recognition
import Switchboard.Proofs.Text.Pieces

/-!
# Pairs in a trailer

A trailer that is written as blanks and pairs is read back as the map of its pairs, in the
order of the keys, where the last value of a key counts. `IsMapOf` says what it is for a list
of entries to be such a map; one insertion updates the map (`IsMapOf.insertSorted`), and a
whole trailer follows from it entry by entry.

## Main results

* `Pair.isPair_chars`, `isTrailer_written`: what is written has the form of a trailer.
* `not_isTrailer_append`: text without blanks and equals signs does not begin a trailer.
* `isMapOf_ofTrailer`: a written trailer is read as the map of its pairs.
-/

namespace Switchboard.Alias

open Text (isBlank)
open Unicode.Case (foldCode isAlone)

namespace Format

/-! ### Characters of words -/

/-- A word character without case is one of the ASCII ones. -/
theorem IsWordChar.isAscii {c : Char} (h : IsWordChar c) (hc : isAlone c.toNat) :
    IsAsciiWordChar c := by
  obtain ⟨d, hd, hfold⟩ := h
  have heq := Char.toNat_inj.mp (Unicode.Case.eq_of_foldCode_eq hc hfold.symm)
  rwa [← heq]

/-- Words hold no white space. -/
theorem IsWordChar.not_isBlank {c : Char} (h : IsWordChar c) : ¬ isBlank c := by
  intro hblank
  have hascii := has_asciiWordSet_iff.mpr (h.isAscii (Text.isAlone_of_isBlank hblank))
  have hspace : ∀ n < 123, asciiWordSet.contains n → ¬ Unicode.Property.whiteSpace.contains n := by
    decide
  refine hspace c.toNat ?_ hascii hblank
  simp only [Unicode.CharSet.has, asciiWordSet, Unicode.CharSet.contains, Unicode.CharSet.empty,
    List.any_nil, Bool.or_false, Bool.or_eq_true, Bool.and_eq_true, decide_eq_true_eq] at hascii
  omega

/-- Words hold no equals sign. -/
theorem IsWordChar.ne_equals {c : Char} (h : IsWordChar c) : c ≠ '=' := by
  rintro rfl
  exact absurd (h.isAscii (by decide)) (by decide)

/-- Blanks in front of a text that does not begin with one. -/
theorem eq_nil_of_isBlank {gap after text : List Char} {c : Char} (hgap : ∀ b ∈ gap, isBlank b)
    (hc : ¬ isBlank c) (heq : c :: text = gap ++ after) : gap = [] := by
  cases gap with
  | nil => rfl
  | cons b gap =>
      obtain ⟨rfl, -⟩ := List.cons.inj heq
      exact absurd (hgap c List.mem_cons_self) hc

/-- Text without blanks and equals signs does not begin a trailer, unless the trailer begins behind it.
The trailer would have to begin with a pair, and this pair not with a blank. Either its key reaches
beyond the text, across what follows it, or its equals sign stands in the text or right behind it. -/
theorem not_isTrailer_append {front rest : List Char} (hne : front ≠ [])
    (hblank : ∀ c ∈ front, ¬ isBlank c) (hequals : '=' ∉ front)
    (hrest : ∀ c ∈ rest.head?, isBlank c) : ¬ IsTrailer (front ++ rest) := by
  rintro ⟨gap, pairs, heq, hgap, hpairs⟩
  obtain ⟨c, front', rfl⟩ := List.exists_cons_of_ne_nil hne
  have hc : ¬ isBlank c := hblank c List.mem_cons_self
  obtain rfl : gap = [] := eq_nil_of_isBlank hgap hc heq
  cases pairs with
  | nil => exact absurd heq (by simp)
  | cons pair pairs =>
      obtain ⟨gap, key, value, rfl, -, hgap, ⟨-, hkey⟩, -⟩ := hpairs _ List.mem_cons_self
      rw [List.nil_append, List.flatten_cons, List.append_assoc, List.append_assoc,
        List.cons_append] at heq
      obtain rfl : gap = [] := eq_nil_of_isBlank hgap hc heq
      rw [List.nil_append, List.cons_append, ← List.cons_append] at heq
      rcases List.append_eq_append_iff.mp heq with ⟨more, hmore, hrest'⟩ | ⟨more, hmore, hrest'⟩
      · cases more with
        | nil =>
            have := hrest '=' (by rw [hrest']; rfl)
            exact absurd this (by decide)
        | cons d more =>
            have hd := hrest d (by rw [hrest']; rfl)
            exact (hkey d (by rw [hmore]; simp)).not_isBlank hd
      · cases more with
        | nil =>
            rw [List.nil_append] at hrest'
            have := hrest '=' (by rw [← hrest']; rfl)
            exact absurd this (by decide)
        | cons d more =>
            obtain ⟨rfl, -⟩ := List.cons.inj hrest'
            exact hequals (by rw [hmore]; simp)

end Format

/-! ### Pairs as they are written -/

/-- A key in front of an equals sign is read back, whatever the value is. -/
theorem pair?_eq_some {key : List Char} (hkey : Format.IsWord key) (value : List Char) :
    Parameters.pair? (key ++ '=' :: value) = some (String.ofList key, String.ofList value) := by
  have hequals : '=' ∉ key := fun hmem => (hkey.2 '=' hmem).ne_equals rfl
  rw [Parameters.pair?, Text.Split.once_append_cons hequals]
  rfl

/-- A pair behind a blank. -/
structure Pair where
  separator : Char
  key : List Char
  value : List Char
  isBlank_separator : isBlank separator
  isWord_key : Format.IsWord key
  isWord_value : Format.IsWord value

namespace Pair

/-- The word that a pair is written as. -/
def word (pair : Pair) : List Char := pair.key ++ '=' :: pair.value

/-- A pair as it is written. -/
def chars (pair : Pair) : List Char := pair.separator :: pair.word

/-- The key and the value of a pair. -/
def entry (pair : Pair) : String × String := (String.ofList pair.key, String.ofList pair.value)

/-- A pair as it is written is a pair. -/
theorem isPair_chars (pair : Pair) : Format.IsPair pair.chars :=
  ⟨[pair.separator], pair.key, pair.value, by simp [chars, word], Nat.le_refl 1,
    by simpa using pair.isBlank_separator, pair.isWord_key, pair.isWord_value⟩

/-- A pair has a word, because of its equals sign at least. -/
theorem word_ne_nil (pair : Pair) : pair.word ≠ [] := by simp [word]

/-- The word of a pair holds no white space. -/
theorem not_isBlank_of_mem_word (pair : Pair) : ∀ c ∈ pair.word, ¬ isBlank c := by
  intro c hc
  rw [word, List.mem_append, List.mem_cons] at hc
  rcases hc with hc | rfl | hc
  · exact (pair.isWord_key.2 c hc).not_isBlank
  · decide
  · exact (pair.isWord_value.2 c hc).not_isBlank

/-- A pair is read back from its word. -/
theorem pair?_word (pair : Pair) : Parameters.pair? pair.word = some pair.entry :=
  pair?_eq_some pair.isWord_key pair.value

end Pair

/-- Pairs as they are written. -/
def Pair.allChars (pairs : List Pair) : List Char := pairs.flatMap Pair.chars

/-- Behind a word there is a blank or the end of the text. -/
theorem Pair.isBlank_head_allChars (pairs : List Pair) :
    ∀ c ∈ (allChars pairs).head?, isBlank c := by
  intro c hc
  cases pairs with
  | nil => exact absurd hc (by simp [allChars])
  | cons pair pairs =>
      obtain rfl : pair.separator = c := by simpa [allChars, chars] using hc
      exact pair.isBlank_separator

/-- A written trailer is empty or begins with white space. -/
theorem isBlank_head_written {gap : List Char} (hgap : ∀ c ∈ gap, isBlank c) (pairs : List Pair) :
    ∀ c ∈ (gap ++ Pair.allChars pairs).head?, isBlank c := by
  cases gap with
  | nil => exact Pair.isBlank_head_allChars pairs
  | cons b gap =>
      intro c hc
      obtain rfl : b = c := by simpa using hc
      exact hgap b List.mem_cons_self

/-- **The words** of some written pairs are those of the pairs. -/
theorem Pair.words_allChars (pairs : List Pair) :
    Text.Blank.words (allChars pairs) = pairs.map Pair.word := by
  induction pairs with
  | nil => rfl
  | cons pair pairs ih =>
      have hsplit : allChars (pair :: pairs) = [pair.separator] ++ (pair.word ++ allChars pairs) :=
        rfl
      rw [hsplit, Text.Blank.words_gap_append (by simpa using pair.isBlank_separator),
        Text.Blank.words_word_append pair.word_ne_nil pair.not_isBlank_of_mem_word
          (isBlank_head_allChars pairs), ih, List.map_cons]

/-- What is written as blanks and pairs has the form of a trailer. -/
theorem isTrailer_written {gap : List Char} (hgap : ∀ c ∈ gap, isBlank c) (pairs : List Pair) :
    Format.IsTrailer (gap ++ Pair.allChars pairs) := by
  refine ⟨gap, pairs.map Pair.chars, by rw [Pair.allChars, List.flatMap_def], hgap, ?_⟩
  intro cs hcs
  obtain ⟨pair, -, rfl⟩ := List.mem_map.mp hcs
  exact pair.isPair_chars

/-! ### Maps in the order of their keys -/

/-- Entries in the order of their keys, one for each key that has a value. -/
structure IsMapOf (entries : List (String × String)) (value? : String → Option String) :
    Prop where
  sorted : entries.Pairwise (·.1 < ·.1)
  mem_iff : ∀ key value, (key, value) ∈ entries ↔ value? key = some value

/-- The last value of a key. -/
def lastValue? (entries : List (String × String)) (key : String) : Option String :=
  (entries.reverse.find? (·.1 == key)).map Prod.snd

/-- The last value of a key, entry by entry. -/
theorem lastValue?_cons (entry : String × String) (entries : List (String × String))
    (key : String) :
    lastValue? (entry :: entries) key =
      (lastValue? entries key).or (if entry.1 = key then some entry.2 else none) := by
  rw [lastValue?, lastValue?, List.reverse_cons, List.find?_append, Option.map_or]
  congr 1
  by_cases h : entry.1 = key <;> simp [h]

/-- An entry that comes in takes the place of the one with its key. -/
theorem mem_insertSorted {entries : List (String × String)}
    (hsorted : entries.Pairwise (·.1 < ·.1)) (key value : String) (entry : String × String) :
    entry ∈ Parameters.insertSorted key value entries ↔
      entry = (key, value) ∨ entry.1 ≠ key ∧ entry ∈ entries := by
  induction entries with
  | nil => simp [Parameters.insertSorted]
  | cons first rest ih =>
      obtain ⟨k, v⟩ := first
      obtain ⟨hfirst, hrest⟩ := List.pairwise_cons.mp hsorted
      rw [Parameters.insertSorted]
      split
      · next heq =>
          subst heq
          have hother : ∀ other ∈ rest, other.1 ≠ key := fun other h => (hfirst other h).ne'
          grind
      · next hne =>
          split
          · next hlt =>
              have hother : ∀ other ∈ rest, other.1 ≠ key :=
                fun other h => (hlt.trans (hfirst other h)).ne'
              grind
          · next hge =>
              have hih := ih hrest
              grind

/-- Keys stay in order. -/
theorem pairwise_insertSorted {entries : List (String × String)}
    (hsorted : entries.Pairwise (·.1 < ·.1)) (key value : String) :
    (Parameters.insertSorted key value entries).Pairwise (·.1 < ·.1) := by
  induction entries with
  | nil => exact List.pairwise_singleton _ _
  | cons first rest ih =>
      obtain ⟨k, v⟩ := first
      obtain ⟨hfirst, hrest⟩ := List.pairwise_cons.mp hsorted
      rw [Parameters.insertSorted]
      split
      · next heq =>
          subst heq
          exact List.pairwise_cons.mpr ⟨hfirst, hrest⟩
      · next hne =>
          split
          · next hlt =>
              refine List.pairwise_cons.mpr ⟨fun other h => ?_, hsorted⟩
              rcases List.mem_cons.mp h with rfl | h
              · exact hlt
              · exact hlt.trans (hfirst other h)
          · next hge =>
              refine List.pairwise_cons.mpr ⟨fun other h => ?_, ih hrest⟩
              rcases (mem_insertSorted hrest key value other).mp h with rfl | ⟨-, h⟩
              · exact lt_of_le_of_ne (not_lt.mp hge) (Ne.symm hne)
              · exact hfirst other h

/-- An insertion updates the map. -/
theorem IsMapOf.insertSorted {entries : List (String × String)} {value? : String → Option String}
    (h : IsMapOf entries value?) (key value : String) :
    IsMapOf (Parameters.insertSorted key value entries)
      fun k => if key = k then some value else value? k where
  sorted := pairwise_insertSorted h.sorted key value
  mem_iff := by
    intro k v
    rw [mem_insertSorted h.sorted, h.mem_iff, Prod.mk.injEq]
    by_cases hk : key = k
    · simp [hk, eq_comm]
    · simp [hk, Ne.symm hk]

/-- Entries that are inserted one after the other update the map by their last values. -/
theorem IsMapOf.foldl_insertSorted {acc : List (String × String)}
    {value? : String → Option String} (h : IsMapOf acc value?) (entries : List (String × String)) :
    IsMapOf (entries.foldl (fun acc (key, value) => Parameters.insertSorted key value acc) acc)
      fun k => (lastValue? entries k).or (value? k) := by
  induction entries generalizing acc value? with
  | nil => exact h
  | cons entry entries ih =>
      have hrest := ih (h.insertSorted entry.1 entry.2)
      have hvalue : ∀ k, (lastValue? (entry :: entries) k).or (value? k) =
          (lastValue? entries k).or (if entry.1 = k then some entry.2 else value? k) := by
        intro k
        rw [lastValue?_cons, Option.or_assoc]
        congr 1
        split <;> rfl
      simpa only [hvalue, List.foldl_cons] using hrest

/-- A last value is one of the values. -/
theorem mem_of_lastValue?_eq_some {entries : List (String × String)} {key value : String}
    (h : lastValue? entries key = some value) : (key, value) ∈ entries := by
  obtain ⟨⟨k, v⟩, hfind, rfl⟩ := Option.map_eq_some_iff.mp h
  obtain rfl : k = key := by simpa using List.find?_some hfind
  exact List.mem_reverse.mp (List.mem_of_find?_eq_some hfind)

/-- What is read from a trailer is the map of the pairs in its words. -/
theorem isMapOf_ofTrailer_words (trailer : List Char) :
    IsMapOf (Parameters.ofTrailer trailer)
      (lastValue? ((Text.Blank.words trailer).filterMap Parameters.pair?)) := by
  have hempty : IsMapOf [] fun _ => none := ⟨.nil, by simp⟩
  rw [Parameters.ofTrailer]
  simpa only [Option.or_none] using hempty.foldl_insertSorted _

/-- **Trailers.** What is written as blanks and pairs is read as the map of the pairs. -/
theorem isMapOf_ofTrailer {gap : List Char} (hgap : ∀ c ∈ gap, isBlank c) (pairs : List Pair) :
    IsMapOf (Parameters.ofTrailer (gap ++ Pair.allChars pairs))
      (lastValue? (pairs.map Pair.entry)) := by
  have hwords : (Text.Blank.words (gap ++ Pair.allChars pairs)).filterMap Parameters.pair? =
      pairs.map Pair.entry := by
    rw [Text.Blank.words_gap_append hgap, Pair.words_allChars, List.filterMap_map]
    induction pairs with
    | nil => rfl
    | cons pair pairs ih =>
        rw [List.filterMap_cons, Function.comp_apply, pair.pair?_word, ih, List.map_cons]
  rw [← hwords]
  exact isMapOf_ofTrailer_words _

end Switchboard.Alias
