import Switchboard.Proofs.Alias.Captures

/-!
# Words and groups of a trailer

A trailer is described twice. The pattern that captures it takes a row of groups `key=value`, with
any white space in front of all of them and at most one blank in front of each. The reader of its
pairs splits it at white space, and every word at the first equals sign.

The two descriptions part where a group has no blank in front of it and is not the first one. Such a
group is glued to the one before, and the word of the two has more than one equals sign: the reader
finds one pair there, with a value that reaches up to the end of the word. So the reader finds
exactly the groups of the pattern if none of them is glued, and loses one pair for each that is.

## Main results

* `Group.words_allChars`: the words of a trailer.
* `Group.length_words_add`: how many of the groups are lost.
* `extra_of_groups`: the pairs of a command, and when they are the groups of the pattern.
-/

namespace Switchboard.Alias

open Text (isBlank)

/-- A key and a value as the pattern of a trailer takes them: behind a blank, or right behind what
stands before. -/
structure Group where
  separator : Option Char
  key : List Char
  value : List Char
  isBlank_separator : ∀ c ∈ separator, isBlank c
  isWord_key : Format.IsWord key
  isWord_value : Format.IsWord value

namespace Group

/-- The pair that a group stands for, behind a blank in any case. -/
def pair (group : Group) : Pair where
  separator := group.separator.getD ' '
  key := group.key
  value := group.value
  isBlank_separator := by
    cases h : group.separator with
    | none => decide
    | some c => exact group.isBlank_separator c h
  isWord_key := group.isWord_key
  isWord_value := group.isWord_value

/-- The word that a group is written as. -/
def word (group : Group) : List Char := group.pair.word

/-- The key and the value of a group. -/
def entry (group : Group) : String × String := group.pair.entry

/-- A group as it is written. -/
def chars (group : Group) : List Char := group.separator.toList ++ group.word

/-- Groups as they are written. -/
def allChars (groups : List Group) : List Char := groups.flatMap chars

/-- A group without a blank in front of it. -/
def Glued (group : Group) : Prop := group.separator = none

instance : DecidablePred Glued := fun group =>
  match h : group.separator with
  | none => .isTrue h
  | some c => .isFalse (by simp [Glued, h])

/-- The glued group of a key and a value. -/
def glue (key value : List Char) (hkey : Format.IsWord key) (hvalue : Format.IsWord value) : Group :=
  ⟨none, key, value, by simp, hkey, hvalue⟩

/-- What stands between groups is white space. -/
theorem isBlank_of_mem_separator (group : Group) : ∀ c ∈ group.separator.toList, isBlank c :=
  fun c hc => group.isBlank_separator c (Option.mem_toList.mp hc)

/-- Pairs are what groups of a trailer are written as. -/
theorem isPair_iff {cs : List Char} : Format.IsPair cs ↔ ∃ group : Group, cs = group.chars := by
  constructor
  · rintro ⟨gap, key, value, rfl, hlength, hgap, hkey, hvalue⟩
    cases gap with
    | nil => exact ⟨glue key value hkey hvalue, rfl⟩
    | cons b gap =>
        obtain rfl : gap = [] := by simpa using hlength
        exact ⟨⟨some b, key, value, by simpa using hgap, hkey, hvalue⟩, rfl⟩
  · rintro ⟨group, rfl⟩
    refine ⟨group.separator.toList, group.key, group.value, (List.append_assoc _ _ _).symm, ?_,
      group.isBlank_of_mem_separator, group.isWord_key, group.isWord_value⟩
    cases group.separator <;> simp

/-- **The pattern of a trailer** takes blanks and groups. -/
theorem isTrailer_iff {cs : List Char} :
    Format.IsTrailer cs ↔
      ∃ gap groups, (∀ c ∈ gap, isBlank c) ∧ cs = gap ++ allChars groups := by
  constructor
  · rintro ⟨gap, pairs, rfl, hgap, hpairs⟩
    refine ⟨gap, ?_⟩
    induction pairs with
    | nil => exact ⟨[], hgap, rfl⟩
    | cons pair pairs ih =>
        obtain ⟨hpair, hpairs⟩ := List.forall_mem_cons.mp hpairs
        obtain ⟨groups, -, heq⟩ := ih hpairs
        obtain ⟨group, rfl⟩ := isPair_iff.mp hpair
        refine ⟨group :: groups, hgap, ?_⟩
        rw [List.flatten_cons, List.append_cancel_left heq]
        rfl
  · rintro ⟨gap, groups, hgap, rfl⟩
    refine ⟨gap, groups.map chars, by rw [allChars, List.flatMap_def], hgap, ?_⟩
    intro cs hcs
    obtain ⟨group, -, rfl⟩ := List.mem_map.mp hcs
    exact isPair_iff.mpr ⟨group, rfl⟩

/-! ### The words of groups -/

/-- The words that groups are written as. The word of a group goes on with the next group when that
one is glued. -/
def words : List Group → List (List Char)
  | [] => []
  | group :: rest =>
    if ∃ next ∈ rest.head?, next.Glued then (words rest).modifyHead (group.word ++ ·)
    else group.word :: words rest

/-- A group has a word. -/
theorem word_ne_nil (group : Group) : group.word ≠ [] := group.pair.word_ne_nil

/-- The word of a group holds no white space. -/
theorem not_isBlank_of_mem_word (group : Group) : ∀ c ∈ group.word, ¬ isBlank c :=
  group.pair.not_isBlank_of_mem_word

/-- A group that is glued begins with a character of its word. -/
theorem exists_head_chars {group : Group} (hglued : group.Glued) :
    ∃ c ∈ group.chars.head?, ¬ isBlank c := by
  obtain ⟨c, word, heq⟩ := List.exists_cons_of_ne_nil group.word_ne_nil
  have hc : ¬ isBlank c := group.not_isBlank_of_mem_word c (heq ▸ List.mem_cons_self)
  exact ⟨c, by rw [chars, hglued, heq]; rfl, hc⟩

/-- A group that is not glued begins with a blank. -/
theorem isBlank_head_chars {group : Group} (hfree : ¬ group.Glued) :
    ∀ c ∈ group.chars.head?, isBlank c := by
  intro c hc
  obtain ⟨b, hb⟩ := Option.ne_none_iff_exists'.mp hfree
  obtain rfl : b = c := by simpa [chars, hb] using hc
  exact group.isBlank_separator b hb

/-- **The words of a trailer** are the words of its groups, where glued groups make up one word. -/
theorem words_allChars (groups : List Group) : Text.Blank.words (allChars groups) = words groups := by
  induction groups with
  | nil => rfl
  | cons group rest ih =>
      have hsplit : allChars (group :: rest) =
          group.separator.toList ++ (group.word ++ allChars rest) := by
        rw [allChars, List.flatMap_cons, chars, List.append_assoc]
        rfl
      rw [hsplit, Text.Blank.words_gap_append group.isBlank_of_mem_separator, words]
      split
      · next hglued =>
          obtain ⟨next, hnext, hglued⟩ := hglued
          obtain ⟨more, rfl⟩ := List.head?_eq_some_iff.mp hnext
          have hhead : ∃ c ∈ (allChars (next :: more)).head?, ¬ isBlank c := by
            obtain ⟨c, hc, hblank⟩ := exists_head_chars hglued
            exact ⟨c, by simp [allChars, Option.mem_def.mp hc], hblank⟩
          rw [Text.Blank.words_append_eq_modifyHead group.not_isBlank_of_mem_word hhead, ih]
      · next hfree =>
          have hhead : ∀ c ∈ (allChars rest).head?, isBlank c := by
            cases rest with
            | nil => simp [allChars]
            | cons next more =>
                have hnext : ¬ next.Glued := fun h => hfree ⟨next, rfl, h⟩
                have hne : next.chars ≠ [] := by simp [chars, next.word_ne_nil]
                rw [allChars, List.flatMap_cons, List.head?_append_of_ne_nil _ hne]
                exact isBlank_head_chars hnext
          rw [Text.Blank.words_word_append group.word_ne_nil group.not_isBlank_of_mem_word hhead, ih]

/-- **Glued groups are lost**: there is one word less for each of them. -/
theorem length_words_add (groups : List Group) :
    (words groups).length + groups.tail.countP (·.Glued) = groups.length := by
  induction groups with
  | nil => rfl
  | cons group rest ih =>
      cases rest with
      | nil => simp [words]
      | cons next more =>
          rw [words, List.tail_cons, List.countP_cons]
          rw [List.tail_cons] at ih
          by_cases hglued : next.Glued
          · simp [hglued] at ih ⊢
            omega
          · simp [hglued] at ih ⊢
            omega

/-- Without glued groups every group is a word. -/
theorem words_eq_map {groups : List Group} (h : ∀ group ∈ groups.tail, ¬ group.Glued) :
    words groups = groups.map word := by
  induction groups with
  | nil => rfl
  | cons group rest ih =>
      rw [List.tail_cons] at h
      have hfree : ¬ ∃ next ∈ rest.head?, next.Glued := by
        rintro ⟨next, hnext, hglued⟩
        exact h next (List.mem_of_mem_head? hnext) hglued
      rw [words, if_neg hfree, ih fun next hnext => h next (List.mem_of_mem_tail hnext),
        List.map_cons]

/-! ### Pairs in the words of groups -/

/-- What the reader may take for a value: characters of keys and values, and equals signs. -/
def IsReadValue (cs : List Char) : Prop := cs ≠ [] ∧ ∀ c ∈ cs, Format.IsWordChar c ∨ c = '='

/-- A word is a value that may be read. -/
theorem IsReadValue.of_isWord {cs : List Char} (h : Format.IsWord cs) : IsReadValue cs :=
  ⟨h.1, fun c hc => .inl (h.2 c hc)⟩

/-- A value goes on with the next group. -/
theorem IsReadValue.of_glued {value key more : List Char} (hvalue : Format.IsWord value)
    (hkey : Format.IsWord key) (hmore : IsReadValue more) :
    IsReadValue (value ++ (key ++ '=' :: more)) := by
  refine ⟨by simp, fun c hc => ?_⟩
  rw [List.mem_append, List.mem_append, List.mem_cons] at hc
  rcases hc with hc | hc | rfl | hc
  · exact .inl (hvalue.2 c hc)
  · exact .inl (hkey.2 c hc)
  · exact .inr rfl
  · exact hmore.2 c hc

/-- A word of groups is a key, an equals sign, and a value that may go on through further groups. -/
theorem exists_key_of_mem_words {groups : List Group} {word : List Char} (h : word ∈ words groups) :
    ∃ key value, word = key ++ '=' :: value ∧ Format.IsWord key ∧ IsReadValue value := by
  induction groups generalizing word with
  | nil => exact absurd h List.not_mem_nil
  | cons group rest ih =>
      rw [words] at h
      split at h
      · cases hrest : words rest with
        | nil => exact absurd (hrest ▸ h) List.not_mem_nil
        | cons first more =>
            rw [hrest, List.modifyHead_cons] at h
            rcases List.mem_cons.mp h with rfl | h
            · obtain ⟨key, value, rfl, hkey, hvalue⟩ := ih (hrest ▸ List.mem_cons_self)
              exact ⟨group.key, group.value ++ (key ++ '=' :: value),
                List.append_assoc _ ('=' :: group.value) _, group.isWord_key,
                .of_glued group.isWord_value hkey hvalue⟩
            · exact ih (hrest ▸ List.mem_cons_of_mem _ h)
      · rcases List.mem_cons.mp h with rfl | h
        · exact ⟨group.key, group.value, rfl, group.isWord_key, .of_isWord group.isWord_value⟩
        · exact ih h

end Group

/-- A pair of a command as a word. -/
def pairWord (pair : String × String) : List Char := pair.1.toList ++ '=' :: pair.2.toList

/-- A pair is read from the word that it makes up. -/
theorem eq_pairWord_of_pair? {word : List Char} {pair : String × String}
    (h : Parameters.pair? word = some pair) : word = pairWord pair := by
  obtain ⟨⟨key, value⟩, honce, rfl⟩ := Option.map_eq_some_iff.mp h
  rw [Text.Split.eq_append_of_once honce, pairWord, String.toList_ofList, String.toList_ofList]
  simp

/-- The pairs of a trailer are words of it. -/
theorem pairWord_mem_words {trailer : List Char} {pair : String × String}
    (h : pair ∈ Parameters.ofTrailer trailer) :
    pairWord pair ∈ Text.Blank.words trailer ∧ Parameters.pair? (pairWord pair) = some pair := by
  have hlast := ((isMapOf_ofTrailer_words trailer).mem_iff pair.1 pair.2).mp h
  obtain ⟨word, hword, hpair⟩ := List.mem_filterMap.mp (mem_of_lastValue?_eq_some hlast)
  obtain rfl := eq_pairWord_of_pair? hpair
  exact ⟨hword, hpair⟩

namespace Group

/-- The entry of a group gives back its word. -/
theorem pairWord_entry (group : Group) : pairWord group.entry = group.word := by
  simp [pairWord, entry, word, Pair.entry, Pair.word]

/-- Every word of groups holds a pair. -/
theorem length_filterMap_pair? (groups : List Group) :
    ((words groups).filterMap Parameters.pair?).length = (words groups).length := by
  rw [List.filterMap_length_eq_length]
  intro word hword
  obtain ⟨key, value, rfl, hkey, -⟩ := exists_key_of_mem_words hword
  rw [pair?_eq_some hkey]
  rfl

/-- **The reader and the pattern agree** exactly on the trailers without glued groups. -/
theorem filterMap_pair?_eq_map_iff {groups : List Group} :
    (words groups).filterMap Parameters.pair? = groups.map entry ↔
      ∀ group ∈ groups.tail, ¬ group.Glued := by
  constructor
  · intro h group hgroup hglued
    have hlength := congrArg List.length h
    rw [length_filterMap_pair?, List.length_map] at hlength
    have hcount := length_words_add groups
    have hpos : 0 < groups.tail.countP (·.Glued) :=
      List.countP_pos_iff.mpr ⟨group, hgroup, by simpa using hglued⟩
    omega
  · intro h
    rw [words_eq_map h, List.filterMap_map]
    clear h
    induction groups with
    | nil => rfl
    | cons group groups ih =>
        rw [List.filterMap_cons, Function.comp_apply, word, group.pair.pair?_word, ih, List.map_cons]
        rfl

end Group

namespace Format

/-! ### Pairs of commands -/

section Trailer

variable {trailer gap : List Char} {groups : List Group} (hgap : ∀ c ∈ gap, isBlank c)
  (htrailer : trailer = gap ++ Group.allChars groups)
include hgap htrailer

/-- The words of a trailer are those that its groups make up. -/
theorem words_of_groups : Text.Blank.words trailer = Group.words groups := by
  rw [htrailer, Text.Blank.words_gap_append hgap, Group.words_allChars]

/-- The keys that are read are keys of the pattern, and the values are not empty. -/
theorem isWord_key_of_mem_ofTrailer {pair : String × String}
    (hpair : pair ∈ Parameters.ofTrailer trailer) :
    IsWord pair.1.toList ∧ Group.IsReadValue pair.2.toList := by
  obtain ⟨hword, hread⟩ := pairWord_mem_words hpair
  rw [words_of_groups hgap htrailer] at hword
  obtain ⟨key, value, hsplit, hkey, hvalue⟩ := Group.exists_key_of_mem_words hword
  rw [hsplit, pair?_eq_some hkey] at hread
  obtain rfl := Option.some.inj hread
  simpa using ⟨hkey, hvalue⟩

/-- Without glued groups the last group of every key is read. -/
theorem isMapOf_ofTrailer_groups (hfree : ∀ group ∈ groups.tail, ¬ group.Glued) :
    IsMapOf (Parameters.ofTrailer trailer) (lastValue? (groups.map Group.entry)) := by
  have hmap := isMapOf_ofTrailer_words trailer
  rwa [words_of_groups hgap htrailer, Group.filterMap_pair?_eq_map_iff.mpr hfree] at hmap

/-- Without glued groups the values that are read are values of the pattern. -/
theorem isWord_value_of_mem_ofTrailer (hfree : ∀ group ∈ groups.tail, ¬ group.Glued)
    {pair : String × String} (hpair : pair ∈ Parameters.ofTrailer trailer) :
    IsWord pair.2.toList := by
  have hmap := isMapOf_ofTrailer_groups hgap htrailer hfree
  have hmem := mem_of_lastValue?_eq_some ((hmap.mem_iff pair.1 pair.2).mp hpair)
  obtain ⟨group, -, hentry⟩ := List.mem_map.mp hmem
  rw [← congrArg Prod.snd hentry]
  simpa [Group.entry, Pair.entry, Group.pair] using group.isWord_value

end Trailer

/-- A single group is read back. -/
theorem entry_mem_ofTrailer (group : Group) :
    group.entry ∈ Parameters.ofTrailer (Group.allChars [group]) := by
  have htrailer : Group.allChars [group] = [] ++ Group.allChars [group] := rfl
  have hmap := isMapOf_ofTrailer_groups (List.forall_mem_nil _) htrailer (List.forall_mem_nil _)
  exact (hmap.mem_iff group.entry.1 group.entry.2).mpr (by simp [lastValue?])

/-- One character is a word. -/
theorem isWord_singleton {c : Char} (h : IsAsciiWordChar c) : IsWord [c] :=
  isWord_of_ascii (List.cons_ne_nil c []) (List.forall_mem_singleton.mpr h)

/-- Two groups of which the second one is glued to the first one. -/
def gluedGroups : List Group :=
  [{ separator := some ' ', key := ['a'], value := ['b'],
     isBlank_separator := by simp; decide
     isWord_key := isWord_singleton (by decide)
     isWord_value := isWord_singleton (by decide) },
   .glue ['c'] ['d'] (isWord_singleton (by decide)) (isWord_singleton (by decide))]

/-- **Pairs of commands.** Let a text be recognized by a plain format.

* The keys of its pairs are keys of the pattern. The values are not empty, and hold characters of
  values and equals signs.
* However the trailer of the text is made up of groups, the reader takes exactly these groups if and
  only if none of them is glued to the one before; then the values are values of the pattern.

Some text that the format recognizes gives a pair with an equals sign in its value. -/
theorem extra_of_groups {owner format : String} {recognizer : Recognizer} (hplain : Plain format)
    (hcompile : Recognizer.compile owner format = .ok recognizer) :
    (∀ text, recognizer.isMatch text → ∃ parameters trailer,
      recognizer.extract text = some parameters ∧ recognizer.trailer? text = some trailer ∧
        (∀ pair ∈ parameters.extra, IsWord pair.1.toList ∧ Group.IsReadValue pair.2.toList) ∧
        (∃ gap groups, (∀ c ∈ gap, isBlank c) ∧ trailer = gap ++ Group.allChars groups) ∧
        ∀ gap groups, (∀ c ∈ gap, isBlank c) → trailer = gap ++ Group.allChars groups →
          ((Text.Blank.words trailer).filterMap Parameters.pair? = groups.map Group.entry ↔
            ∀ group ∈ groups.tail, ¬ group.Glued) ∧
          ((∀ group ∈ groups.tail, ¬ group.Glued) →
            IsMapOf parameters.extra (lastValue? (groups.map Group.entry)) ∧
              ∀ pair ∈ parameters.extra, IsWord pair.2.toList)) ∧
    ∃ text parameters, recognizer.isMatch text ∧ recognizer.extract text = some parameters ∧
      ∃ pair ∈ parameters.extra, '=' ∈ pair.2.toList := by
  refine ⟨fun text hmatch => ?_, ?_⟩
  · rw [← recognizer.isSome_extract] at hmatch
    obtain ⟨parameters, hextract⟩ := Option.isSome_iff_exists.mp hmatch
    obtain ⟨cut, htrailer, rfl⟩ := exists_cut_of_extract hplain hcompile hextract
    obtain ⟨gap, groups, hgap, heq⟩ := Group.isTrailer_iff.mp cut.isTrailer
    refine ⟨_, cut.trailer, hextract, htrailer,
      fun pair => isWord_key_of_mem_ofTrailer hgap heq, ⟨gap, groups, hgap, heq⟩,
      fun gap groups hgap heq => ⟨?_, fun hfree => ?_⟩⟩
    · rw [words_of_groups hgap heq]
      exact Group.filterMap_pair?_eq_map_iff
    · exact ⟨isMapOf_ofTrailer_groups hgap heq hfree,
        fun pair => isWord_value_of_mem_ofTrailer hgap heq hfree⟩
  · have htrailer : IsTrailer (Group.allChars gluedGroups) :=
      Group.isTrailer_iff.mpr ⟨[], gluedGroups, by simp, rfl⟩
    have hpair : ("a", "bc=d") ∈ Parameters.ofTrailer (Group.allChars gluedGroups) := by
      decide
    obtain ⟨bindings, hextract⟩ := extract_lettered hplain hcompile htrailer
    refine ⟨_, _, ?_, hextract, ("a", "bc=d"), hpair, by decide⟩
    rw [← recognizer.isSome_extract, hextract]
    rfl

/-- A command with a pair that is read as it was written. -/
theorem extra_of_groups_play :
    ∃ recognizer parameters, Recognizer.compile "music" "play {{title}}" = .ok recognizer ∧
      Plain "play {{title}}" ∧ recognizer.isMatch "play song vol=1" ∧
      recognizer.extract "play song vol=1" = some parameters ∧
      ∀ pair ∈ parameters.extra, IsWord pair.1.toList ∧ Group.IsReadValue pair.2.toList := by
  have hplain : Plain "play {{title}}" := Accepted.play.plain
  have hrun : (Recognizer.compile "music" "play {{title}}").toOption.any
      (·.isMatch "play song vol=1") := by decide +kernel
  obtain ⟨recognizer, hcompile⟩ :
      ∃ recognizer, Recognizer.compile "music" "play {{title}}" = .ok recognizer :=
    Accepted.play.exists_recognizer
  rw [hcompile] at hrun
  have hmatch : recognizer.isMatch "play song vol=1" := hrun
  obtain ⟨parameters, -, hextract, -, hextra, -⟩ :=
    (extra_of_groups hplain hcompile).1 "play song vol=1" hmatch
  exact ⟨recognizer, parameters, hcompile, hplain, hmatch, hextract, hextra⟩

/-- Of two pairs without a blank between them the second one is lost in the value of the first one,
which is then no value of the pattern. -/
theorem extra_glued_pairs :
    Plain "play {{title}}" ∧
      ((Recognizer.compile "music" "play {{title}}").toOption.bind
        (·.extract "play song a=bc=d")) = some ⟨[("title", "song")], [("a", "bc=d")]⟩ ∧
      ¬ "bc=d".toList.all wordSet.has :=
  ⟨Accepted.play.plain, by decide +kernel⟩

end Format

end Switchboard.Alias
