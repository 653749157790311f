import Mathlib.Data.List.TakeWhile
import Mathlib.Tactic
import Switchboard.Text.Blank
import Switchboard.Text.Split

/-!
# Pieces of a text

What splitting gives on a text that is known by its pieces: the words of a text that is put
together from words and white space, and the two sides of a separator that does not occur
before.

## Main results

* `Blank.trim_append`: a word with white space around it.
* `Blank.words_word_append`: a word in front of white space, or of the end of the text.
* `Blank.mem_words_iff`: which pieces of a text are its words.
* `Blank.words_append_of_not_divides`, `Blank.words_append_of_divides`: the words of two parts.
* `Split.once_append_cons`: the two sides of an item at its first occurrence.
* `Split.once_eq_some_iff`: splitting is at the first occurrence of the separator.
-/

namespace Switchboard.Text

namespace Blank

/-- **Trimming** drops the white space around a word. -/
theorem trim_append {before word behind : List Char} (hbefore : ∀ c ∈ before, isBlank c)
    (hword : ∀ c ∈ word, ¬ isBlank c) (hbehind : ∀ c ∈ behind, isBlank c) :
    trim (before ++ word ++ behind) = word := by
  have dropWhile_word {cs rest : List Char} (hcs : ∀ c ∈ cs, ¬ isBlank c) (hne : cs ≠ []) :
      (cs ++ rest).dropWhile isBlank = cs ++ rest := by
    obtain ⟨c, cs, rfl⟩ := List.exists_cons_of_ne_nil hne
    exact List.dropWhile_cons_of_neg (hcs c List.mem_cons_self)
  rw [trim, trimStart, trimEnd, List.append_assoc, List.dropWhile_append_of_pos hbefore]
  by_cases hne : word = []
  · subst hne
    rw [List.nil_append, ← List.append_nil behind, List.dropWhile_append_of_pos hbehind]
    rfl
  · rw [dropWhile_word hword hne, List.reverse_append,
      List.dropWhile_append_of_pos (by simpa using hbehind), ← List.append_nil word.reverse,
      dropWhile_word (by simpa using hword) (by simpa using hne), List.append_nil,
      List.reverse_reverse]

/-- A text is what is left of it by trimming, with white space around. -/
theorem exists_eq_append_trim (cs : List Char) :
    ∃ before behind, cs = before ++ trim cs ++ behind ∧ (∀ c ∈ before, isBlank c) ∧
      ∀ c ∈ behind, isBlank c := by
  refine ⟨cs.takeWhile isBlank, ((trimStart cs).reverse.takeWhile isBlank).reverse, ?_,
    fun c => List.mem_takeWhile_imp, fun c hc => List.mem_takeWhile_imp (List.mem_reverse.mp hc)⟩
  rw [trim, trimEnd, List.append_assoc, ← List.reverse_append, List.takeWhile_append_dropWhile,
    List.reverse_reverse]
  exact List.takeWhile_append_dropWhile.symm

/-- Nothing is left of white space only. -/
theorem trim_eq_nil_iff {cs : List Char} : trim cs = [] ↔ ∀ c ∈ cs, isBlank c := by
  rw [trim, trimEnd, List.reverse_eq_nil_iff, List.dropWhile_eq_nil_iff]
  simp only [List.mem_reverse]
  constructor
  · intro h c hc
    rw [← List.takeWhile_append_dropWhile (p := isBlank) (l := cs), List.mem_append] at hc
    exact hc.elim List.mem_takeWhile_imp (h c)
  · exact fun h c hc => h c (List.dropWhile_suffix isBlank |>.subset hc)

/-- White space at the front holds no words. -/
theorem words_gap_append {gap : List Char} (hgap : ∀ c ∈ gap, isBlank c) (rest : List Char) :
    words (gap ++ rest) = words rest := by
  induction gap with
  | nil => rfl
  | cons c gap ih =>
      obtain ⟨hc, hgap⟩ := List.forall_mem_cons.mp hgap
      rw [List.cons_append, words, wordsFrom, if_pos hc]
      exact ih hgap

/-- A word that is being read goes on. -/
theorem wordsFrom_append {word : List Char} (hword : ∀ c ∈ word, ¬ isBlank c)
    (before rest : List Char) :
    wordsFrom before (word ++ rest) = wordsFrom (word.reverse ++ before) rest := by
  induction word generalizing before with
  | nil => rfl
  | cons c word ih =>
      obtain ⟨hc, hword⟩ := List.forall_mem_cons.mp hword
      rw [List.cons_append, wordsFrom, if_neg hc, ih hword]
      simp

/-- A word that has been read ends where no other character of it follows. -/
theorem wordsFrom_end {word rest : List Char} (hword : word ≠ [])
    (hrest : ∀ c ∈ rest.head?, isBlank c) : wordsFrom word rest = word.reverse :: words rest := by
  have hempty : ¬ word.isEmpty := by simpa using hword
  cases rest with
  | nil => rw [wordsFrom, if_neg hempty]; rfl
  | cons c rest =>
      have hc : isBlank c := hrest c rfl
      rw [wordsFrom, if_pos hc, if_neg hempty, words, wordsFrom, if_pos hc]
      rfl

/-- **A word** in front of white space, or of the end of the text. -/
theorem words_word_append {word rest : List Char} (hne : word ≠ [])
    (hword : ∀ c ∈ word, ¬ isBlank c) (hrest : ∀ c ∈ rest.head?, isBlank c) :
    words (word ++ rest) = word :: words rest := by
  rw [words, wordsFrom_append hword, List.append_nil, wordsFrom_end (by simpa using hne) hrest,
    List.reverse_reverse]

/-- A text that begins with a character of a word begins with a word. -/
theorem exists_word_append {cs : List Char} (hcs : ∃ c ∈ cs.head?, ¬ isBlank c) :
    ∃ word rest, cs = word ++ rest ∧ word ≠ [] ∧ (∀ c ∈ word, ¬ isBlank c) ∧
      ∀ c ∈ rest.head?, isBlank c := by
  obtain ⟨c, hc, hblank⟩ := hcs
  obtain ⟨cs, rfl⟩ := List.head?_eq_some_iff.mp hc
  refine ⟨(c :: cs).takeWhile (! isBlank ·), (c :: cs).dropWhile (! isBlank ·),
    List.takeWhile_append_dropWhile.symm, ?_, fun d hd => ?_, fun d hd => ?_⟩
  · rw [List.takeWhile_cons_of_pos (by simpa using hblank)]
    exact List.cons_ne_nil _ _
  · simpa using List.mem_takeWhile_imp hd
  · have hnot := List.head?_dropWhile_not (! isBlank ·) (c :: cs)
    rw [Option.mem_def.mp hd] at hnot
    simpa using hnot

/-- A text that ends with a character of a word ends with a word. -/
theorem exists_append_word {cs : List Char} (hcs : ∃ c ∈ cs.getLast?, ¬ isBlank c) :
    ∃ rest word, cs = rest ++ word ∧ word ≠ [] ∧ (∀ c ∈ word, ¬ isBlank c) ∧
      ∀ c ∈ rest.getLast?, isBlank c := by
  have hreverse : ∃ c ∈ cs.reverse.head?, ¬ isBlank c := by simpa using hcs
  obtain ⟨word, rest, heq, hne, hword, hrest⟩ := exists_word_append hreverse
  refine ⟨rest.reverse, word.reverse, ?_, by simpa using hne, by simpa using hword,
    by simpa using hrest⟩
  rw [← List.reverse_append, ← heq, List.reverse_reverse]

/-- Characters of a word in front of a word make up one word with it. -/
theorem words_append_eq_modifyHead {word cs : List Char} (hword : ∀ c ∈ word, ¬ isBlank c)
    (hcs : ∃ c ∈ cs.head?, ¬ isBlank c) :
    words (word ++ cs) = (words cs).modifyHead (word ++ ·) := by
  obtain ⟨first, rest, rfl, hne, hfirst, hrest⟩ := exists_word_append hcs
  rw [← List.append_assoc, words_word_append hne hfirst hrest,
    words_word_append (by simp [hne])
      (fun c hc => (List.mem_append.mp hc).elim (hword c) (hfirst c)) hrest]
  rfl

/-- White space ends what is being read, and the rest is read on its own. -/
theorem wordsFrom_append_cons {b : Char} (hb : isBlank b) (word front back : List Char) :
    wordsFrom word (front ++ b :: back) = wordsFrom word front ++ words back := by
  induction front generalizing word with
  | nil =>
      rw [List.nil_append, wordsFrom, wordsFrom, if_pos hb]
      split <;> rfl
  | cons c front ih =>
      rw [List.cons_append, wordsFrom, wordsFrom, ih, ih]
      split
      · split <;> rfl
      · rfl

/-- **White space** separates the words before it from the words behind it. -/
theorem words_append_cons {b : Char} (hb : isBlank b) (front back : List Char) :
    words (front ++ b :: back) = words front ++ words back :=
  wordsFrom_append_cons hb [] front back

/-- Texts of which the first one ends with white space have their words one after the other. -/
theorem words_append {front : List Char} (hfront : ∀ c ∈ front.getLast?, isBlank c)
    (back : List Char) : words (front ++ back) = words front ++ words back := by
  rcases List.eq_nil_or_concat' front with rfl | ⟨front, b, rfl⟩
  · rfl
  · have hb : isBlank b := hfront b (by rw [List.getLast?_concat]; rfl)
    rw [List.append_assoc, List.singleton_append, words_append_cons hb, words_append_cons hb]
    exact congrArg (· ++ words back) (List.append_nil _).symm

/-- A piece of a text is one of its words: it holds no white space, and white space or an end of the
text is on both sides of it. -/
structure Delimited (before word behind : List Char) : Prop where
  ne_nil : word ≠ []
  not_isBlank : ∀ c ∈ word, ¬ isBlank c
  before_isBlank : ∀ c ∈ before.getLast?, isBlank c
  behind_isBlank : ∀ c ∈ behind.head?, isBlank c

/-- The characters that were read since the last white space, in reverse. -/
theorem delimited_read {read behind : List Char} (hread : ∀ c ∈ read, ¬ isBlank c)
    (hne : ¬ read.isEmpty) (hbehind : ∀ c ∈ behind.head?, isBlank c) :
    Delimited [] read.reverse behind where
  ne_nil := by simpa using hne
  not_isBlank c hc := hread c (List.mem_reverse.mp hc)
  before_isBlank := by simp
  behind_isBlank := hbehind

/-- A word stays one when white space is put in front of its text, and anything in front of that. -/
theorem Delimited.append_cons {front before word behind : List Char} {b : Char} (hb : isBlank b)
    (h : Delimited before word behind) : Delimited (front ++ b :: before) word behind where
  ne_nil := h.ne_nil
  not_isBlank := h.not_isBlank
  before_isBlank := by
    rw [List.getLast?_append, List.getLast?_cons]
    cases hlast : before.getLast? with
    | none => simpa using hb
    | some d => simpa using h.before_isBlank d hlast
  behind_isBlank := h.behind_isBlank

/-- A word that is found has been read before, or it is a word of the rest. -/
theorem exists_of_mem_wordsFrom {read cs word : List Char} (hread : ∀ c ∈ read, ¬ isBlank c)
    (h : word ∈ wordsFrom read cs) :
    ∃ before behind, read.reverse ++ cs = before ++ word ++ behind ∧
      Delimited before word behind := by
  induction cs generalizing read with
  | nil =>
      rw [wordsFrom] at h
      split at h
      · exact absurd h List.not_mem_nil
      · next hne =>
          obtain rfl := List.mem_singleton.mp h
          exact ⟨[], [], by simp, delimited_read hread hne (by simp)⟩
  | cons c cs ih =>
      rw [wordsFrom] at h
      split at h
      · next hc =>
          have hrest (hword : word ∈ wordsFrom [] cs) : ∃ before behind,
              read.reverse ++ c :: cs = before ++ word ++ behind ∧
                Delimited before word behind := by
            obtain ⟨before, behind, heq, hword⟩ := ih (List.forall_mem_nil _) hword
            rw [List.reverse_nil, List.nil_append] at heq
            exact ⟨read.reverse ++ c :: before, behind, by simp [heq], hword.append_cons hc⟩
          split at h
          · exact hrest h
          · next hne =>
              rcases List.mem_cons.mp h with rfl | h
              · exact ⟨[], c :: cs, by simp, delimited_read hread hne (by simpa using hc)⟩
              · exact hrest h
      · next hc =>
          obtain ⟨before, behind, heq, hword⟩ :=
            ih (List.forall_mem_cons.mpr ⟨hc, hread⟩) h
          exact ⟨before, behind, by simpa using heq, hword⟩

/-- **Words** are the pieces without white space that reach as far as possible. -/
theorem mem_words_iff {word cs : List Char} :
    word ∈ words cs ↔
      ∃ before behind, cs = before ++ word ++ behind ∧ Delimited before word behind := by
  constructor
  · intro h
    exact exists_of_mem_wordsFrom (List.forall_mem_nil _) h
  · rintro ⟨before, behind, rfl, hne, hword, hbefore, hbehind⟩
    rw [List.append_assoc, words_append hbefore, words_word_append hne hword hbehind]
    exact List.mem_append_right _ List.mem_cons_self

/-- A word is no longer than the text. -/
theorem length_le_of_mem_words {word cs : List Char} (h : word ∈ words cs) :
    word.length ≤ cs.length := by
  obtain ⟨before, behind, rfl, -⟩ := mem_words_iff.mp h
  simp only [List.length_append]
  omega

/-! ### Two parts of a text -/

/-- Two parts of a text divide a word of it. -/
def Divides (front back : List Char) : Prop :=
  (∃ c ∈ front.getLast?, ¬ isBlank c) ∧ ∃ c ∈ back.head?, ¬ isBlank c

/-- Parts that divide no word have their words one after the other. -/
theorem words_append_of_not_divides {front back : List Char} (h : ¬ Divides front back) :
    words (front ++ back) = words front ++ words back := by
  by_cases hfront : ∃ c ∈ front.getLast?, ¬ isBlank c
  · cases back with
    | nil => rw [List.append_nil]; exact (List.append_nil _).symm
    | cons b back =>
        have hb : isBlank b := by_contra fun hb => h ⟨hfront, b, rfl, hb⟩
        have hdrop : words ([b] ++ back) = words back := words_gap_append (by simpa using hb) back
        rw [words_append_cons hb, ← hdrop, List.singleton_append]
  · exact words_append (fun c hc => by_contra fun hblank => hfront ⟨c, hc, hblank⟩) back

/-- The word that is divided begins in the first part, and goes on as the first word of the second
part. -/
theorem words_append_of_divides {front back : List Char} (h : Divides front back) :
    ∃ rest piece, front = rest ++ piece ∧ piece ≠ [] ∧ (∀ c ∈ piece, ¬ isBlank c) ∧
      words (front ++ back) = words rest ++ (words back).modifyHead (piece ++ ·) := by
  obtain ⟨rest, piece, rfl, hne, hpiece, hrest⟩ := exists_append_word h.1
  refine ⟨rest, piece, rfl, hne, hpiece, ?_⟩
  rw [List.append_assoc, words_append hrest, words_append_eq_modifyHead hpiece h.2]

end Blank

/-- The two sides of an item at its first occurrence. -/
theorem Split.once_append_cons {α : Type} [DecidableEq α] {a : α} {xs : List α} (ha : a ∉ xs)
    (ys : List α) : once [a] (xs ++ a :: ys) = some (xs, ys) := by
  induction xs with
  | nil => simp [once]
  | cons x xs ih =>
      rw [List.mem_cons, not_or] at ha
      have hprefix : ¬ [a].isPrefixOf (x :: (xs ++ a :: ys)) := by simpa using ha.1
      rw [List.cons_append, once, if_neg hprefix, ih ha.2]
      rfl

/-- An item that does not occur splits nothing. -/
theorem Split.once_eq_none {α : Type} [DecidableEq α] {a : α} {xs : List α} (ha : a ∉ xs) :
    once [a] xs = none := by
  induction xs with
  | nil => rfl
  | cons x xs ih =>
      rw [List.mem_cons, not_or] at ha
      have hprefix : ¬ [a].isPrefixOf (x :: xs) := by simpa using ha.1
      rw [once, if_neg hprefix, ih ha.2]
      rfl

/-- Splitting at each occurrence, by the function of the library. -/
theorem Split.all_eq_splitOn {α : Type} [DecidableEq α] (a : α) (xs : List α) :
    all a xs = xs.splitOn a := by
  induction xs with
  | nil => rfl
  | cons x xs ih =>
      obtain ⟨piece, pieces, hpieces⟩ := List.exists_cons_of_ne_nil (List.splitOn_ne_nil a xs)
      rw [all, ih, List.splitOn_cons_eq_if_modifyHead, hpieces]
      simp only [beq_iff_eq, List.modifyHead_cons]

/-- Items of pieces. -/
theorem Split.mem_of_mem_all {α : Type} [DecidableEq α] {a : α} {xs piece : List α}
    (hpiece : piece ∈ all a xs) {x : α} (hx : x ∈ piece) : x ∈ xs ∧ x ≠ a := by
  induction xs generalizing piece with
  | nil =>
      obtain rfl := List.mem_singleton.mp hpiece
      exact absurd hx List.not_mem_nil
  | cons y xs ih =>
      obtain ⟨first, more, hmore⟩ : ∃ first more, all a xs = first :: more := by
        rw [all_eq_splitOn]
        exact List.exists_cons_of_ne_nil (List.splitOn_ne_nil a xs)
      have hold (hpiece : piece ∈ all a xs) : x ∈ y :: xs ∧ x ≠ a :=
        (ih hpiece hx).imp_left (List.mem_cons_of_mem y)
      rw [hmore] at ih hold
      rw [all, hmore] at hpiece
      simp only at hpiece
      split at hpiece
      · rcases List.mem_cons.mp hpiece with rfl | hpiece
        · exact absurd hx List.not_mem_nil
        · exact hold hpiece
      · next hne =>
          rcases List.mem_cons.mp hpiece with rfl | hpiece
          · rcases List.mem_cons.mp hx with rfl | hx
            · exact ⟨List.mem_cons_self, hne⟩
            · exact (ih List.mem_cons_self hx).imp_left (List.mem_cons_of_mem y)
          · exact hold (List.mem_cons_of_mem first hpiece)

/-- What was split is the two sides with the separator between them. -/
theorem Split.eq_append_of_once {α : Type} [DecidableEq α] {separator xs front back : List α}
    (h : once separator xs = some (front, back)) : xs = front ++ separator ++ back := by
  induction xs generalizing front with
  | nil => exact absurd h (by simp [once])
  | cons x xs ih =>
      rw [once] at h
      split at h
      · next hprefix =>
          obtain ⟨rest, hrest⟩ := List.isPrefixOf_iff_prefix.mp hprefix
          obtain ⟨rfl, rfl⟩ := Prod.mk.inj (Option.some.inj h)
          rw [← hrest, List.drop_left, List.nil_append]
      · obtain ⟨⟨front', back'⟩, hsplit, heq⟩ := Option.map_eq_some_iff.mp h
        obtain ⟨rfl, rfl⟩ := Prod.mk.inj heq
        rw [ih hsplit]
        rfl

/-- A first occurrence does not depend on what follows it. -/
theorem Split.once_append {α : Type} [DecidableEq α] {separator xs front back : List α}
    (hseparator : separator ≠ []) (h : once separator xs = some (front, back)) (other : List α) :
    once separator (front ++ separator ++ other) = some (front, other) := by
  have hxs := eq_append_of_once h
  subst hxs
  induction front with
  | nil =>
      obtain ⟨a, rest, rfl⟩ := List.exists_cons_of_ne_nil hseparator
      rw [List.nil_append, List.cons_append, once, if_pos (by simp), ← List.cons_append,
        List.drop_left]
  | cons x front ih =>
      rw [List.cons_append, List.cons_append, once] at h
      split at h
      · exact absurd h (by simp)
      · next hprefix =>
          obtain ⟨⟨front', back'⟩, hsplit, heq⟩ := Option.map_eq_some_iff.mp h
          obtain ⟨hfront, rfl⟩ := Prod.mk.inj heq
          obtain rfl := (List.cons.inj hfront).2
          have hprefix' : ¬ separator.isPrefixOf (x :: (front' ++ separator ++ other)) := by
            rw [List.isPrefixOf_iff_prefix] at hprefix ⊢
            intro hother
            have hfront : separator <+: x :: (front' ++ separator) :=
              List.prefix_of_prefix_length_le hother
                (List.prefix_append (x :: (front' ++ separator)) other) (by simp; omega)
            exact hprefix (hfront.trans (List.prefix_append _ _))
          rw [List.cons_append, List.cons_append, once, if_neg hprefix', ih hsplit]
          rfl

/-! ### First occurrences -/

section Occurrences

variable {α : Type} [DecidableEq α] {separator xs front back : List α}

/-- Behind `front`, a separator occurs for the first time. -/
def Split.IsFirst (separator front back : List α) : Prop :=
  ∀ front' back', front ++ separator ++ back = front' ++ separator ++ back' →
    front.length ≤ front'.length

omit [DecidableEq α] in
/-- Before its first occurrence, a separator does not begin. -/
theorem Split.IsFirst.not_prefix (h : IsFirst separator front back) {before behind : List α}
    {x : α} (hfront : front = before ++ x :: behind) :
    ¬ separator <+: x :: behind ++ separator ++ back := by
  rintro ⟨rest, hrest⟩
  have hlength := h before rest (by rw [hfront]; simp only [List.append_assoc, hrest])
  rw [hfront, List.length_append, List.length_cons] at hlength
  omega

omit [DecidableEq α] in
/-- A separator occurs at its first occurrence or behind it. -/
theorem Split.IsFirst.exists_gap (h : IsFirst separator front back) {front' back' : List α}
    (heq : front ++ separator ++ back = front' ++ separator ++ back') :
    ∃ gap, front' = front ++ gap ∧ separator ++ back = gap ++ separator ++ back' := by
  have hlength := h front' back' heq
  simp only [List.append_assoc] at heq
  have hprefix : front <+: front' :=
    List.prefix_of_prefix_length_le ⟨separator ++ back, heq⟩ (List.prefix_append _ _) hlength
  obtain ⟨gap, rfl⟩ := hprefix
  refine ⟨gap, rfl, ?_⟩
  rw [List.append_assoc] at heq ⊢
  exact List.append_cancel_left heq

/-- A separator that occurs is found. -/
theorem Split.exists_once_eq_some (hne : separator ≠ []) (h : separator <:+: xs) :
    ∃ front back, once separator xs = some (front, back) := by
  obtain ⟨front, back, rfl⟩ := h
  induction front with
  | nil =>
      obtain ⟨a, separator, rfl⟩ := List.exists_cons_of_ne_nil hne
      exact ⟨_, _, if_pos (by simp)⟩
  | cons x front ih =>
      obtain ⟨front', back', honce⟩ := ih
      rw [List.cons_append, List.cons_append, once, honce]
      split
      · exact ⟨_, _, rfl⟩
      · exact ⟨_, _, rfl⟩

/-- Splitting is at no later occurrence. -/
theorem Split.isFirst_of_once (h : once separator xs = some (front, back)) :
    IsFirst separator front back := by
  have hxs := eq_append_of_once h
  intro front' back' heq
  rw [← hxs] at heq
  clear hxs
  induction xs generalizing front front' with
  | nil => exact absurd h (by simp [once])
  | cons x xs ih =>
      rw [once] at h
      split at h
      · obtain ⟨rfl, rfl⟩ := Prod.mk.inj (Option.some.inj h)
        exact Nat.zero_le _
      · next hprefix =>
          obtain ⟨⟨front₁, back₁⟩, honce, hpair⟩ := Option.map_eq_some_iff.mp h
          obtain ⟨rfl, rfl⟩ := Prod.mk.inj hpair
          cases front' with
          | nil =>
              refine absurd (List.isPrefixOf_iff_prefix.mpr ?_) hprefix
              rw [heq]
              exact List.prefix_append _ _
          | cons y front' =>
              obtain ⟨rfl, hrest⟩ := List.cons.inj heq
              exact Nat.succ_le_succ (ih honce front' hrest)

/-- **Splitting** is at the first occurrence of the separator. -/
theorem Split.once_eq_some_iff (hne : separator ≠ []) :
    once separator xs = some (front, back) ↔
      xs = front ++ separator ++ back ∧ IsFirst separator front back := by
  constructor
  · intro h
    exact ⟨eq_append_of_once h, isFirst_of_once h⟩
  · rintro ⟨rfl, hfirst⟩
    obtain ⟨front', back', honce⟩ :=
      exists_once_eq_some hne
        (⟨front, back, rfl⟩ : separator <:+: front ++ separator ++ back)
    have heq := eq_append_of_once honce
    have hlength : front.length = front'.length :=
      Nat.le_antisymm (hfirst front' back' heq) (isFirst_of_once honce front back heq.symm)
    rw [List.append_assoc, List.append_assoc] at heq
    obtain ⟨rfl, hrest⟩ := List.append_inj heq hlength
    rw [honce, List.append_cancel_left hrest]

end Occurrences

/-! ### Lines -/

section Lines

variable {α : Type} [BEq α] (a : α)

/-- There is one line more than there are ends of lines. -/
theorem length_splitOn (xs : List α) : (xs.splitOn a).length = xs.count a + 1 := by
  induction xs with
  | nil => rfl
  | cons x xs ih =>
      rw [List.splitOn_cons_eq_if_modifyHead, List.count_cons]
      split
      · rw [List.length_cons, ih]
      · rw [List.length_modifyHead, ih]

/-- The last line of a text goes on with the first line of what follows. -/
theorem exists_splitOn_append (xs ys : List α) :
    ∃ front last first behind, xs.splitOn a = front ++ [last] ∧ ys.splitOn a = first :: behind ∧
      (xs ++ ys).splitOn a = front ++ (last ++ first) :: behind := by
  obtain ⟨first, behind, hys⟩ := List.exists_cons_of_ne_nil (List.splitOn_ne_nil a ys)
  induction xs with
  | nil => exact ⟨[], [], first, behind, rfl, hys, hys⟩
  | cons x xs ih =>
      obtain ⟨front, last, first, behind, hxs, hys, happend⟩ := ih
      simp only [List.cons_append, List.splitOn_cons_eq_if_modifyHead, hxs, happend]
      split
      · exact ⟨[] :: front, last, first, behind, rfl, hys, rfl⟩
      · cases front with
        | nil => exact ⟨[], x :: last, first, behind, rfl, hys, rfl⟩
        | cons line front => exact ⟨(x :: line) :: front, last, first, behind, rfl, hys, rfl⟩

/-- The lines of texts that are put one below the other are the lines of each of them. -/
theorem splitOn_intercalate_eq_flatMap [ReflBEq α] {texts : List (List α)} (hne : texts ≠ []) :
    ([a].intercalate texts).splitOn a = texts.flatMap (·.splitOn a) := by
  induction texts with
  | nil => exact absurd rfl hne
  | cons text texts ih =>
      cases texts with
      | nil => simp
      | cons next texts =>
          rw [List.intercalate_cons_cons, List.append_assoc, List.singleton_append,
            List.splitOn_append_cons_self, ih (List.cons_ne_nil next texts)]
          rfl

end Lines

/-! ### Putting pieces together -/

/-- Items of pieces that are put one behind the other, with a separator between them. -/
theorem mem_of_mem_intercalate {α : Type} {separator : List α} {pieces : List (List α)} {a : α}
    (h : a ∈ separator.intercalate pieces) : a ∈ separator ∨ ∃ piece ∈ pieces, a ∈ piece := by
  induction pieces with
  | nil => exact absurd h (by simp)
  | cons piece pieces ih =>
      cases pieces with
      | nil => exact .inr ⟨piece, List.mem_singleton_self piece, by simpa using h⟩
      | cons next pieces =>
          rw [List.intercalate_cons_cons, List.mem_append, List.mem_append] at h
          rcases h with (h | h) | h
          · exact .inr ⟨piece, List.mem_cons_self, h⟩
          · exact .inl h
          · rcases ih h with h | ⟨other, hother, h⟩
            · exact .inl h
            · exact .inr ⟨other, List.mem_cons_of_mem piece hother, h⟩

end Switchboard.Text
