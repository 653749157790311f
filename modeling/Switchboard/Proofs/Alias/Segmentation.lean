import Switchboard.Proofs.Alias.PlainFormat
import Switchboard.Proofs.Alias.Segments
import Switchboard.Proofs.Results

/-!
# Formats have one segmentation

A format is read from the left: up to the first opening everything is literal text, and the placeholder
goes from there to the nearest closing that leaves at least one character between the braces. What is
behind it is read in the same way. Where an opening is not closed, none behind it is, so the rest of
the format is literal text.

The segments that come out of this are described without any reading (`IsSegmentation`), and the
description leaves no choice: a format has exactly one segmentation, whatever braces it holds. The
pattern of the format is made segment by segment, where placeholders have their numbers in this order,
and the names of the placeholders are in this order too.

## Convention

A complete placeholder is an opening, at least one character, and a closing (`HasPlaceholder`). What
remains of a format at a placeholder is everything behind the placeholder before it.

## Main results

* `HasPlaceholder.exists_isTaken`: a text with a complete placeholder has a first one.
* `split_of_isTaken`, `split_eq_ofLiteral`: how texts with a placeholder and without one are split.
* `split_unique_and_numbered`: the segmentation of a format, its pattern and its names.
-/

namespace Switchboard.Alias

open Text.Split (IsFirst once once_eq_some_iff)

namespace Segment

/-- Literal text. -/
def IsLiteral : Segment → Prop
  | literal _ => True
  | placeholder _ => False

/-- What the braces of a placeholder enclose. -/
def inner? : Segment → Option (List Char)
  | literal _ => none
  | placeholder inner => some inner

/-- What stands in the pattern for a segment that has the given number of placeholders in front of
it. -/
def pattern (number : Nat) : Segment → List Char
  | literal text => text
  | placeholder _ => ("(?P<p" ++ toString number ++ ">.+?)").toList

end Segment

namespace Format

/-! ### Placeholders in a text -/

/-- What opens a placeholder. -/
def opening : List Char := ['\x7b', '\x7b']

/-- What closes a placeholder. -/
def closing : List Char := ['\x7d', '\x7d']

/-- A text holds a complete placeholder. -/
def HasPlaceholder (text : List Char) : Prop :=
  ∃ before c rest behind, text = before ++ opening ++ (c :: rest ++ closing ++ behind)

/-- A placeholder is taken out of the text that has `before` in front of it and `behind` behind it: it
begins at the first opening, and goes up to the nearest closing behind its first character. -/
structure IsTaken (before inner behind : List Char) : Prop where
  opens : IsFirst opening before (inner ++ closing ++ behind)
  closes : ∃ c rest, inner = c :: rest ∧ IsFirst closing rest behind

variable {text before inner behind : List Char}

/-- A placeholder as it is written. -/
theorem chars_placeholder (inner : List Char) :
    (Segment.placeholder inner).chars = opening ++ inner ++ closing := by
  simp [Segment.chars, opening, closing]

/-- A placeholder at the beginning of a text goes up to the nearest closing. -/
theorem placeholder?_eq_some_iff :
    placeholder? text = some (inner, behind) ↔
      text = opening ++ (inner ++ closing ++ behind) ∧
        ∃ c rest, inner = c :: rest ∧ IsFirst closing rest behind := by
  constructor
  · intro h
    have htext := placeholder?_eq_some h
    rw [chars_placeholder, List.append_assoc, List.append_assoc, ← List.append_assoc inner] at htext
    obtain ⟨c, rest, front, -, honce, rfl⟩ := exists_of_placeholder? h
    exact ⟨htext, c, front, rfl, ((once_eq_some_iff (by decide)).mp honce).2⟩
  · rintro ⟨rfl, c, rest, rfl, hfirst⟩
    have honce : once closing (rest ++ closing ++ behind) = some (rest, behind) :=
      (once_eq_some_iff (by decide)).mpr ⟨rfl, hfirst⟩
    simp only [opening, List.cons_append, List.nil_append, placeholder?]
    rw [← closing, honce]
    rfl

/-- A placeholder that is read is one, whatever stands before it. -/
theorem hasPlaceholder_of_placeholder? (h : placeholder? text = some (inner, behind))
    (before : List Char) : HasPlaceholder (before ++ text) := by
  obtain ⟨rfl, c, rest, rfl, -⟩ := placeholder?_eq_some_iff.mp h
  exact ⟨before, c, rest, behind, (List.append_assoc _ _ _).symm⟩

/-- **A text with a complete placeholder** has one that is taken out of it. There is a closing behind
the first opening, since there is one even behind a later opening: it stands three characters behind the
first one, or further behind. -/
theorem HasPlaceholder.exists_isTaken (h : HasPlaceholder text) :
    ∃ before inner behind, text = before ++ opening ++ (inner ++ closing ++ behind) ∧
      IsTaken before inner behind := by
  obtain ⟨before', c', rest', behind', rfl⟩ := h
  obtain ⟨before, tail, hbefore⟩ := Text.Split.exists_once_eq_some (by decide)
    (⟨before', c' :: rest' ++ closing ++ behind', rfl⟩ :
      opening <:+: before' ++ opening ++ (c' :: rest' ++ closing ++ behind'))
  obtain ⟨htext, hfirst⟩ := (once_eq_some_iff (by decide)).mp hbefore
  obtain ⟨gap, -, hgap⟩ := hfirst.exists_gap htext.symm
  have hknown : opening ++ tail = gap ++ opening ++ [c'] ++ (rest' ++ closing ++ behind') := by
    simpa using hgap
  have htail : tail.drop 1 = (gap ++ opening ++ [c']).drop 3 ++ (rest' ++ closing ++ behind') := by
    rw [← List.drop_append_of_le_length (by simp [opening]), ← hknown]
    rfl
  have hcloses : closing <:+: tail.drop 1 :=
    ⟨(gap ++ opening ++ [c']).drop 3 ++ rest', behind', by rw [htail]; simp⟩
  obtain ⟨rest, behind, hrest⟩ := Text.Split.exists_once_eq_some (by decide) hcloses
  obtain ⟨hdrop, hclosing⟩ := (once_eq_some_iff (by decide)).mp hrest
  cases tail with
  | nil => exact absurd hdrop (by simp [closing])
  | cons c tail =>
      obtain rfl : tail = rest ++ closing ++ behind := hdrop
      exact ⟨before, c :: rest, behind, htext, hfirst, c, rest, rfl, hclosing⟩

/-! ### Splitting at a placeholder -/

/-- Literal text as a segment, if there is any. -/
def ofLiteral (text : List Char) : List Segment := if text = [] then [] else [.literal text]

/-- The literal in front of a placeholder, as it is written. -/
theorem flatMap_chars_ofLiteral (text : List Char) :
    (ofLiteral text).flatMap Segment.chars = text := by
  unfold ofLiteral
  split_ifs with hnil
  · rw [hnil]
    rfl
  · simp [Segment.chars]

/-- An empty literal is left out. -/
theorem mem_ofLiteral {segment : Segment} :
    segment ∈ ofLiteral text ↔ text ≠ [] ∧ segment = .literal text := by
  unfold ofLiteral
  split_ifs with hnil <;> simp [hnil]

/-- Characters in front of a placeholder make up one literal. -/
theorem foldr_consLiteral_eq {segments : List Segment}
    (hsegments : ∀ rest others, segments ≠ .literal rest :: others) (text : List Char) :
    text.foldr consLiteral segments = ofLiteral text ++ segments := by
  unfold ofLiteral
  split_ifs with hnil
  · rw [hnil]
    rfl
  · exact foldr_consLiteral hnil hsegments

/-- A text without a placeholder. -/
theorem split_eq_ofLiteral (h : ¬ HasPlaceholder text) : split text = ofLiteral text := by
  have hnone (before : List Char) (c : Char) (behind : List Char)
      (htext : text = before ++ c :: behind) : placeholder? (c :: behind ++ []) = none := by
    rw [List.append_nil, Option.eq_none_iff_forall_ne_some]
    rintro ⟨inner, after⟩ hsome
    exact h (htext ▸ hasPlaceholder_of_placeholder? hsome before)
  have hsplit := split_append_of_placeholder? hnone
  rw [List.append_nil, split] at hsplit
  rw [hsplit, foldr_consLiteral_eq (by simp), List.append_nil]

/-- A text with a placeholder. -/
theorem split_of_isTaken (h : IsTaken before inner behind) :
    split (before ++ opening ++ (inner ++ closing ++ behind)) =
      ofLiteral before ++ .placeholder inner :: split behind := by
  have hfound : placeholder? (opening ++ (inner ++ closing ++ behind)) = some (inner, behind) :=
    placeholder?_eq_some_iff.mpr ⟨rfl, h.closes⟩
  have hsplit : split (before ++ (opening ++ (inner ++ closing ++ behind))) =
      before.foldr consLiteral (split (opening ++ (inner ++ closing ++ behind))) := by
    refine split_append_of_placeholder? fun front c back hbefore => ?_
    rw [Option.eq_none_iff_forall_ne_some]
    rintro ⟨inner', after⟩ hsome
    refine h.opens.not_prefix hbefore ⟨inner' ++ closing ++ after, ?_⟩
    rw [← (placeholder?_eq_some_iff.mp hsome).1]
    exact (List.append_assoc _ _ _).symm
  rw [List.append_assoc, hsplit, split_of_placeholder? hfound, foldr_consLiteral_eq (by simp)]

/-! ### Segmentations -/

/-- The literal text at the end of some segments: what stands between the last placeholder among them
and what follows. -/
def openText (segments : List Segment) : List Char :=
  match segments.getLast? with
  | some (.literal text) => text
  | _ => []

/-- **Segmentations** of a format.

* The segments make up the format.
* No literal is empty, and no two literals follow each other.
* Every placeholder is the one that is taken out of what remains of the format at its place.
* A literal at the end holds no complete placeholder. -/
structure IsSegmentation (format : List Char) (segments : List Segment) : Prop where
  chars : segments.flatMap Segment.chars = format
  ne_nil : ∀ text, .literal text ∈ segments → text ≠ []
  apart : segments.IsChain fun first second => ¬ (first.IsLiteral ∧ second.IsLiteral)
  taken : ∀ front inner back, segments = front ++ .placeholder inner :: back →
    IsTaken (openText front) inner (back.flatMap Segment.chars)
  last : ∀ front text, segments = front ++ [.literal text] → ¬ HasPlaceholder text

variable {format : List Char} {segments front back : List Segment}

/-- The text of a literal may be followed by a placeholder. -/
theorem openText_ofLiteral (text : List Char) : openText (ofLiteral text) = text := by
  unfold ofLiteral
  split_ifs with hnil
  · rw [hnil]
    rfl
  · rfl

/-- Only what stands behind the last placeholder counts. -/
theorem openText_append (front : List Segment) (inner : List Char) (back : List Segment) :
    openText (front ++ .placeholder inner :: back) = openText back := by
  unfold openText
  rw [List.getLast?_append, List.getLast?_cons]
  cases back.getLast? <;> rfl

/-- A text without a placeholder is a single literal. -/
theorem isSegmentation_ofLiteral (h : ¬ HasPlaceholder text) :
    IsSegmentation text (ofLiteral text) := by
  have hliteral {segment : Segment} {front back : List Segment}
      (heq : ofLiteral text = front ++ segment :: back) : segment = .literal text :=
    (mem_ofLiteral.mp (heq ▸ List.mem_append_right front List.mem_cons_self)).2
  refine ⟨flatMap_chars_ofLiteral text, fun other hmem => ?_, ?_, fun front inner back heq => ?_,
    fun front other heq => ?_⟩
  · obtain ⟨hne, heq⟩ := mem_ofLiteral.mp hmem
    exact Segment.literal.inj heq ▸ hne
  · unfold ofLiteral
    split_ifs
    · exact .nil
    · exact .singleton _
  · exact nomatch hliteral heq
  · exact Segment.literal.inj (hliteral heq) ▸ h

/-- A placeholder among segments that begin with a literal and a placeholder is that one, or it is
behind that one. -/
theorem eq_or_exists_of_ofLiteral_append {inner' : List Char}
    (h : ofLiteral before ++ .placeholder inner :: segments =
      front ++ .placeholder inner' :: back) :
    (front = ofLiteral before ∧ inner' = inner ∧ back = segments) ∨
      ∃ front', front = ofLiteral before ++ .placeholder inner :: front' ∧
        segments = front' ++ .placeholder inner' :: back := by
  unfold ofLiteral at h ⊢
  split_ifs at h ⊢
  · cases front with
    | nil => simp_all
    | cons first front => simp_all
  · match front with
    | [] => simp_all
    | [first] => simp_all
    | first :: second :: front => simp_all

/-- A text with a placeholder is segmented in front of it and behind it. -/
theorem IsTaken.isSegmentation (h : IsTaken before inner behind)
    (hbehind : IsSegmentation behind segments) :
    IsSegmentation (before ++ opening ++ (inner ++ closing ++ behind))
      (ofLiteral before ++ .placeholder inner :: segments) := by
  refine ⟨?_, fun text hmem => ?_, ?_, fun front inner' back heq => ?_, fun front text heq => ?_⟩
  · rw [List.flatMap_append, List.flatMap_cons, flatMap_chars_ofLiteral, chars_placeholder,
      hbehind.chars]
    simp only [List.append_assoc]
  · rcases List.mem_append.mp hmem with hmem | hmem
    · obtain ⟨hne, heq⟩ := mem_ofLiteral.mp hmem
      exact Segment.literal.inj heq ▸ hne
    · exact hbehind.ne_nil text ((List.mem_cons.mp hmem).resolve_left nofun)
  · have hrest : (.placeholder inner :: segments).IsChain
        fun first second => ¬ (first.IsLiteral ∧ second.IsLiteral) :=
      List.isChain_cons.mpr ⟨fun _ _ hboth => hboth.1, hbehind.apart⟩
    unfold ofLiteral
    split_ifs
    · exact hrest
    · exact List.isChain_cons.mpr ⟨by simp [Segment.IsLiteral], hrest⟩
  · rcases eq_or_exists_of_ofLiteral_append heq with ⟨rfl, rfl, rfl⟩ | ⟨front', rfl, hsegments⟩
    · rwa [openText_ofLiteral, hbehind.chars]
    · rw [openText_append]
      exact hbehind.taken front' inner' back hsegments
  · rcases List.eq_nil_or_concat' segments with rfl | ⟨segments, last, rfl⟩
    · exact absurd (List.append_inj' heq rfl).2 (by simp)
    · rw [← List.cons_append, ← List.append_assoc] at heq
      obtain ⟨-, hlast⟩ := List.append_inj' heq rfl
      exact hbehind.last segments text (by rw [hlast])

/-- What remains behind the first placeholder of a segmentation has a segmentation. -/
theorem IsSegmentation.of_append
    (h : IsSegmentation format (ofLiteral before ++ .placeholder inner :: segments)) :
    format = before ++ opening ++ (inner ++ closing ++ segments.flatMap Segment.chars) ∧
      IsTaken before inner (segments.flatMap Segment.chars) ∧
      IsSegmentation (segments.flatMap Segment.chars) segments := by
  have htaken := h.taken _ _ _ rfl
  rw [openText_ofLiteral] at htaken
  refine ⟨?_, htaken, rfl, fun text hmem => ?_, ?_, fun front inner' back heq => ?_,
    fun front text heq => ?_⟩
  · rw [← h.chars, List.flatMap_append, List.flatMap_cons, flatMap_chars_ofLiteral,
      chars_placeholder]
    simp only [List.append_assoc]
  · exact h.ne_nil text (List.mem_append_right _ (List.mem_cons_of_mem _ hmem))
  · exact (List.isChain_cons.mp h.apart.right_of_append).2
  · have hbehind := h.taken (ofLiteral before ++ .placeholder inner :: front) inner' back
      (by rw [heq, List.append_assoc, List.cons_append])
    rwa [openText_append] at hbehind
  · exact h.last (ofLiteral before ++ .placeholder inner :: front) text
      (by rw [heq, List.append_assoc, List.cons_append])

/-- A segmentation whose rest is that of the algorithm is that of the algorithm, too. -/
theorem IsSegmentation.append_eq_split
    (h : IsSegmentation format (ofLiteral before ++ .placeholder inner :: segments))
    (hbehind : segments = split (segments.flatMap Segment.chars)) :
    ofLiteral before ++ .placeholder inner :: segments = split format := by
  obtain ⟨rfl, htaken, -⟩ := h.of_append
  rw [split_of_isTaken htaken, ← hbehind]

/-- **Uniqueness.** A segmentation begins with a placeholder, or with a literal that is followed by a
placeholder, and then what remains is segmented in one way; or it is a literal, or empty. -/
theorem IsSegmentation.eq_split {format : List Char} {segments : List Segment}
    (h : IsSegmentation format segments) : segments = split format := by
  match segments, h with
  | [], h => rw [← h.chars, List.flatMap_nil, split]
  | [.literal text], h =>
      have hne := h.ne_nil text List.mem_cons_self
      have hformat : text = format := by simpa [Segment.chars] using h.chars
      rw [← hformat, split_eq_ofLiteral (h.last [] text rfl), ofLiteral, if_neg hne]
  | .placeholder inner :: rest, h =>
      have hform : IsSegmentation format (ofLiteral [] ++ .placeholder inner :: rest) := h
      exact hform.append_eq_split hform.of_append.2.2.eq_split
  | .literal text :: .placeholder inner :: rest, h =>
      have hne := h.ne_nil text List.mem_cons_self
      have hliteral : ofLiteral text = [.literal text] := if_neg hne
      have hform : IsSegmentation format (ofLiteral text ++ .placeholder inner :: rest) :=
        hliteral ▸ h
      rw [← hform.append_eq_split hform.of_append.2.2.eq_split, hliteral]
      rfl
  | .literal text :: .literal other :: rest, h =>
      exact absurd ⟨trivial, trivial⟩ (List.isChain_cons_cons.mp h.apart).1
termination_by segments.length

/-- **Existence.** Splitting gives a segmentation. -/
theorem isSegmentation_split (format : List Char) : IsSegmentation format (split format) := by
  by_cases hholds : HasPlaceholder format
  · obtain ⟨before, inner, behind, hformat, htaken⟩ := hholds.exists_isTaken
    have hlength : behind.length < format.length := by
      rw [hformat]
      simp only [List.length_append, opening, List.length_cons]
      omega
    rw [hformat, split_of_isTaken htaken]
    exact htaken.isSegmentation (isSegmentation_split behind)
  · rw [split_eq_ofLiteral hholds]
    exact isSegmentation_ofLiteral hholds
termination_by format.length

/-! ### Numbers and names -/

/-- The patterns of segments one behind the other, where each placeholder has the number of those in
front of it. -/
def numberedPattern (segments : List Segment) : List Char :=
  (segments.mapIdx fun i segment =>
    segment.pattern ((segments.take i).filterMap Segment.inner?).length).flatten

/-- A name stands for the inside of a placeholder: it is what is in front of the first equals sign, or
everything if there is none, without the white space around it. -/
def IsNameOf (inner : List Char) (name : String) : Prop :=
  ∃ key value, inner = key ++ value ∧ '=' ∉ key ∧ (∀ c ∈ value.head?, c = '=') ∧
    name = Text.trim (String.ofList key)

/-- The pattern of a group is that of any placeholder with this number. -/
theorem groupPattern_eq (index : Nat) (inner : List Char) :
    groupPattern index = (Segment.placeholder inner).pattern index := by
  simp [groupPattern, groupName, Segment.pattern]

/-- Numbering goes on from the given number. -/
theorem patternFrom_eq (index : Nat) (segments : List Segment) :
    patternFrom index segments =
      (segments.mapIdx fun i segment => segment.pattern
        (index + ((segments.take i).filterMap Segment.inner?).length)).flatten := by
  induction segments generalizing index with
  | nil => rfl
  | cons segment segments ih =>
      rw [List.mapIdx_cons, List.flatten_cons]
      cases segment with
      | literal text =>
          rw [patternFrom, ih]
          rfl
      | placeholder inner =>
          rw [patternFrom, ih, groupPattern_eq index inner]
          simp only [List.take_zero, List.take_succ_cons, List.filterMap_nil, List.filterMap_cons,
            Segment.inner?, List.length_nil, List.length_cons, Nat.add_zero, ← Nat.add_assoc,
            Nat.add_right_comm index 1]

/-- The names of placeholders are what stands between the braces, trimmed. -/
theorem forall₂_isNameOf (segments : List Segment) :
    List.Forall₂ IsNameOf (segments.filterMap Segment.inner?) (names segments) := by
  induction segments with
  | nil => exact .nil
  | cons segment segments ih =>
      cases segment with
      | literal text => exact ih
      | placeholder inner =>
          refine .cons ⟨inner.takeWhile (· ≠ '='), inner.dropWhile (· ≠ '='),
            List.takeWhile_append_dropWhile.symm, fun hmem => ?_, fun c hc => ?_, ?_⟩ ih
          · simpa using List.mem_takeWhile_imp hmem
          · have hnot := List.head?_dropWhile_not (· ≠ '=') inner
            rw [Option.mem_def.mp hc] at hnot
            simpa using hnot
          · rw [Text.trim, String.toList_ofList]

/-- A compiled pattern keeps its source. -/
theorem source_of_compile {source : String} {compiled : Pattern}
    (h : Pattern.compile source = .ok compiled) : compiled.source = source := by
  obtain ⟨tree, -, h⟩ := exists_of_bind_eq_ok h
  obtain ⟨⟨expr, flags⟩, -, h⟩ := exists_of_bind_eq_ok h
  simp only at h
  split at h
  · exact (Except.ok.inj h) ▸ rfl
  · exact absurd h (by simp)

/-- **Formats have one segmentation**, which is found by splitting, whatever braces a format holds.
Where a format is compiled, the source of its pattern is made up of the patterns of the segments, each
placeholder with its number in the segmentation, and of the trailer, and the names of the placeholders
are in the same order. -/
theorem split_unique_and_numbered (format : String) :
    (∀ segments, IsSegmentation format.toList segments ↔ segments = split format.toList) ∧
      ∀ owner recognizer, Recognizer.compile owner format = .ok recognizer →
        recognizer.pattern.source.toList =
            numberedPattern (split format.toList) ++ trailerPattern ∧
          List.Forall₂ IsNameOf ((split format.toList).filterMap Segment.inner?)
            recognizer.placeholders := by
  refine ⟨fun segments => ⟨IsSegmentation.eq_split, ?_⟩, fun owner recognizer hcompile => ?_⟩
  · rintro rfl
    exact isSegmentation_split format.toList
  · obtain ⟨compiled, hpattern, rfl⟩ := Recognizer.exists_of_compile hcompile
    refine ⟨?_, forall₂_isNameOf _⟩
    rw [source_of_compile hpattern, pattern, String.toList_ofList, patternFrom_eq]
    simp only [Nat.zero_add]
    rfl

/-- Braces next to braces: the first placeholder encloses a brace, and another one is left behind it. -/
theorem split_unique_and_numbered_braces :
    split "go \x7b\x7b\x7bx=1\x7d\x7d\x7d \x7b\x7b y \x7d\x7d".toList =
        [.literal "go ".toList, .placeholder "\x7bx=1".toList, .literal "\x7d ".toList,
          .placeholder " y ".toList] ∧
      ∃ recognizer,
        Recognizer.compile "ops" "go \x7b\x7b\x7bx=1\x7d\x7d\x7d \x7b\x7b y \x7d\x7d" =
            .ok recognizer ∧
          recognizer.pattern.source.toList =
            "go (?P<p0>.+?)\x7d (?P<p1>.+?)".toList ++ trailerPattern ∧
          List.Forall₂ IsNameOf ["\x7bx=1".toList, " y ".toList] recognizer.placeholders ∧
          recognizer.placeholders = ["\x7bx", "y"] := by
  have hsplit : split "go \x7b\x7b\x7bx=1\x7d\x7d\x7d \x7b\x7b y \x7d\x7d".toList =
      [.literal "go ".toList, .placeholder "\x7bx=1".toList, .literal "\x7d ".toList,
        .placeholder " y ".toList] := by
    decide +kernel
  have hnames : (Recognizer.compile "ops"
      "go \x7b\x7b\x7bx=1\x7d\x7d\x7d \x7b\x7b y \x7d\x7d").toOption.map (·.placeholders) =
        some ["\x7bx", "y"] := by
    decide +kernel
  obtain ⟨recognizer, hcompile⟩ := exists_of_isSome_compile
    (by rw [← Option.isSome_map (f := (·.placeholders)), hnames]; rfl)
  obtain ⟨-, hcompiled⟩ := split_unique_and_numbered
    "go \x7b\x7b\x7bx=1\x7d\x7d\x7d \x7b\x7b y \x7d\x7d"
  obtain ⟨hsource, hplaceholders⟩ := hcompiled "ops" recognizer hcompile
  rw [hsplit] at hsource hplaceholders
  rw [hcompile] at hnames
  refine ⟨hsplit, recognizer, hcompile, ?_, hplaceholders, Option.some.inj hnames⟩
  rw [hsource]
  decide

end Format

end Switchboard.Alias
