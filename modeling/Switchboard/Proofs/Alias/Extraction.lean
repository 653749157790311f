import Switchboard.Proofs.Alias.Trailer
import Switchboard.Proofs.Pattern.Picking

/-!
# Values that are substituted are recovered

Values can be substituted for the placeholders of a format, and pairs written behind it. The
matcher may cut the resulting text in many ways: it may start anywhere, every placeholder may
take more or less, and the trailer may begin anywhere. This module shows that it prefers the
intended cut, as long as values do not run into what follows them: behind a placeholder the
format ends or goes on with a blank (`Spaced`), and values hold no blanks (`Substitutes`).

The argument goes through the segments from left to right. A placeholder is a lazy loop, so
its value ends at the first position from which the rest of the pattern matches. Within the
value there is no such position: a literal would need its blank there, and a trailer a blank
or an equals sign.

## Main results

* `pick_values`: values are taken if the rest does not match from within one of them.
* `pick_segments`: the preferred way along the segments of a format takes the values.
* `extract_command`: substitution followed by extraction is the identity.
-/

namespace Switchboard.Alias.Format

open Pattern (Expr Atom Matches Reaches piece)
open Pattern.Match (pick back place Spans allPositions)
open Text (isBlank)

/-- **Spaced segments**: behind a placeholder there is nothing, or literal text that begins with a
blank. -/
def Spaced : List Segment → Prop
  | [] => True
  | .literal _ :: rest => Spaced rest
  | .placeholder _ :: rest =>
    (∀ next ∈ rest.head?, ∃ b text, next = .literal (b :: text) ∧ isBlank b) ∧ Spaced rest

/-- The rest of a spaced format is spaced. -/
theorem Spaced.of_suffix {segments rest : List Segment} (h : Spaced segments)
    (hsuffix : rest <:+ segments) : Spaced rest := by
  obtain ⟨front, rfl⟩ := hsuffix
  induction front with
  | nil => exact h
  | cons segment front ih =>
      cases segment with
      | literal text => exact ih h
      | placeholder inner => exact ih h.2

/-- Values for the placeholders of some segments. -/
structure Substitutes (segments : List Segment) (values : List (List Char)) : Prop where
  length_values : values.length = (names segments).length
  /-- Values are not empty and hold no blanks. -/
  word : ∀ value ∈ values, value ≠ [] ∧ ∀ c ∈ value, ¬ isBlank c
  /-- The value of a placeholder at the end holds no equals sign. -/
  last : ∀ inner, segments.getLast? = some (.placeholder inner) →
    ∀ value ∈ values.getLast?, '=' ∉ value

/-- The groups of the placeholders, the first one having the given number. -/
def valueGroups : (index : Nat) → List (List Char) → Pattern.Groups
  | _, [] => []
  | index, value :: rest => (groupName index, value) :: valueGroups (index + 1) rest

/-- The groups that some spans stand for. -/
def spanGroups (text : List Char) (spans : Spans) : Pattern.Groups :=
  spans.map fun (name, i, j) => (name, piece text i j)

/-- The groups of a match, span by span. -/
theorem spanGroups_cons (text : List Char) (name : Option String) (i j : Nat) (spans : Spans) :
    spanGroups text ((name, i, j) :: spans) = (name, piece text i j) :: spanGroups text spans :=
  rfl

section Ways

variable {text : List Char} {es : List (Expr Atom)} {s : Pattern.Positions} {m : Nat}
  {more : Spans}

/-- Literal text is taken as it is written. -/
theorem pick_letters {letters pre after : List Char} (htext : text = pre ++ letters ++ after)
    (hes : pick text.length ((Expr.concat es).map (place text)) (pre ++ letters).length s =
      some (m, more)) :
    pick text.length ((Expr.concat (letters.map letterExpr ++ es)).map (place text)) pre.length s =
      some (m, more) := by
  induction letters generalizing pre with
  | nil => simpa using hes
  | cons c letters ih =>
      have hrest := @ih (pre ++ [c]) (by simpa using htext) (by simpa using hes)
      rw [List.length_append] at hrest
      have hc : text[pre.length]? = some c := by rw [htext]; simp
      have hset := has_sameFold_iff.mpr (rfl : Unicode.Case.foldCode c.toNat = _)
      exact Pattern.Match.pick_concat_cons
        (Pattern.Match.pick_set hc hset (Pattern.Match.has_back_of_pick hrest)) hrest

/-- A value that goes on up to a position from which the rest of the pattern matches, and not from
a position within the value, is what the group of its placeholder takes. -/
theorem pick_value {pre value after : List Char} (htext : text = pre ++ value ++ after)
    (hvalue : value ≠ [] ∧ ∀ c ∈ value, ¬ isBlank c) (name : Option String)
    (hbefore : ∀ k, pre.length < k → k < (pre ++ value).length →
      ¬ (back text.length ((Expr.concat es).map (place text)) s).has k)
    (hes : pick text.length ((Expr.concat es).map (place text)) (pre ++ value).length s =
      some (m, more)) :
    pick text.length ((Expr.concat (.capture name wildcardExpr :: es)).map (place text)) pre.length
      s = some (m, (name, pre.length, pre.length + value.length) :: more) := by
  have hlength : 0 < value.length := List.length_pos_iff.mpr hvalue.1
  have hchars : ∀ k, pre.length ≤ k → k < pre.length + value.length →
      ∃ c, text[k]? = some c ∧ lineSet.has c := by
    intro k hk hlt
    have hk' : k - pre.length < value.length := by omega
    refine ⟨value[k - pre.length], ?_, has_lineSet_iff.mpr fun heq => ?_⟩
    · rw [htext, List.append_assoc, List.getElem?_append_right hk,
        List.getElem?_append_left hk', List.getElem?_eq_getElem hk']
    · have hnot := hvalue.2 _ (List.getElem_mem hk')
      rw [heq] at hnot
      exact hnot (by decide)
  rw [List.length_append] at hbefore hes
  have hway := Pattern.Match.pick_lazy (by omega) hchars hbefore
    (Pattern.Match.has_back_of_pick hes)
  exact Pattern.Match.pick_concat_cons (Pattern.Match.pick_capture hway) hes

/-- From where a letter without case matches, this letter stands. -/
theorem getElem?_of_has_back_letter {b : Char} (hb : Unicode.Case.isAlone b.toNat) {k : Nat}
    (h : (back text.length ((Expr.concat (letterExpr b :: es)).map (place text)) s).has k) :
    text[k]? = some b := by
  obtain ⟨j, hkj, -⟩ := (Pattern.Match.has_back text _ s k).mp h
  have hletter : ∃ l, Reaches text (letterExpr b) k l := by
    cases es with
    | nil => exact ⟨j, hkj⟩
    | cons e es => exact ⟨hkj.choose, hkj.choose_spec.1⟩
  obtain ⟨l, ⟨c, hc, hset⟩, -⟩ := hletter
  have heq := Unicode.Case.eq_of_foldCode_eq hb (has_sameFold_iff.mp hset)
  rwa [Char.toNat_inj.mp heq] at hc

/-- **Values.** The preferred way along the segments of a format takes the values, if the rest of the
pattern does not match from within a value. -/
theorem pick_values {segments : List Segment} {values : List (List Char)}
    (hlength : values.length = (names segments).length)
    (hword : ∀ value ∈ values, value ≠ [] ∧ ∀ c ∈ value, ¬ isBlank c) (index : Nat)
    {head pre after : List Char} (htext : text = head ++ after)
    (hhead : head = pre ++ weave (literals segments) values)
    (hes : pick text.length ((Expr.concat es).map (place text)) head.length s = some (m, more))
    (hbefore : ∀ inner rest front value others, .placeholder inner :: rest <:+ segments →
      value :: others <:+ values → others.length = (names rest).length →
      head = front ++ value ++ weave (literals rest) others →
      ∀ index k, front.length < k → k < (front ++ value).length →
        ¬ (back text.length ((Expr.concat (segmentExprs index rest ++ es)).map (place text)) s).has k) :
    ∃ spans,
      pick text.length ((Expr.concat (segmentExprs index segments ++ es)).map (place text))
        pre.length s = some (m, spans ++ more) ∧
      spanGroups text spans = valueGroups index values := by
  induction segments generalizing index pre values with
  | nil =>
      obtain rfl := List.length_eq_zero_iff.mp hlength
      obtain rfl : head = pre := by simpa [literals, weave] using hhead
      exact ⟨[], hes, rfl⟩
  | cons segment segments ih =>
      have hsuffix := List.suffix_cons segment segments
      cases segment with
      | literal letters =>
          rw [weave_literals_literal, ← List.append_assoc] at hhead
          obtain ⟨spans, hway, hgroups⟩ := ih hlength hword index hhead
            fun inner rest front value others h => hbefore inner rest front value others (h.trans hsuffix)
          refine ⟨spans, ?_, hgroups⟩
          rw [segmentExprs, List.append_assoc]
          rw [hhead, List.append_assoc] at htext
          exact pick_letters htext hway
      | placeholder inner =>
          obtain ⟨value, others, rfl⟩ := List.exists_cons_of_length_eq_add_one hlength
          have hlength : others.length = (names segments).length := Nat.succ_inj.mp hlength
          obtain ⟨hvalue, hword⟩ := List.forall_mem_cons.mp hword
          have hhead' : head = pre ++ value ++ weave (literals segments) others := by
            rw [hhead, List.append_assoc]
            rfl
          obtain ⟨spans, hway, hgroups⟩ := ih hlength hword (index + 1) hhead'
            fun inner rest front next more h h' =>
              hbefore inner rest front next more (h.trans hsuffix) (h'.trans (List.suffix_cons _ _))
          have htext' : text = pre ++ value ++ (weave (literals segments) others ++ after) := by
            rw [htext, hhead', List.append_assoc]
          refine ⟨(some (groupName index), pre.length, pre.length + value.length) :: spans, ?_, ?_⟩
          · exact pick_value htext' hvalue _
              (hbefore inner segments pre value others List.suffix_rfl List.suffix_rfl hlength hhead'
                (index + 1)) hway
          · have hpiece : piece text pre.length (pre.length + value.length) = value := by
              rw [htext', Pattern.piece_middle]
            rw [spanGroups_cons, hpiece, hgroups, valueGroups]

/-- **Segments.** The preferred way along the segments of a format takes the values, if the rest of
the pattern does not match from within a value at the end. From within a value before a literal it does
not match, since the blank that the literal begins with would have to stand in the value. -/
theorem pick_segments {segments : List Segment} {values : List (List Char)}
    (hspaced : Spaced segments) (hvalues : Substitutes segments values) (index : Nat)
    {head pre after : List Char} (htext : text = head ++ after)
    (hhead : head = pre ++ weave (literals segments) values)
    (hes : pick text.length ((Expr.concat es).map (place text)) head.length s = some (m, more))
    (hlast : ∀ front value, head = front ++ value → (∀ c ∈ value, ¬ isBlank c) → '=' ∉ value →
      ∀ k, front.length < k → k < head.length →
        ¬ (back text.length ((Expr.concat es).map (place text)) s).has k) :
    ∃ spans,
      pick text.length ((Expr.concat (segmentExprs index segments ++ es)).map (place text))
        pre.length s = some (m, spans ++ more) ∧
      spanGroups text spans = valueGroups index values := by
  refine pick_values hvalues.length_values hvalues.word index htext hhead hes
    fun inner rest front value others hsegments hsuffix hlength hfront index k hk hlt => ?_
  have hblank := (hvalues.word value (hsuffix.mem List.mem_cons_self)).2
  cases rest with
  | nil =>
      obtain rfl := List.length_eq_zero_iff.mp hlength
      have hend : head = front ++ value := by simpa [literals, weave] using hfront
      obtain ⟨first, hsegments⟩ := hsegments
      obtain ⟨more, hsuffix⟩ := hsuffix
      have hequals : '=' ∉ value :=
        hvalues.last inner (by rw [← hsegments, List.getLast?_concat]) value
          (by rw [← hsuffix, List.getLast?_concat]; rfl)
      exact hlast front value hend hblank hequals k hk (hend ▸ hlt)
  | cons next rest =>
      obtain ⟨b, letters, rfl, hb⟩ := (hspaced.of_suffix hsegments).1 next rfl
      intro hhas
      have hchar := getElem?_of_has_back_letter (Text.isAlone_of_isBlank hb) hhas
      rw [List.length_append] at hlt
      rw [htext, hfront, List.append_assoc, List.append_assoc,
        List.getElem?_append_right (by omega), List.getElem?_append_left (by omega)] at hchar
      exact hblank b (List.mem_of_getElem? hchar) hb

end Ways

/-! ### The trailer at the end -/

/-- What the pattern of a format ends with. -/
def tailExpr : Expr Atom := .concat [trailerExpr, finishExpr]

/-- From where the end of the pattern matches, the text is a trailer. -/
theorem isTrailer_of_has_back {text : List Char} {k : Nat}
    (h : (back text.length (tailExpr.map (place text)) (allPositions text.length)).has k) :
    IsTrailer (text.drop k) := by
  obtain ⟨j, hkj, -⟩ := (Pattern.Match.has_back text tailExpr _ k).mp h
  have hmatches := hkj.matches
  rw [tailExpr, Pattern.matches_concat_cons_iff] at hmatches
  obtain ⟨trailer, rest, hpiece, htrailer, hfinish⟩ := hmatches
  obtain ⟨rfl, hdrop⟩ := Pattern.matches_finish_iff.mp hfinish
  rw [← Pattern.piece_append_drop hkj.le, hdrop, hpiece, List.append_nil, List.append_nil]
  exact matches_trailer_iff.mp htrailer

/-- From within a value in front of a trailer the end of the pattern does not match. -/
theorem not_has_back_tail {text front value trailer : List Char}
    (htext : text = front ++ value ++ trailer) (hblank : ∀ c ∈ value, ¬ isBlank c)
    (hequals : '=' ∉ value) (htrailer : ∀ c ∈ trailer.head?, isBlank c) {k : Nat}
    (hk : front.length < k) (hlt : k < (front ++ value).length) :
    ¬ (back text.length (tailExpr.map (place text)) (allPositions text.length)).has k := by
  intro hhas
  rw [List.length_append] at hlt
  have hdrop : text.drop k = value.drop (k - front.length) ++ trailer := by
    have hbehind : k - front.length - value.length = 0 := by omega
    rw [htext, List.append_assoc, List.drop_append, List.drop_append, hbehind, List.drop_zero,
      List.drop_eq_nil_of_le (Nat.le_of_lt hk), List.nil_append]
  have hne : value.drop (k - front.length) ≠ [] := by
    rw [ne_eq, List.drop_eq_nil_iff]
    omega
  have hsuffix := isTrailer_of_has_back hhas
  rw [hdrop] at hsuffix
  exact not_isTrailer_append hne (fun c hc => hblank c (List.mem_of_mem_drop hc))
    (fun hmem => hequals (List.mem_of_mem_drop hmem)) htrailer hsuffix

/-- **The end.** Where a trailer goes up to the end of the text, the end of the pattern takes it. There
are no groups in a trailer, so its own span is the only one. -/
theorem pick_tail {text head trailer : List Char} (htext : text = head ++ trailer)
    (htrailer : IsTrailer trailer) :
    pick text.length (tailExpr.map (place text)) head.length (allPositions text.length) =
      some (text.length, [(some trailerName, head.length, text.length)]) := by
  have hlength : text.length = head.length + trailer.length := by rw [htext, List.length_append]
  have hreaches : Reaches text trailerExpr head.length text.length := by
    have hmatches : Matches trailerExpr head trailer [] := matches_trailer_iff.mpr htrailer
    have h := hmatches.reaches
    rwa [List.append_nil, ← htext, ← hlength] at h
  have hfinish :
      Pattern.Match.holds (text.take text.length).getLast? text[text.length]? .finish := by
    simp [Pattern.Match.holds]
  have hend : ∀ k, (back text.length (finishExpr.map (place text))
      (allPositions text.length)).has k ↔ k = text.length := by
    intro k
    rw [Pattern.Match.has_back_allPositions]
    constructor
    · rintro ⟨j, -, ⟨hk, hholds⟩, -⟩
      have hnone : text[k]? = none := Option.isNone_iff_eq_none.mp hholds
      exact Nat.le_antisymm hk (List.getElem?_eq_none_iff.mp hnone)
    · rintro rfl
      exact ⟨_, Nat.le_refl _, ⟨Nat.le_refl _, hfinish⟩, rfl⟩
  obtain ⟨k, spans, hpick, -, hk⟩ :=
    (Pattern.Match.picks text trailerExpr).exists_of_complete hreaches ((hend _).mpr rfl)
  obtain rfl := (hend k).mp hk
  rw [trailerExpr, Expr.map, pick, Option.map_eq_some_iff] at hpick
  obtain ⟨⟨k, inner⟩, hinner, heq⟩ := hpick
  obtain ⟨rfl, -⟩ := Prod.mk.inj heq
  obtain rfl := Pattern.Match.spans_eq_nil_of_pick rfl hinner
  have hall : (allPositions text.length).has text.length := by simp [allPositions]
  have hway : pick text.length ((Expr.concat [finishExpr]).map (place text)) text.length
      (allPositions text.length) = some (text.length, []) :=
    Pattern.Match.pick_look (Nat.le_refl _) hfinish hall
  exact Pattern.Match.pick_concat_cons (Pattern.Match.pick_capture hinner) hway

/-! ### Groups by their names -/

/-- The groups of values are named by consecutive numbers. -/
theorem map_fst_valueGroups (index : Nat) (values : List (List Char)) :
    (valueGroups index values).map Prod.fst =
      (List.range' index values.length).map fun i => some (groupName i) := by
  induction values generalizing index with
  | nil => rfl
  | cons value rest ih =>
      rw [valueGroups, List.map_cons, ih, List.length_cons, List.range'_succ, List.map_cons]

/-- No two groups of a match have the same name. -/
theorem nodup_groups (values : List (List Char)) (trailer : List Char) :
    ((valueGroups 0 values ++ [(some trailerName, trailer)]).map Prod.fst).Nodup := by
  rw [List.map_append, map_fst_valueGroups]
  refine List.nodup_append.mpr ⟨?_, List.nodup_singleton _, fun name hname other hother => ?_⟩
  · exact List.Nodup.map (fun i j h => groupName_injective (Option.some.inj h)) List.nodup_range'
  · obtain ⟨index, -, rfl⟩ := List.mem_map.mp hname
    obtain rfl : other = some trailerName := by simpa using hother
    exact fun h => groupName_ne_trailerName index (Option.some.inj h)

/-- The values of placeholders whose groups are known. -/
theorem bindingsFrom_eq_zip {groups : Pattern.Groups} {index : Nat} {names : List String}
    {values : List (List Char)} (hlength : values.length = names.length)
    (hgroups : ∀ name value, (some name, value) ∈ valueGroups index values →
      groups.get? name = some value) :
    Parameters.bindingsFrom groups index names = names.zip (values.map String.ofList) := by
  induction names generalizing index values with
  | nil => rfl
  | cons name names ih =>
      obtain ⟨value, rest, rfl⟩ := List.exists_cons_of_length_eq_add_one hlength
      have hvalue := hgroups _ _ List.mem_cons_self
      have hrest := ih (Nat.succ_inj.mp hlength)
        fun name value hmem => hgroups name value (List.mem_cons_of_mem _ hmem)
      rw [Parameters.bindingsFrom, hvalue, hrest]
      rfl

/-- The values and the trailer that a search finds are the parameters of a command. -/
theorem extract_of_search {owner format text : String} {recognizer : Recognizer}
    (hplain : Plain format) (hcompile : Recognizer.compile owner format = .ok recognizer)
    {i k : Nat} {spans : Spans}
    (hsearch : Pattern.Match.search (formatExpr (split format.toList)) text.toList =
      some (i, k, spans)) {values : List (List Char)} {trailer : List Char}
    (hlength : values.length = (names (split format.toList)).length)
    (hspans : spanGroups text.toList spans =
      valueGroups 0 values ++ [(some trailerName, trailer)]) :
    (recognizer.pattern.groups? text.toList).bind (·.get? trailerName) = some trailer ∧
      recognizer.extract text =
        some ⟨(placeholders format).zip (values.map String.ofList), Parameters.ofTrailer trailer⟩ := by
  obtain ⟨hplaceholders, hexpr⟩ := expr_of_compile hplain hcompile
  obtain ⟨named, hnamed⟩ :
    ∃ named, named = valueGroups 0 values ++ [(some trailerName, trailer)] := ⟨_, rfl⟩
  have hnodup : ((named.reverse).map Prod.fst).Nodup := by
    rw [List.map_reverse, List.nodup_reverse, hnamed]
    exact nodup_groups values _
  have hget : ∀ name value, (some name, value) ∈ named →
      Pattern.Groups.get? named.reverse name = some value :=
    fun name value hmem => Pattern.Groups.get?_eq_some hnodup (List.mem_reverse.mpr hmem)
  have hgroups : recognizer.pattern.groups? text.toList = some named.reverse := by
    rw [Pattern.groups?, hexpr, hsearch, hnamed, ← hspans, spanGroups, ← List.map_reverse]
    rfl
  have htrailer := hget trailerName trailer (by simp [hnamed])
  refine ⟨by rw [hgroups]; exact htrailer, ?_⟩
  have hbindings := bindingsFrom_eq_zip hlength
    fun name value hmem => hget name value (hnamed ▸ List.mem_append_left _ hmem)
  rw [Recognizer.extract, hgroups, hplaceholders, Option.map_some, Parameters.ofGroups,
    placeholders, hbindings, htrailer]
  rfl

/-! ### Substitution and extraction -/

/-- A command: values in the places of the placeholders, and pairs behind them. In front of the
first pair there may be more blanks than the one in front of each pair. -/
def command (segments : List Segment) (values : List (List Char)) (gap : List Char)
    (pairs : List Pair) : List Char :=
  weave (literals segments) values ++ (gap ++ Pair.allChars pairs)

/-- The search in a command finds the values and the trailer. -/
theorem search_command {segments : List Segment} {values : List (List Char)}
    (hspaced : Spaced segments) (hvalues : Substitutes segments values) {gap : List Char}
    (hgap : ∀ c ∈ gap, isBlank c) (pairs : List Pair) :
    ∃ j spans,
      Pattern.Match.search (formatExpr segments) (command segments values gap pairs) =
        some (0, j, spans) ∧
      spanGroups (command segments values gap pairs) spans =
        valueGroups 0 values ++ [(some trailerName, gap ++ Pair.allChars pairs)] := by
  obtain ⟨head, hhead⟩ : ∃ head, head = weave (literals segments) values := ⟨_, rfl⟩
  obtain ⟨text, htext⟩ : ∃ text, text = command segments values gap pairs := ⟨_, rfl⟩
  rw [← htext]
  rw [command, ← hhead] at htext
  have htail := pick_tail htext (isTrailer_written hgap pairs)
  have hstart : head = [] ++ weave (literals segments) values := by rw [hhead, List.nil_append]
  obtain ⟨spans, hway, hgroups⟩ := pick_segments hspaced hvalues 0 htext hstart htail
    fun front value hfront hblank hequals k hk hlt =>
      not_has_back_tail (hfront ▸ htext) hblank hequals (isBlank_head_written hgap pairs) hk
        (hfront ▸ hlt)
  refine ⟨text.length, spans ++ [(some trailerName, head.length, text.length)],
    Pattern.Match.search_eq_some.mpr ⟨hway, by simp⟩, ?_⟩
  have hpiece : piece text head.length text.length = gap ++ Pair.allChars pairs := by
    have h := Pattern.piece_middle head (gap ++ Pair.allChars pairs) []
    rwa [List.append_nil, ← List.length_append, ← htext] at h
  rw [spanGroups, List.map_append]
  exact congrArg₂ _ hgroups (congrArg (fun trailer => [(some trailerName, trailer)]) hpiece)

/-- **Substitution and extraction.** Values that are substituted for the placeholders of a plain
format are recovered, and the pairs behind them as a map. -/
theorem extract_command {owner format : String} {recognizer : Recognizer} (hplain : Plain format)
    (hcompile : Recognizer.compile owner format = .ok recognizer)
    (hspaced : Spaced (split format.toList)) {values : List (List Char)}
    (hvalues : Substitutes (split format.toList) values) {gap : List Char}
    (hgap : ∀ c ∈ gap, isBlank c) (pairs : List Pair) :
    recognizer.isMatch (String.ofList (command (split format.toList) values gap pairs)) ∧
      ∃ extra,
        recognizer.extract (String.ofList (command (split format.toList) values gap pairs)) =
          some ⟨(placeholders format).zip (values.map String.ofList), extra⟩ ∧
        IsMapOf extra (lastValue? (pairs.map Pair.entry)) := by
  obtain ⟨j, spans, hsearch, hspans⟩ := search_command hspaced hvalues hgap pairs
  rw [← String.toList_ofList (l := command ..)] at hsearch hspans
  obtain ⟨-, hextract⟩ :=
    extract_of_search hplain hcompile hsearch hvalues.length_values hspans
  refine ⟨?_, _, hextract, isMapOf_ofTrailer hgap pairs⟩
  rw [Recognizer.isMatch, Pattern.isMatch, (expr_of_compile hplain hcompile).2,
    ← Pattern.Match.search_isSome, hsearch]
  rfl

/-- The format of a command with two values. -/
def Accepted.run : Accepted :=
  ⟨"ops", "run {{cmd}} on {{host}}", by decide +kernel, by decide +kernel⟩

/-- A command with two placeholders and a key that is given twice, the last value of which
counts. -/
theorem extract_command_run :
    ∃ recognizer extra,
      Recognizer.compile "ops" "run {{cmd}} on {{host}}" = .ok recognizer ∧
        recognizer.isMatch "run uptime on web-01  n=1 n=2" ∧
        recognizer.extract "run uptime on web-01  n=1 n=2" =
          some ⟨[("cmd", "uptime"), ("host", "web-01")], extra⟩ ∧
        IsMapOf extra (lastValue? [("n", "1"), ("n", "2")]) := by
  have hplain : Plain "run {{cmd}} on {{host}}" := Accepted.run.plain
  have hsplit : split "run {{cmd}} on {{host}}".toList =
      [.literal "run ".toList, .placeholder "cmd".toList, .literal " on ".toList,
        .placeholder "host".toList] := by decide +kernel
  have hspaced : Spaced (split "run {{cmd}} on {{host}}".toList) := by
    rw [hsplit]
    refine ⟨fun next hnext => ?_, ⟨fun next hnext => absurd hnext (by simp), trivial⟩⟩
    obtain rfl : .literal " on ".toList = next := by simpa using hnext
    exact ⟨' ', "on ".toList, rfl, by decide⟩
  have hvalues : Substitutes (split "run {{cmd}} on {{host}}".toList)
      ["uptime".toList, "web-01".toList] := by
    have hword : (["uptime".toList, "web-01".toList].all fun value =>
        !value.isEmpty && value.all fun c => !isBlank c) := by decide
    rw [hsplit]
    refine ⟨rfl, fun value hvalue => ?_, fun inner _ value hvalue => ?_⟩
    · obtain ⟨hne, hblank⟩ := Bool.and_eq_true _ _ ▸ List.all_eq_true.mp hword value hvalue
      exact ⟨by simpa using hne, fun c hc => by simpa using List.all_eq_true.mp hblank c hc⟩
    · obtain rfl : "web-01".toList = value := by simpa using hvalue
      decide
  have hblank : isBlank ' ' := by decide
  have hgap : ∀ c ∈ [' '], isBlank c := by simpa using hblank
  have hkey : IsWord ['n'] := isWord_of_ascii (by simp) (by simp; decide)
  have hone : IsWord ['1'] := isWord_of_ascii (by simp) (by simp; decide)
  have htwo : IsWord ['2'] := isWord_of_ascii (by simp) (by simp; decide)
  obtain ⟨recognizer, hcompile⟩ :
      ∃ recognizer, Recognizer.compile "ops" "run {{cmd}} on {{host}}" = .ok recognizer :=
    Accepted.run.exists_recognizer
  obtain ⟨hmatch, extra, hextract, hextra⟩ := extract_command hplain hcompile hspaced hvalues hgap
    [⟨' ', ['n'], ['1'], hblank, hkey, hone⟩, ⟨' ', ['n'], ['2'], hblank, hkey, htwo⟩]
  have hnames : placeholders "run {{cmd}} on {{host}}" = ["cmd", "host"] := by decide +kernel
  rw [hsplit] at hmatch hextract
  rw [hnames] at hextract
  exact ⟨recognizer, extra, hcompile, hmatch, hextract, hextra⟩

end Switchboard.Alias.Format
