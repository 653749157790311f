import Switchboard.Alias.Registry
import Switchboard.Proofs.Alias.Recognition
import Switchboard.Proofs.Alias.Segments
import Switchboard.Proofs.Unicode.Lowering

/-!
# Letter case in commands

A chat line is put into lower case before the formats are tried, and a format ignores case when it
is tried. So a line that a format recognizes should still be recognized in lower case. The two
notions of case differ, though: a format ignores case by simple folding, and a line is lowered in
full.

It turns out that there is one letter to look at. The capital I with a dot above (`İ`) is lowered to
two characters, neither of which folds as the letter itself does. A format with this letter in its
literal text recognizes no line in lower case. Any other plain format recognizes in lower case what
it recognizes at all, whatever letters stand before the command, in values and in the trailer.

## Main results

* `isMatch_lowercase_iff`: when a recognized line is recognized in lower case too.
* `resolve_recognized`: what recognized lines are resolved to.
-/

namespace Switchboard.Alias

/-- The name of the alias and the format of a compiled format. -/
theorem Recognizer.eq_of_compile {owner format : String} {recognizer : Recognizer}
    (h : compile owner format = .ok recognizer) :
    recognizer.owner = owner ∧ recognizer.format = format := by
  obtain ⟨compiled, -, rfl⟩ := exists_of_compile h
  exact ⟨rfl, rfl⟩

/-- Literal text with a capital I with a dot above. -/
def Segment.Dotted : Segment → Prop
  | .literal text => 'İ' ∈ text
  | .placeholder _ => False

instance (segment : Segment) : Decidable segment.Dotted :=
  match segment with
  | .literal text => inferInstanceAs (Decidable ('İ' ∈ text))
  | .placeholder _ => .isFalse id

namespace Format

open Unicode.Case (foldCode isAlone Lowers lowercase)
open Text (isBlank)

/-- **Dotted formats**: some literal text of the format holds a capital I with a dot above. -/
def Dotted (format : String) : Prop := ∃ segment ∈ split format.toList, segment.Dotted

instance (format : String) : Decidable (Dotted format) :=
  inferInstanceAs (Decidable (∃ segment ∈ split format.toList, segment.Dotted))

/-! ### Letters without case -/

/-- A letter that folds like no other one stands in both of two texts that agree up to case, or in
none of them. -/
theorem SameFold.mem_of_isAlone {xs ys : List Char} (h : SameFold xs ys) {c : Char}
    (hc : isAlone c.toNat) (hmem : c ∈ xs) : c ∈ ys := by
  have hfold : foldCode c.toNat ∈ ys.map fun d => foldCode d.toNat :=
    h ▸ List.mem_map_of_mem hmem
  obtain ⟨d, hd, hsame⟩ := List.mem_map.mp hfold
  exact Char.toNat_inj.mp (Unicode.Case.eq_of_foldCode_eq hc hsame) ▸ hd

/-- The dotted I is no character of keys and values. -/
theorem not_isWordChar_dotted : ¬ IsWordChar 'İ' := by
  rintro ⟨d, hd, hfold⟩
  have hsame := Unicode.Case.eq_of_foldCode_eq Lowers.isAlone_dotted hfold.symm
  rw [Char.toNat_inj.mp hsame] at hd
  exact absurd hd (by decide)

/-- White space folds like no other character, and is not the capital I with a dot. -/
theorem isAlone_of_isBlank {gap : List Char} (hgap : ∀ c ∈ gap, isBlank c) :
    ∀ c ∈ gap, isAlone c.toNat ∧ c ≠ 'İ' := by
  refine fun c hc => ⟨Text.isAlone_of_isBlank (hgap c hc), ?_⟩
  rintro rfl
  exact absurd (hgap _ hc) (by decide)

/-! ### The trailer in lower case -/

section Trailer

variable {cs ds : List Char}

/-- Small letters of a word are a word. -/
theorem IsWord.lowers (h : IsWord cs) (hlowers : Lowers cs ds) : IsWord ds := by
  obtain ⟨hne, hword⟩ := h
  refine ⟨hlowers.ne_nil hne, ?_⟩
  clear hne
  induction hlowers with
  | nil => exact hword
  | letter _ hfold _ ih =>
      obtain ⟨⟨e, he, hsame⟩, hword⟩ := List.forall_mem_cons.mp hword
      exact List.forall_mem_cons.mpr ⟨⟨e, he, hfold.trans hsame⟩, ih hword⟩
  | dotted _ => exact absurd (hword _ List.mem_cons_self) not_isWordChar_dotted

/-- Small letters of a pair are a pair. -/
theorem IsPair.lowers (h : IsPair cs) (hlowers : Lowers cs ds) : IsPair ds := by
  obtain ⟨gap, key, value, rfl, hlength, hgap, hkey, hvalue⟩ := h
  obtain ⟨_, back, rfl, hfront, hback⟩ := hlowers.of_append
  obtain ⟨gap', key', rfl, hgap', hkey'⟩ := hfront.of_append
  obtain rfl := hgap'.eq_of_isAlone (isAlone_of_isBlank hgap)
  cases hback with
  | letter _ hfold hvalue' =>
      have hequals := Unicode.Case.eq_of_foldCode_eq (by decide) hfold
      rw [Char.toNat_inj.mp hequals]
      exact ⟨gap', key', _, rfl, hlength, hgap, hkey.lowers hkey', hvalue.lowers hvalue'⟩

/-- Small letters of a trailer fall into the small letters of its pairs. -/
theorem exists_pairs_lowers {pairs : List (List Char)} (hpairs : ∀ pair ∈ pairs, IsPair pair)
    (hlowers : Lowers pairs.flatten ds) :
    ∃ pairs' : List (List Char), ds = pairs'.flatten ∧ ∀ pair ∈ pairs', IsPair pair := by
  induction pairs generalizing ds with
  | nil =>
      cases hlowers
      exact ⟨[], rfl, by simp⟩
  | cons pair pairs ih =>
      obtain ⟨hpair, hpairs⟩ := List.forall_mem_cons.mp hpairs
      rw [List.flatten_cons] at hlowers
      obtain ⟨pair', rest, rfl, hpair', hrest⟩ := hlowers.of_append
      obtain ⟨pairs', rfl, hpairs'⟩ := ih hpairs hrest
      exact ⟨pair' :: pairs', rfl, List.forall_mem_cons.mpr ⟨hpair.lowers hpair', hpairs'⟩⟩

/-- A trailer in lower case is a trailer. -/
theorem IsTrailer.lowers (h : IsTrailer cs) (hlowers : Lowers cs ds) : IsTrailer ds := by
  obtain ⟨gap, pairs, rfl, hgap, hpairs⟩ := h
  obtain ⟨gap', rest, rfl, hgap', hrest⟩ := hlowers.of_append
  obtain rfl := hgap'.eq_of_isAlone (isAlone_of_isBlank hgap)
  obtain ⟨pairs', rfl, hpairs'⟩ := exists_pairs_lowers hpairs hrest
  exact ⟨gap', pairs', rfl, hgap, hpairs'⟩

end Trailer

/-! ### Literals and values in lower case -/

section Segments

variable {segments : List Segment} {written values : List (List Char)}

/-- Without a dotted I in the literal text, literals and values in lower case are literals and
values. -/
theorem Fits.lowers (h : Fits segments written values)
    (hdotted : ∀ segment ∈ segments, ¬ segment.Dotted) {ds : List Char}
    (hlowers : Lowers (weave written values) ds) :
    ∃ written' values', ds = weave written' values' ∧ Fits segments written' values' := by
  induction segments generalizing written values ds with
  | nil =>
      obtain rfl := List.length_eq_zero_iff.mp h.length_values
      obtain ⟨m, more, hm, hmore, rfl⟩ := List.forall₂_cons_right_iff.mp h.sameFold
      obtain rfl := sameFold_nil_right.mp hm
      cases hlowers
      exact ⟨_, _, rfl, h⟩
  | cons segment segments ih =>
      obtain ⟨hsegment, hsegments⟩ := List.forall_mem_cons.mp hdotted
      cases segment with
      | literal text =>
          obtain ⟨m, first, more, rfl, hm, hfits⟩ := h.of_literal
          rw [weave_append_cons] at hlowers
          obtain ⟨m', rest, rfl, hm', hrest⟩ := hlowers.of_append
          obtain ⟨written', values', rfl, hfits'⟩ := ih hfits hsegments hrest
          obtain ⟨first', more', rfl⟩ := hfits'.exists_written_eq_cons
          have hnot : 'İ' ∉ m := fun hmem =>
            hsegment (hm.mem_of_isAlone Lowers.isAlone_dotted hmem)
          have hsame : SameFold m' text := (hm'.map_foldCode hnot).trans hm
          exact ⟨(m' ++ first') :: more', values', (weave_append_cons _ _ _ _).symm,
            hfits'.literal hsame⟩
      | placeholder inner =>
          obtain ⟨written, value, values, rfl, rfl, ⟨hne, hline⟩, hfits⟩ := h.of_placeholder
          obtain ⟨value', rest, rfl, hvalue', hrest⟩ := Lowers.of_append hlowers
          obtain ⟨written', values', rfl, hfits'⟩ := ih hfits hsegments hrest
          have hline' : '\n' ∉ value' := fun hmem =>
            hline (hvalue'.mem_of_isAlone (by decide) (by decide) (by decide) hmem)
          exact ⟨[] :: written', value' :: values', rfl,
            hfits'.placeholder ⟨hvalue'.ne_nil hne, hline'⟩⟩

/-- A dotted I in the literal text stands in every text with these literals. -/
theorem Fits.dotted_mem (h : Fits segments written values)
    (hdotted : ∃ segment ∈ segments, segment.Dotted) : 'İ' ∈ weave written values := by
  induction segments generalizing written values with
  | nil => simp at hdotted
  | cons segment segments ih =>
      rw [List.exists_mem_cons_iff] at hdotted
      cases segment with
      | literal text =>
          obtain ⟨m, first, more, rfl, hm, hfits⟩ := h.of_literal
          rw [weave_append_cons, List.mem_append]
          refine hdotted.imp (fun htext => ?_) (ih hfits)
          exact SameFold.mem_of_isAlone hm.symm Lowers.isAlone_dotted htext
      | placeholder inner =>
          obtain ⟨written, value, values, rfl, rfl, -, hfits⟩ := h.of_placeholder
          rcases hdotted with hfalse | hsegments
          · exact hfalse.elim
          · exact List.mem_append_right _ (ih hfits hsegments)

end Segments

/-! ### Recognition in lower case -/

section Recognition

variable {owner format : String} {recognizer : Recognizer} (hplain : Plain format)
  (hcompile : Recognizer.compile owner format = .ok recognizer)
include hplain hcompile

/-- The texts of a plain format by their parts. -/
theorem isMatch_iff_parts (text : String) :
    recognizer.isMatch text ↔ ∃ before written values trailer,
      text.toList = before ++ weave written values ++ trailer ∧
        Fits (split format.toList) written values ∧ IsTrailer trailer := by
  obtain ⟨-, hexpr⟩ := expr_of_compile hplain hcompile
  rw [Recognizer.isMatch, Pattern.isMatch, hexpr, Pattern.Match.found_iff_matches]
  simp only [matches_formatExpr_iff]
  constructor
  · rintro ⟨before, _, _, htext, rfl, written, values, trailer, rfl, hfits, htrailer⟩
    exact ⟨before, written, values, trailer, by simpa using htext, hfits, htrailer⟩
  · rintro ⟨before, written, values, trailer, htext, hfits, htrailer⟩
    exact ⟨before, _, [], by simpa using htext, rfl, written, values, trailer, rfl, hfits, htrailer⟩

/-- **Lower case.** A text that a plain format recognizes is recognized in lower case unless the
format is dotted. -/
theorem isMatch_lowercase_iff {text : String} (hmatch : recognizer.isMatch text) :
    recognizer.isMatch (lowercase text) ↔ ¬ Dotted format := by
  have hlowers : Lowers text.toList (lowercase text).toList := by
    rw [lowercase, String.toList_ofList]
    exact Unicode.Case.lowers_lowercaseFrom [] text.toList
  constructor
  · intro hlower hdotted
    obtain ⟨before, written, values, trailer, htext, hfits, -⟩ :=
      (isMatch_iff_parts hplain hcompile _).mp hlower
    have hmem : 'İ' ∈ (lowercase text).toList := by
      rw [htext]
      exact List.mem_append_left _ (List.mem_append_right _ (hfits.dotted_mem hdotted))
    exact hlowers.dotted_not_mem hmem
  · intro hdotted
    have hsegments : ∀ segment ∈ split format.toList, ¬ segment.Dotted :=
      fun segment hsegment h => hdotted ⟨segment, hsegment, h⟩
    obtain ⟨before, written, values, trailer, htext, hfits, htrailer⟩ :=
      (isMatch_iff_parts hplain hcompile _).mp hmatch
    rw [htext] at hlowers
    obtain ⟨front, trailer', hlower, hfront, htrailer'⟩ := hlowers.of_append
    obtain ⟨before', middle, rfl, -, hmiddle⟩ := hfront.of_append
    obtain ⟨written', values', rfl, hfits'⟩ := hfits.lowers hsegments hmiddle
    exact (isMatch_iff_parts hplain hcompile _).mpr
      ⟨before', written', values', trailer', hlower, hfits', htrailer.lowers htrailer'⟩

/-- Values that are substituted for the placeholders give a text that is recognized. -/
theorem isMatch_weave {values : List (List Char)}
    (hlength : values.length = (names (split format.toList)).length)
    (hvalues : ∀ value ∈ values, value ≠ [] ∧ ∀ c ∈ value, ¬ isBlank c) :
    recognizer.isMatch (String.ofList (weave (literals (split format.toList)) values)) := by
  have hline : ∀ value ∈ values, value ≠ [] ∧ '\n' ∉ value := fun value hvalue =>
    ⟨(hvalues value hvalue).1, fun hmem =>
      (hvalues value hvalue).2 '\n' hmem (by decide)⟩
  have hsame : List.Forall₂ SameFold (literals (split format.toList))
      (literals (split format.toList)) := List.forall₂_same.mpr fun text _ => SameFold.refl text
  refine (isMatch_iff_parts hplain hcompile _).mpr
    ⟨[], literals (split format.toList), values, [], by simp, ⟨hsame, hlength, hline⟩,
      [], [], rfl, by simp, by simp⟩

end Recognition

/-! ### Formats as texts -/

/-- Without placeholders the literals are the text. -/
theorem weave_literals_nil {segments : List Segment} (h : names segments = []) :
    weave (literals segments) [] = segments.flatMap Segment.chars := by
  induction segments with
  | nil => rfl
  | cons segment segments ih =>
      cases segment with
      | literal text =>
          rw [weave_literals_literal, List.flatMap_cons, ih h]
          rfl
      | placeholder inner => exact absurd h (List.cons_ne_nil _ _)

/-! ### Resolution -/

/-- **Resolution of recognized lines.** Let a plain format be the only one that is registered.

* A line that is recognized is resolved to the format with the line in lower case, unless the
  format has a capital I with a dot above in its literal text; then it is not resolved at all.
* Every text with values for the placeholders, none of which is empty or holds white space, is
  recognized.
* A format without placeholders recognizes itself. -/
theorem resolve_recognized {owner format : String} {recognizer : Recognizer}
    (hplain : Plain format) (hcompile : Recognizer.compile owner format = .ok recognizer)
    {registry : Registry} (honly : registry.current.recognizers = [recognizer]) :
    (∀ text, ¬ Text.isBlankText text → recognizer.isMatch text →
      registry.resolve text =
        if Dotted format then none else some ⟨owner, format, lowercase text⟩) ∧
    (∀ values, values.length = (names (split format.toList)).length →
      (∀ value ∈ values, value ≠ [] ∧ ∀ c ∈ value, ¬ isBlank c) →
      recognizer.isMatch (String.ofList (weave (literals (split format.toList)) values))) ∧
    (names (split format.toList) = [] → recognizer.isMatch format) := by
  refine ⟨fun text hblank hmatch => ?_, fun values => isMatch_weave hplain hcompile,
    fun hnames => ?_⟩
  · obtain ⟨howner, hformat⟩ := Recognizer.eq_of_compile hcompile
    have hlower := isMatch_lowercase_iff hplain hcompile hmatch
    simp only [Registry.resolve, Snapshot.resolve, if_neg hblank, Snapshot.firstMatch, honly]
    by_cases hdotted : Dotted format
    · have hnot : ¬ recognizer.isMatch (lowercase text) := fun h => hlower.mp h hdotted
      rw [if_pos hdotted, List.find?_singleton, if_neg hnot]
      rfl
    · rw [if_neg hdotted, List.find?_singleton, if_pos (hlower.mpr hdotted), Option.map_some,
        howner, hformat]
  · have hself : recognizer.isMatch
        (String.ofList (weave (literals (split format.toList)) [])) :=
      isMatch_weave hplain hcompile (by rw [hnames]; rfl) (by simp)
    rwa [weave_literals_nil hnames, flatMap_chars_split, String.ofList_toList] at hself

/-- The format of a command with the name of a city. -/
def Accepted.weather : Accepted :=
  ⟨"weather", "weather {{city}}", by decide +kernel, by decide +kernel⟩

/-- The letter may stand in a value. -/
theorem resolve_recognized_weather :
    (Registry.initial.replace [{ name := "weather", formats := ["weather {{city}}"] }]).resolve
      "Weather İzmir" = some ⟨"weather", "weather {{city}}", "weather i\u0307zmir"⟩ := by
  have hplain : Plain "weather {{city}}" := Accepted.weather.plain
  have hrun : (Recognizer.compile "weather" "weather {{city}}").toOption.any
      (·.isMatch "Weather İzmir") := by decide +kernel
  have hname : Text.isBlankText "weather" = false := by decide +kernel
  have hblank : ¬ Text.isBlankText "Weather İzmir" := by decide
  have hdotted : ¬ Dotted "weather {{city}}" := by decide +kernel
  have hlower : lowercase "Weather İzmir" = "weather i\u0307zmir" := by decide +kernel
  obtain ⟨recognizer, hcompile⟩ :
      ∃ recognizer, Recognizer.compile "weather" "weather {{city}}" = .ok recognizer :=
    Accepted.weather.exists_recognizer
  rw [hcompile] at hrun
  have honly : (Registry.initial.replace
      [{ name := "weather", formats := ["weather {{city}}"] }]).current.recognizers =
        [recognizer] := by
    simp [Registry.replace, Snapshot.build, Snapshot.add, Definition.validate, hname,
      Snapshot.recognizersOf, hcompile, Except.toOption, put, Snapshot.empty]
  have hresolve := (resolve_recognized hplain hcompile honly).1 "Weather İzmir" hblank hrun
  rwa [if_neg hdotted, hlower] at hresolve

/-- In literal text the letter keeps a format from being resolved, even from its own text. -/
theorem not_resolved_dotted :
    Plain "weather İzmir" ∧ ¬ Text.isBlankText "weather İzmir" ∧
      ((Registry.initial.replace
          [{ name := "weather", formats := ["weather İzmir"] }]).current.recognizers.map
        fun recognizer => (recognizer.format, recognizer.isMatch "weather İzmir")) =
          [("weather İzmir", true)] ∧
      (Registry.initial.replace [{ name := "weather", formats := ["weather İzmir"] }]).resolve
        "weather İzmir" = none := by
  decide +kernel

end Format

end Switchboard.Alias
