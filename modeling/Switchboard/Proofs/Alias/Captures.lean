import Switchboard.Proofs.Alias.Extraction

/-!
# What is taken out of a command

Extraction takes the values and the trailer of one of the cuts of the text (`exists_cut_of_search`):
whichever way the matcher prefers, the spans that it records are the pieces of a cut, under the
names of the placeholders and of the trailer. So whatever holds of all cuts holds of the parameters
of every command.

Which cut it is depends on preferences. In one case they leave no choice: where every value can be a
single character from the beginning of the text on, a lazy placeholder takes no more than this
character, and the trailer is all of the rest (`search_letters`).

## Main results

* `exists_cut_of_extract`: the parameters of a command are those of a cut.
* `extract_letters`: values of one character, and any trailer behind them, are recovered.
-/

namespace Switchboard.Alias

/-- The trailer that is found in a command. -/
def Recognizer.trailer? (recognizer : Recognizer) (text : String) : Option (List Char) :=
  (recognizer.pattern.groups? text.toList).bind (·.get? Format.trailerName)

/-- Parameters are taken out of exactly the texts that are recognized. -/
theorem Recognizer.isSome_extract (recognizer : Recognizer) (text : String) :
    (recognizer.extract text).isSome = recognizer.isMatch text := by
  rw [extract, isMatch, Option.isSome_map, Pattern.groups?, Option.isSome_map,
    Pattern.Match.search_isSome]
  rfl

namespace Format

open Pattern (Expr Atom Reaches piece)
open Pattern.Match (pick place Spans allPositions)
open Text (isBlank)

/-! ### Ways are cuts -/

section Ways

variable {text : List Char} {es : List (Expr Atom)} {s : Pattern.Positions} {i k : Nat}
  {spans : Spans}

/-- Letters record nothing, and take a piece that agrees with them up to case. -/
theorem exists_of_pick_letters {letters : List Char}
    (h : pick text.length ((Expr.concat (letters.map letterExpr ++ es)).map (place text)) i s =
      some (k, spans)) :
    ∃ j, i ≤ j ∧ SameFold (piece text i j) letters ∧
      pick text.length ((Expr.concat es).map (place text)) j s = some (k, spans) := by
  induction letters generalizing i with
  | nil => exact ⟨i, Nat.le_refl i, by rw [Pattern.piece_self]; exact SameFold.refl [], h⟩
  | cons c letters ih =>
      obtain ⟨m, front, more, hletter, hrest, rfl⟩ := Pattern.Match.exists_of_pick_concat_cons h
      obtain rfl := Pattern.Match.spans_eq_nil_of_pick rfl hletter
      obtain ⟨hreaches, -⟩ := (Pattern.Match.picks text (letterExpr c)).sound hletter
      obtain ⟨j, hmj, hfold, hway⟩ := ih hrest
      refine ⟨j, hreaches.le.trans hmj, ?_, hway⟩
      rw [← Pattern.piece_append hreaches.le hmj]
      exact (matches_letter_iff.mp hreaches.matches).append hfold

/-- **Segments.** A way along the segments of a format takes literals in any case and values, and
records the values. -/
theorem exists_of_pick_segments {segments : List Segment} {index : Nat}
    (h : pick text.length ((Expr.concat (segmentExprs index segments ++ es)).map (place text)) i s =
      some (k, spans)) :
    ∃ written values j front more, i ≤ j ∧ Fits segments written values ∧
      piece text i j = weave written values ∧ spanGroups text front = valueGroups index values ∧
      spans = front ++ more ∧
      pick text.length ((Expr.concat es).map (place text)) j s = some (k, more) := by
  induction segments generalizing index i spans with
  | nil =>
      exact ⟨[[]], [], i, [], spans, Nat.le_refl i, ⟨.cons (SameFold.refl []) .nil, rfl, by simp⟩,
        Pattern.piece_self text i, rfl, rfl, h⟩
  | cons segment segments ih =>
      cases segment with
      | literal letters =>
          rw [segmentExprs, List.append_assoc] at h
          obtain ⟨m, him, hfold, hrest⟩ := exists_of_pick_letters h
          obtain ⟨written, values, j, front, more, hmj, hfits, hpiece, hgroups, rfl, hway⟩ := ih hrest
          obtain ⟨first, others, rfl⟩ := hfits.exists_written_eq_cons
          refine ⟨_, values, j, front, more, him.trans hmj, hfits.literal hfold, ?_, hgroups, rfl,
            hway⟩
          rw [weave_append_cons, ← hpiece, Pattern.piece_append him hmj]
      | placeholder inner =>
          obtain ⟨m, front, more, hvalue, hrest, rfl⟩ := Pattern.Match.exists_of_pick_concat_cons h
          obtain ⟨rfl, hreaches⟩ := Pattern.Match.eq_of_pick_capture rfl hvalue
          obtain ⟨written, values, j, front, others, hmj, hfits, hpiece, hgroups, rfl, hway⟩ :=
            ih hrest
          have hline := matches_wildcard_iff.mp hreaches.matches
          refine ⟨_, _, j, (some (groupName index), i, m) :: front, others, hreaches.le.trans hmj,
            hfits.placeholder hline, ?_, ?_, rfl, hway⟩
          · rw [weave, List.nil_append, ← hpiece, Pattern.piece_append hreaches.le hmj]
          · rw [spanGroups_cons, hgroups, valueGroups]

/-- **The end.** A way along the end of a pattern takes a trailer up to the end of the text, and
records it. -/
theorem eq_of_pick_tail (h : pick text.length (tailExpr.map (place text)) i s = some (k, spans)) :
    IsTrailer (text.drop i) ∧ spanGroups text spans = [(some trailerName, text.drop i)] := by
  obtain ⟨m, front, more, htrailer, hfinish, rfl⟩ := Pattern.Match.exists_of_pick_concat_cons h
  obtain ⟨rfl, hreaches⟩ := Pattern.Match.eq_of_pick_capture rfl htrailer
  obtain rfl := Pattern.Match.spans_eq_nil_of_pick rfl hfinish
  obtain ⟨hend, -⟩ := (Pattern.Match.picks text finishExpr).sound hfinish
  obtain ⟨hnil, hdrop⟩ := Pattern.matches_finish_iff.mp hend.matches
  have hbehind : text.drop m = [] := by
    rw [← Pattern.piece_append_drop hend.le, hnil, hdrop, List.append_nil]
  have hpiece : piece text i m = text.drop i := by
    rw [← Pattern.piece_append_drop hreaches.le, hbehind, List.append_nil]
  have hpairs : IsTrailer (piece text i m) := matches_trailer_iff.mp (.capture hreaches.matches)
  exact ⟨hpiece ▸ hpairs, by rw [← hpiece]; rfl⟩

/-- **What is found is a cut.** The groups of a match are the values and the trailer of a cut. -/
theorem exists_cut_of_search {segments : List Segment}
    (h : Pattern.Match.search (formatExpr segments) text = some (i, k, spans)) :
    ∃ cut : Cut segments text,
      spanGroups text spans = valueGroups 0 cut.values ++ [(some trailerName, cut.trailer)] := by
  obtain ⟨hway, -⟩ := Pattern.Match.search_eq_some.mp h
  obtain ⟨written, values, j, front, more, hij, hfits, hpiece, hgroups, rfl, htail⟩ :=
    exists_of_pick_segments hway
  obtain ⟨htrailer, hmore⟩ := eq_of_pick_tail htail
  refine ⟨⟨text.take i, written, values, text.drop j, ?_, hfits, htrailer⟩, ?_⟩
  · rw [← hpiece, Pattern.take_append_piece hij, List.take_append_drop]
  · rw [spanGroups, List.map_append]
    exact congrArg₂ _ hgroups hmore

end Ways

/-! ### Values of one character -/

/-- **Short values.** Where every value can be one character from the beginning of a text on, these
are the values that are found, and the rest is the trailer: there is no position within a character
where the rest of the pattern could match. -/
theorem search_letters {segments : List Segment} {letters : List Char}
    (hlength : letters.length = (names segments).length) (hletters : ∀ c ∈ letters, ¬ isBlank c)
    {text trailer : List Char} (htrailer : IsTrailer trailer)
    (htext : text = weave (literals segments) (letters.map ([·])) ++ trailer) :
    ∃ k spans, Pattern.Match.search (formatExpr segments) text = some (0, k, spans) ∧
      spanGroups text spans =
        valueGroups 0 (letters.map ([·])) ++ [(some trailerName, trailer)] := by
  obtain ⟨head, hhead⟩ : ∃ head, head = weave (literals segments) (letters.map ([·])) := ⟨_, rfl⟩
  rw [← hhead] at htext
  have htail := pick_tail htext htrailer
  have hstart : head = [] ++ weave (literals segments) (letters.map ([·])) := hhead
  have hword : ∀ value ∈ letters.map ([·]), value ≠ [] ∧ ∀ c ∈ value, ¬ isBlank c := by
    intro value hvalue
    obtain ⟨c, hc, rfl⟩ := List.mem_map.mp hvalue
    exact ⟨List.cons_ne_nil c [], List.forall_mem_singleton.mpr (hletters c hc)⟩
  obtain ⟨spans, hway, hgroups⟩ := pick_values (by rw [List.length_map, hlength]) hword 0 htext hstart
    htail fun inner rest front value others _ hsuffix _ _ index k hk hlt => by
      obtain ⟨c, -, rfl⟩ := List.mem_map.mp (hsuffix.mem List.mem_cons_self)
      rw [List.length_append, List.length_singleton] at hlt
      omega
  obtain ⟨-, hmore⟩ := eq_of_pick_tail htail
  have hdrop : text.drop head.length = trailer := by rw [htext, List.drop_left]
  refine ⟨_, _, Pattern.Match.search_eq_some.mpr ⟨hway, by simp⟩, ?_⟩
  rw [spanGroups, List.map_append]
  rw [hdrop] at hmore
  exact congrArg₂ _ hgroups hmore

/-! ### Parameters -/

variable {owner format text : String} {recognizer : Recognizer}

/-- **Parameters** are the values and the pairs of a cut. -/
theorem exists_cut_of_extract (hplain : Plain format)
    (hcompile : Recognizer.compile owner format = .ok recognizer) {parameters : Parameters}
    (h : recognizer.extract text = some parameters) :
    ∃ cut : Cut (split format.toList) text.toList,
      recognizer.trailer? text = some cut.trailer ∧
        parameters =
          ⟨(placeholders format).zip (cut.values.map String.ofList), Parameters.ofTrailer cut.trailer⟩ := by
  obtain ⟨-, hexpr⟩ := expr_of_compile hplain hcompile
  obtain ⟨groups, hgroups, -⟩ := Option.map_eq_some_iff.mp h
  obtain ⟨⟨i, k, spans⟩, hsearch, -⟩ := Option.map_eq_some_iff.mp hgroups
  rw [hexpr] at hsearch
  obtain ⟨cut, hspans⟩ := exists_cut_of_search hsearch
  obtain ⟨htrailer, hextract⟩ :=
    extract_of_search hplain hcompile hsearch cut.fits.length_values hspans
  exact ⟨cut, htrailer, Option.some.inj (h.symm.trans hextract)⟩

/-- **Short values are recovered**, whatever stands in the trailer behind them. -/
theorem extract_letters (hplain : Plain format)
    (hcompile : Recognizer.compile owner format = .ok recognizer) {letters trailer : List Char}
    (hlength : letters.length = (names (split format.toList)).length)
    (hletters : ∀ c ∈ letters, ¬ isBlank c) (htrailer : IsTrailer trailer) :
    recognizer.extract (String.ofList
        (weave (literals (split format.toList)) (letters.map ([·])) ++ trailer)) =
      some ⟨(placeholders format).zip ((letters.map ([·])).map String.ofList),
        Parameters.ofTrailer trailer⟩ := by
  obtain ⟨k, spans, hsearch, hspans⟩ := search_letters hlength hletters htrailer rfl
  rw [← String.toList_ofList (l := _ ++ trailer)] at hsearch hspans
  exact (extract_of_search hplain hcompile hsearch (by rw [List.length_map, hlength]) hspans).2

/-- The literals of some segments with a letter for every placeholder. -/
def lettered (segments : List Segment) : List Char :=
  weave (literals segments) ((List.replicate (names segments).length 'x').map ([·]))

/-- Behind letters for the placeholders any trailer can be written. -/
theorem extract_lettered (hplain : Plain format)
    (hcompile : Recognizer.compile owner format = .ok recognizer) {trailer : List Char}
    (htrailer : IsTrailer trailer) :
    ∃ bindings,
      recognizer.extract (String.ofList (lettered (split format.toList) ++ trailer)) =
        some ⟨bindings, Parameters.ofTrailer trailer⟩ := by
  refine ⟨_, extract_letters hplain hcompile (List.length_replicate ..) (fun c hc => ?_) htrailer⟩
  rw [List.eq_of_mem_replicate hc]
  decide +kernel

end Format

end Switchboard.Alias
