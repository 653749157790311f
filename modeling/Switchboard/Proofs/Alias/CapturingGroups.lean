import Switchboard.Proofs.Alias.PlainFormat
import Switchboard.Proofs.Alias.Segments
import Switchboard.Proofs.Pattern.GroupMarks

/-!
# Groups in formats

Literal text may use parentheses and bars, as in `(start|stop) {{service}}`. The parentheses open
groups of the pattern beside those of the placeholders, so that the groups of the placeholders are no
longer the first ones. Since values are taken by the names of groups and not by their places, this
makes no difference: a format in which these groups are marked not to record (`marked`) is compiled
when the format is, recognizes the same texts, and takes the same parameters out of them.

The two patterns are read in lockstep (`mirror_segments`), so the two trees differ in nothing but
what their groups without names record (`tree_marked`), and the matcher does the same with both.

## Convention

Formats are considered whose literal text holds plain characters, parentheses and bars (`Grouped`).
Parentheses need not match: where they do not, both patterns are refused for the same fault. Nesting
is as deep in one pattern as in the other. Only the size may tell them apart, since a group that
records takes space, so the format is supposed not to be refused as too large.

## Main results

* `split_marked`: the segments of a marked format.
* `tree_marked`: how the pattern of a marked format is read.
* `compile_marked`: marks change neither recognition nor extraction.
-/

namespace Switchboard.Alias

open Pattern.Parse (IsGroupText markChar Mirror State)

namespace Parameters

/-- The values of placeholders depend on what the groups hold only. -/
theorem bindingsFrom_congr {groups groups' : Pattern.Groups} (h : groups.get? = groups'.get?)
    (index : Nat) (names : List String) :
    bindingsFrom groups index names = bindingsFrom groups' index names := by
  induction names generalizing index with
  | nil => rfl
  | cons name names ih => rw [bindingsFrom, bindingsFrom, h, ih]

/-- Parameters depend on groups only by what is found under names. -/
theorem ofGroups_congr {groups groups' : Pattern.Groups} (h : groups.get? = groups'.get?)
    (placeholders : List String) : ofGroups placeholders groups = ofGroups placeholders groups' := by
  rw [ofGroups, ofGroups, bindingsFrom_congr h, h]

/-- The parameters of a match depend on what its groups hold only. -/
theorem map_ofGroups_congr {groups groups' : Option Pattern.Groups}
    (h : groups.map Pattern.Groups.get? = groups'.map Pattern.Groups.get?)
    (placeholders : List String) :
    groups.map (ofGroups placeholders) = groups'.map (ofGroups placeholders) := by
  cases groups <;> cases groups'
  · rfl
  · exact nomatch h
  · exact nomatch h
  · exact congrArg some (ofGroups_congr (Option.some.inj h) placeholders)

end Parameters

namespace Format

/-- **Formats with groups**: literal text holds plain characters, parentheses and bars. -/
def Grouped (format : String) : Prop :=
  ∀ segment ∈ split format.toList, segment.ForallLiteral IsGroupText

instance (format : String) : Decidable (Grouped format) :=
  inferInstanceAs (Decidable (∀ segment ∈ split format.toList, segment.ForallLiteral IsGroupText))

/-- **The marked format**: every opening parenthesis of literal text is marked not to record. -/
def marked (format : String) : String :=
  String.ofList (((split format.toList).map (Segment.rewrite markChar)).flatMap Segment.chars)

variable {format : String}

/-- The segments of a marked format. -/
theorem split_marked (h : Grouped format) :
    split (marked format).toList = (split format.toList).map (Segment.rewrite markChar) := by
  rw [marked, String.toList_ofList]
  refine split_rewrite fun segment hsegment => (h segment hsegment).imp fun c hc => ?_
  unfold markChar
  split
  · decide
  · refine ⟨List.cons_ne_nil c [], fun hmem => ?_⟩
    obtain rfl := List.mem_singleton.mp hmem
    exact absurd hc (by decide)

/-! ### Reading -/

/-- No piece of a pattern begins with a question mark, which would turn the bracket before it into
something other than a group. -/
theorem head?_patternFrom_append {segments : List Segment}
    (h : ∀ segment ∈ segments, segment.ForallLiteral IsGroupText) (index : Nat) :
    (patternFrom index segments ++ trailerPattern).head? ≠ some '?' := by
  induction segments with
  | nil =>
      have htrailer : trailerPattern.head? ≠ some '?' := by decide
      exact htrailer
  | cons segment segments ih =>
      obtain ⟨hsegment, hrest⟩ := List.forall_mem_cons.mp h
      cases segment with
      | literal text =>
          rw [patternFrom, List.append_assoc]
          exact Pattern.Parse.head?_append_ne hsegment (ih hrest)
      | placeholder inner => simp [patternFrom, groupPattern]

/-- **Segments.** The pattern of some segments and the pattern of the marked segments are read in
lockstep up to the end. The names so far are those of the placeholders before. -/
theorem mirror_segments {segments : List Segment}
    (h : ∀ segment ∈ segments, segment.ForallLiteral IsGroupText) {index : Nat} {state : State}
    (hcounts : state.Counts) (hnames : NamedBelow index state.names) :
    Mirror state (patternFrom index segments ++ trailerPattern)
      (patternFrom index (segments.map (Segment.rewrite markChar)) ++ trailerPattern) := by
  induction segments generalizing index state with
  | nil =>
      obtain ⟨stack, items, ignoring, names⟩ := state
      obtain rfl : ignoring = false := hcounts.1
      have hnew : trailerName ∉ names := hnames.trailerName_not_mem
      exact .of_reads (reads_trailerPattern stack items hnew) (reads_trailerPattern _ _ hnew)
        (.nil rfl)
  | cons segment segments ih =>
      obtain ⟨hsegment, hrest⟩ := List.forall_mem_cons.mp h
      cases segment with
      | literal text =>
          rw [List.map_cons, Segment.rewrite, patternFrom, patternFrom, List.append_assoc,
            List.append_assoc]
          exact Pattern.Parse.mirror_text hsegment (head?_patternFrom_append hrest index)
            (fun state hcounts heq => ih hrest hcounts (heq ▸ hnames)) hcounts rfl
      | placeholder inner =>
          obtain ⟨stack, items, ignoring, names⟩ := state
          obtain rfl : ignoring = false := hcounts.1
          have hnew : groupName index ∉ names := hnames.groupName_not_mem
          rw [List.map_cons, Segment.rewrite, patternFrom, patternFrom, List.append_assoc,
            List.append_assoc]
          exact .of_reads (reads_groupPattern stack items hnew _) (reads_groupPattern _ _ hnew _)
            (ih hrest ⟨rfl, hcounts.2⟩ hnames.cons)

/-- **Reading.** The pattern of a marked format is read as the pattern of the format, except for what
groups record. -/
theorem tree_marked (h : Grouped format) :
    Pattern.Parse.tree (pattern (marked format)).toList =
      (Pattern.Parse.tree (pattern format).toList).map Pattern.Tree.ungroup := by
  rw [pattern, pattern, String.toList_ofList, String.toList_ofList, split_marked h]
  exact Pattern.Parse.tree_of_mirror (mirror_segments h ⟨rfl, by simp⟩ (.nil 0))

/-! ### Compilation -/

/-- Marking its groups does not make a format empty. -/
theorem isEmpty_marked (h : Grouped format) : (marked format).isEmpty = format.isEmpty := by
  rw [isEmpty_eq_isEmpty_split, isEmpty_eq_isEmpty_split, split_marked h, List.isEmpty_map]

variable {owner : String}

/-- A marked format is compiled when the format is, to an expression without the groups that have no
name. -/
theorem compile_marked_eq (h : Grouped format)
    (hsize : Recognizer.compile owner format ≠ .error (.invalidPattern owner format .tooLarge)) :
    (∃ recognizer, Recognizer.compile owner format = .ok recognizer ∧
      Recognizer.compile owner (marked format) =
        .ok ⟨marked format, owner, recognizer.placeholders,
          ⟨pattern (marked format), recognizer.pattern.expr.ungroup⟩⟩) ∨
    ∃ fault fault', Recognizer.compile owner format = .error fault ∧
      Recognizer.compile owner (marked format) = .error fault' := by
  rw [Recognizer.compile] at hsize
  rw [Recognizer.compile, Recognizer.compile, isEmpty_marked h]
  by_cases hempty : format.isEmpty
  · exact .inr ⟨_, _, if_pos hempty, if_pos hempty⟩
  · rw [if_neg hempty] at hsize
    rw [if_neg hempty, if_neg hempty]
    have hpattern : Pattern.compile (pattern format) ≠ .error .tooLarge := by
      intro heq
      rw [heq] at hsize
      exact hsize rfl
    have hmarked := Pattern.compile_ungroup (tree_marked h) hpattern
    have hplaceholders : placeholders (marked format) = placeholders format := by
      rw [placeholders, placeholders, split_marked h, names_rewrite]
    cases hcompile : Pattern.compile (pattern format) with
    | error fault =>
        rw [hcompile] at hmarked
        exact .inr ⟨_, _, rfl, by rw [hmarked]; rfl⟩
    | ok compiled =>
        rw [hcompile] at hmarked
        exact .inl ⟨_, rfl, by rw [hmarked, hplaceholders]; rfl⟩

/-- **Groups in formats** disturb neither recognition nor extraction: a format and the format in
which its groups are marked not to record are compiled or refused together, recognize the same texts,
and take the same parameters out of them. -/
theorem compile_marked (h : Grouped format)
    (hsize : Recognizer.compile owner format ≠ .error (.invalidPattern owner format .tooLarge)) :
    ((Recognizer.compile owner (marked format)).isOk ↔ (Recognizer.compile owner format).isOk) ∧
      ∀ recognizer recognizer',
        Recognizer.compile owner format = .ok recognizer →
        Recognizer.compile owner (marked format) = .ok recognizer' →
        ∀ text, recognizer'.isMatch text = recognizer.isMatch text ∧
          recognizer'.extract text = recognizer.extract text := by
  rcases compile_marked_eq h hsize with
    ⟨compiled, hformat, hmarked⟩ | ⟨fault, fault', hformat, hmarked⟩
  · rw [hformat, hmarked]
    refine ⟨by simp [Except.isOk, Except.toBool], fun recognizer recognizer' hok hok' text => ?_⟩
    obtain rfl := Except.ok.inj hok
    obtain rfl := Except.ok.inj hok'
    refine ⟨Pattern.isMatch_ungroup compiled.pattern _ text.toList, ?_⟩
    have hgroups := Pattern.groups?_ungroup compiled.pattern (pattern (marked format)) text.toList
    exact Parameters.map_ofGroups_congr hgroups compiled.placeholders
  · rw [hformat, hmarked]
    exact ⟨by simp [Except.isOk, Except.toBool], fun recognizer recognizer' hok => nomatch hok⟩

/-- A choice of two commands, as a group that records and as one that does not. -/
theorem compile_marked_service :
    Grouped "(start|stop) {{service}}" ∧
      marked "(start|stop) {{service}}" = "(?:start|stop) {{service}}" ∧
      ∃ recognizer recognizer',
        Recognizer.compile "ops" "(start|stop) {{service}}" = .ok recognizer ∧
          Recognizer.compile "ops" "(?:start|stop) {{service}}" = .ok recognizer' ∧
          (∀ text, recognizer'.isMatch text = recognizer.isMatch text ∧
            recognizer'.extract text = recognizer.extract text) ∧
          recognizer'.extract "stop web-01 n=1" = some ⟨[("service", "web-01")], [("n", "1")]⟩ := by
  have hgrouped : Grouped "(start|stop) {{service}}" := by decide +kernel
  have hmarked : marked "(start|stop) {{service}}" = "(?:start|stop) {{service}}" := by
    decide +kernel
  have hextract : (Recognizer.compile "ops" "(start|stop) {{service}}").toOption.map
      (·.extract "stop web-01 n=1") = some (some ⟨[("service", "web-01")], [("n", "1")]⟩) := by
    decide +kernel
  have haccepted : (Recognizer.compile "ops" "(start|stop) {{service}}").toOption.isSome := by
    rw [← Option.isSome_map (f := (·.extract "stop web-01 n=1")), hextract]
    rfl
  obtain ⟨recognizer, hcompile⟩ := exists_of_isSome_compile haccepted
  obtain ⟨hok, hsame⟩ := compile_marked hgrouped (by rw [hcompile]; simp)
  have hok' : (Recognizer.compile "ops" (marked "(start|stop) {{service}}")).isOk :=
    hok.mpr (by rw [hcompile]; rfl)
  rw [hmarked] at hok' hsame
  cases hcompile' : Recognizer.compile "ops" "(?:start|stop) {{service}}" with
  | error fault => rw [hcompile'] at hok'; exact absurd hok' (by simp [Except.isOk, Except.toBool])
  | ok recognizer' =>
      have hsame' := hsame recognizer recognizer' hcompile hcompile'
      rw [hcompile] at hextract
      exact ⟨hgrouped, hmarked, recognizer, recognizer', hcompile, rfl, hsame',
        (hsame' _).2.trans (Option.some.inj hextract)⟩

end Format

end Switchboard.Alias
