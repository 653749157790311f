import Mathlib.Tactic
import Switchboard.Net.Idna
import Switchboard.Proofs.Net.Punycode
import Switchboard.Proofs.Text.Pieces
import Switchboard.Proofs.Unicode.Plain

/-!
# Names in ASCII are read again

The name in ASCII that a name stands for is made of labels that may stand in names (`IsName`), and each
of them is written in small ASCII characters. Reading the name again therefore replaces no character,
finds the text composed, splits it at the same points, reads each label back and finds the same labels:
a name in ASCII that was written stands for itself.

## Main results

* `readLabel?_writeLabel`: a label is read again from what is written for it.
* `exists_labels_of_toAscii?`: what a name stands for is written from labels that may stand in names.
* `toAscii?_write`: such labels are read again from the name that they make up.
* `toAscii?_toAscii?`: a name in ASCII that another one stands for stands for itself.
* `toAscii?_plain`: so does a name of small letters, digits and hyphens.
-/

namespace Switchboard.Net.Idna

open Unicode
open Punycode (isBasic)
open Text (Split.all)

variable {c : Char} {label name out : List Char} {labels : List (List Char)}

/-! ### Labels -/

/-- A label that may stand in a name. -/
structure IsLabel (label : List Char) : Prop where
  composed : Normal.composed label = label
  plain : ∀ c ∈ label, Domain.isPlain c
  not_ace : ¬ acePrefix.isPrefixOf label
  not_mark : ¬ label.head?.any fun c => Category.anyContains Category.marks c.toNat
  not_point : '.' ∉ label
  fitting : Joining.areFitting [] label

/-- The check of labels, condition by condition. -/
theorem isValidLabel_iff : isValidLabel label ↔ IsLabel label := by
  simp only [isValidLabel, Bool.and_eq_true, decide_eq_true_eq, List.all_eq_true, Bool.not_eq_true']
  constructor
  · rintro ⟨⟨⟨⟨⟨hcomposed, hplain⟩, hace⟩, hmark⟩, hpoint⟩, hfitting⟩
    exact ⟨hcomposed, hplain, by simp [hace], by simp [hmark], hpoint, hfitting⟩
  · rintro ⟨hcomposed, hplain, hace, hmark, hpoint, hfitting⟩
    exact ⟨⟨⟨⟨⟨hcomposed, hplain⟩, by simpa only [Bool.not_eq_true] using hace⟩,
      by simpa using hmark⟩, hpoint⟩, hfitting⟩

/-- Characters of names in ASCII: no capitals. -/
def IsSmall (c : Char) : Prop := c.toNat < 0x80 ∧ c.toLower = c

/-- The digits of `Punycode` are small letters and numerals, and so are the letters of the prefix. -/
theorem isSmall_of_isWritten (h : c = '-' ∨ Punycode.IsDigit c) : IsSmall c ∧ c ≠ '.' := by
  have hdigits : ∀ n < 36, ((Punycode.digit n).toNat < 0x80 ∧
      (Punycode.digit n).toLower = Punycode.digit n) ∧ Punycode.digit n ≠ '.' := by decide
  rcases h with rfl | ⟨n, hn, rfl⟩
  · exact ⟨⟨by decide, by decide⟩, by decide⟩
  · exact hdigits n hn

/-- **Labels are written** in small ASCII characters other than the point. -/
theorem IsLabel.isSmall_of_mem (h : IsLabel label) (hc : c ∈ writeLabel label) :
    IsSmall c ∧ c ≠ '.' := by
  have hown (hc : c ∈ label) (hbasic : isBasic c) : IsSmall c ∧ c ≠ '.' := by
    have hascii : c.toNat < 0x80 := of_decide_eq_true hbasic
    refine ⟨⟨hascii, (Domain.isPlain_iff_toLower hascii).mp (h.plain c hc)⟩, ?_⟩
    rintro rfl
    exact h.not_point hc
  rw [writeLabel] at hc
  split at hc
  · next hall => exact hown hc (List.all_eq_true.mp hall c hc)
  · rcases List.mem_append.mp hc with hc | hc
    · have hprefix : acePrefix.all fun c => (c.toNat < 0x80 ∧ c.toLower = c) ∧ c ≠ '.' := by decide
      have hsmall := of_decide_eq_true (List.all_eq_true.mp hprefix c hc)
      exact hsmall
    · rcases Punycode.isWritten_of_mem_encode hc with ⟨hc, hbasic⟩ | hc
      · exact hown hc hbasic
      · exact isSmall_of_isWritten hc

/-- **A label is read again** from what is written for it: one in ASCII does not look like one with the
prefix, and behind the prefix `Punycode` gives back the label. -/
theorem readLabel?_writeLabel (h : IsLabel label) : readLabel? (writeLabel label) = some label := by
  by_cases hall : label.all isBasic
  · have hnone : acePrefix.isPrefixOf? label = none := by
      refine Option.eq_none_iff_forall_ne_some.mpr fun rest hrest => h.not_ace ?_
      exact List.isPrefixOf_iff_prefix.mpr ⟨rest, List.isPrefixOf?_eq_some_iff_append_eq.mp hrest⟩
    rw [writeLabel, if_pos hall, readLabel?, hnone]
  · have hsome : acePrefix.isPrefixOf? (acePrefix ++ Punycode.encode label) =
        some (Punycode.encode label) := List.isPrefixOf?_eq_some_iff_append_eq.mpr rfl
    rw [writeLabel, if_neg hall, readLabel?, hsome]
    simp only [Punycode.decode?_encode, Option.filter_some, hall, Bool.not_false, if_true]

/-! ### Names -/

/-- Labels that make up a name. -/
structure IsName (labels : List (List Char)) : Prop where
  ne_nil : labels ≠ []
  isLabel : ∀ label ∈ labels, IsLabel label
  consistent : areConsistent labels

/-- The name that labels make up, in ASCII. -/
def write (labels : List (List Char)) : List Char := ['.'].intercalate (labels.map writeLabel)

/-- **What a name stands for** is written from labels that may stand in names. -/
theorem exists_labels_of_toAscii? (h : toAscii? name = some out) :
    ∃ labels, IsName labels ∧ out = write labels := by
  simp only [toAscii?, Option.bind_eq_bind, Option.bind_eq_some_iff, Option.guard_eq_some',
    Option.pure_def, Option.some.injEq, Bool.and_eq_true, List.all_eq_true, isValidLabel_iff] at h
  obtain ⟨replaced, -, labels, hlabels, -, ⟨hvalid, hconsistent⟩, rfl⟩ := h
  refine ⟨labels, ⟨?_, hvalid, hconsistent⟩, rfl⟩
  rintro rfl
  obtain ⟨piece, pieces, hpieces⟩ := List.exists_cons_of_ne_nil
    (List.splitOn_ne_nil '.' (Normal.composed replaced.flatten))
  rw [Text.Split.all_eq_splitOn, hpieces, List.mapM_cons] at hlabels
  simp [Option.bind_eq_some_iff] at hlabels

/-- Names are written in small ASCII characters. -/
theorem IsName.isSmall_of_mem (h : IsName labels) (hc : c ∈ write labels) : IsSmall c := by
  rcases Text.mem_of_mem_intercalate hc with hc | ⟨piece, hpiece, hc⟩
  · rw [List.mem_singleton.mp hc]
    exact ⟨by decide, by decide⟩
  · obtain ⟨label, hlabel, rfl⟩ := List.mem_map.mp hpiece
    exact ((h.isLabel label hlabel).isSmall_of_mem hc).1

/-- A name falls into its labels. -/
theorem IsName.all_write (h : IsName labels) :
    Split.all '.' (write labels) = labels.map writeLabel := by
  rw [Text.Split.all_eq_splitOn, write, List.splitOn_intercalate]
  · intro piece hpiece hpoint
    obtain ⟨label, hlabel, rfl⟩ := List.mem_map.mp hpiece
    exact ((h.isLabel label hlabel).isSmall_of_mem hpoint).2 rfl
  · simpa using h.ne_nil

/-- Small ASCII characters stand for themselves. -/
theorem mapM_replacement {cs : List Char} (h : ∀ c ∈ cs, IsSmall c) :
    cs.mapM Domain.replacement = some (cs.map ([·])) := by
  induction cs with
  | nil => rfl
  | cons c cs ih =>
      obtain ⟨⟨hascii, hlower⟩, hcs⟩ := List.forall_mem_cons.mp h
      rw [List.mapM_cons, ih hcs, Domain.replacement, if_pos hascii, hlower]
      rfl

/-- The labels of a name are read again one by one. -/
theorem mapM_readLabel? (h : ∀ label ∈ labels, IsLabel label) :
    (labels.map writeLabel).mapM readLabel? = some labels := by
  induction labels with
  | nil => rfl
  | cons label labels ih =>
      obtain ⟨hlabel, hlabels⟩ := List.forall_mem_cons.mp h
      rw [List.map_cons, List.mapM_cons, readLabel?_writeLabel hlabel, ih hlabels]
      rfl

/-- **Labels are read again** from the name that they make up. -/
theorem toAscii?_write (h : IsName labels) : toAscii? (write labels) = some (write labels) := by
  have hflatten : ((write labels).map ([·])).flatten = write labels := by
    rw [← List.flatMap_def, List.flatMap_singleton']
  have hvalid : labels.all isValidLabel && areConsistent labels := by
    rw [h.consistent, Bool.and_true]
    exact List.all_eq_true.mpr fun label hlabel => isValidLabel_iff.mpr (h.isLabel label hlabel)
  rw [toAscii?, mapM_replacement fun c => h.isSmall_of_mem]
  simp only [Option.bind_eq_bind, Option.bind_some, hflatten,
    Normal.composed_eq_self fun c hc => (h.isSmall_of_mem hc).1, h.all_write,
    mapM_readLabel? h.isLabel, guard, if_pos hvalid]
  rfl

/-- **A name in ASCII** that another one stands for stands for itself. -/
theorem toAscii?_toAscii? (h : toAscii? name = some out) : toAscii? out = some out := by
  obtain ⟨labels, hname, rfl⟩ := exists_labels_of_toAscii? h
  exact toAscii?_write hname

/-- The characters of a name in ASCII. -/
theorem isSmall_of_toAscii? (h : toAscii? name = some out) (hc : c ∈ out) : IsSmall c := by
  obtain ⟨labels, hname, rfl⟩ := exists_labels_of_toAscii? h
  exact hname.isSmall_of_mem hc

/-- The name beyond ASCII, and its name in ASCII. -/
example : toAscii? "bücher.example".toList = some "xn--bcher-kva.example".toList := by
  decide +kernel

/-! ### Labels in ASCII -/

/-- A label of small ASCII characters may stand in a name, unless it looks like one that is read. -/
theorem isLabel_of_isSmall (hsmall : ∀ c ∈ label, IsSmall c) (hpoint : '.' ∉ label)
    (hace : ¬ acePrefix.isPrefixOf label) : IsLabel label where
  composed := Normal.composed_eq_self fun c hc => (hsmall c hc).1
  plain c hc := (Domain.isPlain_iff_toLower (hsmall c hc).1).mpr (hsmall c hc).2
  not_ace := hace
  not_mark := by
    cases label with
    | nil => exact Bool.false_ne_true
    | cons c label =>
        simp [Category.not_mark_of_ascii (hsmall c List.mem_cons_self).1]
  not_point := hpoint
  fitting := Joining.areFitting_of_ascii (fun c hc => (hsmall c hc).1) []

/-- **A name of labels in ASCII** stands for itself. -/
theorem toAscii?_plain (hne : labels ≠ []) (hsmall : ∀ label ∈ labels, ∀ c ∈ label, IsSmall c)
    (hpoint : ∀ label ∈ labels, '.' ∉ label)
    (hace : ∀ label ∈ labels, ¬ acePrefix.isPrefixOf label) :
    toAscii? (['.'].intercalate labels) = some (['.'].intercalate labels) := by
  have hwrite : labels.map writeLabel = labels := by
    conv_rhs => rw [← List.map_id labels]
    refine List.map_congr_left fun label hlabel => if_pos (List.all_eq_true.mpr fun c hc => ?_)
    exact decide_eq_true (hsmall label hlabel c hc).1
  have hname : IsName labels := by
    refine ⟨hne, fun label hlabel => isLabel_of_isSmall (hsmall label hlabel) (hpoint label hlabel)
      (hace label hlabel), ?_⟩
    have hmixed : labels.any Direction.isMixed = false := by
      refine List.any_eq_false.mpr fun label hlabel => ?_
      rw [Bool.not_eq_true]
      refine List.any_eq_false.mpr fun c hc => ?_
      rw [Direction.not_right_of_ascii (hsmall label hlabel c hc).1]
      exact Bool.false_ne_true
    rw [areConsistent, hmixed]
    rfl
  have htext := toAscii?_write hname
  rwa [write, hwrite] at htext

end Switchboard.Net.Idna
