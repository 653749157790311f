import Switchboard.Proofs.Unicode.Folding

/-!
# Lower-casing and simple case folding

Lower-casing a text changes it character by character, except that the capital I with a dot above
becomes two characters. `Lowers` relates a text to the texts that come into question, leaving open
which small sigma stands for a capital one, so that it holds of every piece of a text no matter
what stands around the piece.

The two notions of case agree apart from that one letter: a character and its small form fold
alike. The table of small letters is mostly a part of the table of folding, and what is left of it
is checked point by point. The capital I with a dot above has no case as far as folding is
concerned.

## Main results

* `Case.foldCode_image_lower`: small forms fold as their capitals do.
* `Case.lowers_lowercaseFrom`: lower-casing, piece by piece.
* `Case.Lowers.map_foldCode`: without the dotted I, lower-casing keeps the folding of a text.
* `Case.Lowers.dotted_not_mem`: after lower-casing there is no dotted I.
-/

namespace Switchboard.Unicode.Case

/-! ### Small forms -/

/-- The row that a code point stands in gives its image. -/
theorem image_of_inRow {rows : Table.Rows} (hrows : Ordered rows) {row : Nat × Nat × Nat × Nat}
    (hrow : row ∈ rows) {n : Nat} (hn : InRow row n) :
    image rows n = row.2.2.2 + (n - row.1) := by
  induction rows with
  | nil => exact absurd hrow List.not_mem_nil
  | cons head rest ih =>
      obtain ⟨first, last, step, target⟩ := head
      obtain ⟨hfl, hlast, hrest⟩ := hrows
      rcases List.mem_cons.mp hrow with rfl | hmem
      · obtain ⟨hfirst, hn, hstep⟩ := hn
        rw [image, if_neg (Nat.not_lt.mpr hfirst), if_pos ⟨hn, hstep⟩]
      · have hbeyond := lt_of_lt_of_le (hlast row hmem) hn.1
        rw [image, if_neg (by omega), if_neg (by omega)]
        exact ih hrest hmem

/-- The row that leads back from the images of a row. -/
def backwards (row : Nat × Nat × Nat × Nat) : Nat × Nat × Nat × Nat :=
  (row.2.2.2, row.2.2.2 + (row.2.1 - row.1), row.2.2.1, row.1)

/-- Whether a row holds letters of the Cherokee script, which are folded to capitals. -/
def isCherokee (row : Nat × Nat × Nat × Nat) : Bool := Nat.ble 0x13A0 row.1 && Nat.ble row.1 0x13F5

/-- Other small letters are what their capitals are folded to. -/
theorem lower_sublist_fold :
    (Table.lower.filter fun row => !isCherokee row).Sublist Table.fold := by decide

/-- Small Cherokee letters fold to the capital ones. -/
theorem backwards_mem_fold :
    ∀ row ∈ Table.lower.filter isCherokee, backwards row ∈ Table.fold := by decide

/-- **Small forms** fold as their capitals do. -/
theorem foldCode_image_lower (n : Nat) : foldCode (image Table.lower n) = foldCode n := by
  rcases exists_row_of_image Table.lower n with ⟨row, hrow, hn, himage⟩ | heq
  · cases hcherokee : isCherokee row with
    | false =>
        have hfold : row ∈ Table.fold :=
          lower_sublist_fold.subset (List.mem_filter.mpr ⟨hrow, by rw [hcherokee]; rfl⟩)
        have hsame : foldCode n = image Table.lower n :=
          (image_of_inRow ordered_fold hfold hn).trans himage.symm
        rw [← hsame, foldCode_foldCode]
    | true =>
        have hfold := backwards_mem_fold row (List.mem_filter.mpr ⟨hrow, hcherokee⟩)
        obtain ⟨hfirst, hlast, hstep⟩ := hn
        have hback : InRow (backwards row) (image Table.lower n) := by
          rw [himage]
          refine ⟨Nat.le_add_right _ _, Nat.add_le_add_left (Nat.sub_le_sub_right hlast _) _, ?_⟩
          rwa [backwards, Nat.add_sub_cancel_left]
        have hsame : foldCode (image Table.lower n) = n := by
          rw [foldCode, image_of_inRow ordered_fold hfold hback, himage, backwards,
            Nat.add_sub_cancel_left, Nat.add_sub_cancel' hfirst]
        rw [← foldCode_foldCode, hsame]
  · rw [heq]

/-- No small letter is a surrogate or lies beyond the last character. -/
theorem lower_valid : (Table.lower.all fun row =>
    Nat.blt (row.2.2.2 + (row.2.1 - row.1)) 0xD800 ||
      Nat.blt 0xDFFF row.2.2.2 && Nat.blt (row.2.2.2 + (row.2.1 - row.1)) 0x110000) := by
  decide

/-- The small form of a character is a character. -/
theorem isValidChar_image_lower (c : Char) : (image Table.lower c.toNat).isValidChar := by
  rcases exists_row_of_image Table.lower c.toNat with ⟨row, hrow, hn, himage⟩ | heq
  · have hvalid := List.all_eq_true.mp lower_valid row hrow
    rw [Bool.or_eq_true, Bool.and_eq_true, Nat.blt_eq, Nat.blt_eq, Nat.blt_eq] at hvalid
    obtain ⟨hfirst, hlast, -⟩ := hn
    rw [himage]
    refine hvalid.imp (fun hlow => ?_) fun hhigh => ⟨?_, ?_⟩ <;> omega
  · rw [heq]
    exact c.valid

/-- The small letter of a character is a character. -/
theorem toNat_ofNat_image_lower (c : Char) :
    (Char.ofNat (image Table.lower c.toNat)).toNat = image Table.lower c.toNat := by
  rw [Char.ofNat, dif_pos (isValidChar_image_lower c)]
  rfl

/-! ### Texts -/

/-- What a text can become by lower-casing: every character a single one that folds alike, but the
capital I with a dot above two. -/
inductive Lowers : List Char → List Char → Prop
  | nil : Lowers [] []
  | letter {c d : Char} {cs ds : List Char} (hc : c ≠ 'İ')
      (hfold : foldCode d.toNat = foldCode c.toNat) (h : Lowers cs ds) : Lowers (c :: cs) (d :: ds)
  | dotted {cs ds : List Char} (h : Lowers cs ds) : Lowers ('İ' :: cs) ('i' :: '\u0307' :: ds)

/-- **Lower-casing** is among what a text can become, whatever stands before the text. -/
theorem lowers_lowercaseFrom (seen cs : List Char) : Lowers cs (lowercaseFrom seen cs) := by
  induction cs generalizing seen with
  | nil => exact .nil
  | cons c cs ih =>
      rw [lowercaseFrom]
      by_cases hsigma : c = 'Σ'
      · subst hsigma
        have hsmall : foldCode 'σ'.toNat = foldCode 'Σ'.toNat := by decide
        have hfinal : foldCode 'ς'.toNat = foldCode 'Σ'.toNat := by decide
        rw [if_pos rfl, List.singleton_append]
        split
        · exact .letter (by decide) hfinal (ih _)
        · exact .letter (by decide) hsmall (ih _)
      · rw [if_neg hsigma, lowerChar]
        split
        · next hdotted =>
            obtain rfl : c = 'İ' := Char.toNat_inj.mp hdotted
            exact .dotted (ih _)
        · next hdotted =>
            refine .letter (fun h => hdotted (congrArg Char.toNat h)) ?_ (ih _)
            rw [toNat_ofNat_image_lower, foldCode_image_lower]

namespace Lowers

variable {cs ds : List Char}

/-- A text of two pieces becomes two pieces. -/
theorem of_append {front back : List Char} (h : Lowers (front ++ back) ds) :
    ∃ front' back', ds = front' ++ back' ∧ Lowers front front' ∧ Lowers back back' := by
  induction front generalizing ds with
  | nil => exact ⟨[], ds, rfl, .nil, h⟩
  | cons c front ih =>
      cases h with
      | letter hc hfold h =>
          obtain ⟨front', back', rfl, hfront, hback⟩ := ih h
          exact ⟨_ :: front', back', rfl, .letter hc hfold hfront, hback⟩
      | dotted h =>
          obtain ⟨front', back', rfl, hfront, hback⟩ := ih h
          exact ⟨_ :: _ :: front', back', rfl, .dotted hfront, hback⟩

/-- Without a dotted I, the folding of the text is kept. -/
theorem map_foldCode (h : Lowers cs ds) (hdotted : 'İ' ∉ cs) :
    ds.map (fun c => foldCode c.toNat) = cs.map fun c => foldCode c.toNat := by
  induction h with
  | nil => rfl
  | letter hc hfold _ ih =>
      rw [List.mem_cons, not_or] at hdotted
      rw [List.map_cons, List.map_cons, hfold, ih hdotted.2]
  | dotted _ => exact absurd List.mem_cons_self hdotted

/-- The dotted I folds like no other character. -/
theorem isAlone_dotted : isAlone 'İ'.toNat := by decide

/-- No dotted I is left. -/
theorem dotted_not_mem (h : Lowers cs ds) : 'İ' ∉ ds := by
  induction h with
  | nil => exact List.not_mem_nil
  | @letter c d cs ds hc hfold _ ih =>
      rw [List.mem_cons, not_or]
      refine ⟨?_, ih⟩
      rintro rfl
      exact hc (Char.toNat_inj.mp (eq_of_foldCode_eq isAlone_dotted hfold.symm))
  | dotted _ ih =>
      simp only [List.mem_cons, not_or]
      exact ⟨by decide, by decide, ih⟩

/-- A text that is not empty has small letters. -/
theorem ne_nil (h : Lowers cs ds) (hne : cs ≠ []) : ds ≠ [] := by
  cases h with
  | nil => exact absurd rfl hne
  | letter _ _ _ => exact List.cons_ne_nil _ _
  | dotted _ => exact List.cons_ne_nil _ _

/-- A character without case that is in the lower-cased text was in the text, unless it comes from
a dotted I. -/
theorem mem_of_isAlone (h : Lowers cs ds) {c : Char} (hc : isAlone c.toNat) (hi : c ≠ 'i')
    (hdot : c ≠ '\u0307') (hmem : c ∈ ds) : c ∈ cs := by
  induction h with
  | nil => exact hmem
  | letter _ hfold _ ih =>
      rcases List.mem_cons.mp hmem with rfl | hmem
      · have hsame := eq_of_foldCode_eq hc hfold.symm
        exact Char.toNat_inj.mp hsame ▸ List.mem_cons_self
      · exact List.mem_cons_of_mem _ (ih hmem)
  | dotted _ ih =>
      simp only [List.mem_cons, hi, hdot, false_or] at hmem
      exact List.mem_cons_of_mem _ (ih hmem)

/-- A text without case stays as it is. -/
theorem eq_of_isAlone (h : Lowers cs ds) (halone : ∀ c ∈ cs, isAlone c.toNat ∧ c ≠ 'İ') :
    ds = cs := by
  induction h with
  | nil => rfl
  | letter _ hfold _ ih =>
      obtain ⟨⟨hc, -⟩, hrest⟩ := List.forall_mem_cons.mp halone
      rw [Char.toNat_inj.mp (eq_of_foldCode_eq hc hfold), ih hrest]
  | dotted _ => exact absurd rfl (halone _ List.mem_cons_self).2

end Lowers

end Switchboard.Unicode.Case
