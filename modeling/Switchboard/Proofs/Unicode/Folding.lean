import Mathlib.Tactic
import Switchboard.Text.Blank
import Switchboard.Unicode.CharSet

/-!
# Simple case folding

Folding sends a code point to the representative of the code points that differ from it in
case only. The table of folding is read in two directions: `Case.image` looks a code point
up, and `Case.sources` lists what a code point is the image of. The two agree because the
rows of the table are disjoint (`Rows.Ordered`), and folding twice is folding once because
no image stands in a row.

## Main results

* `Case.mem_orbit_iff`: the orbit of a code point is the set of those that fold like it.
* `CharSet.contains_folded`: the closure of a set under folding.
* `Case.eq_of_foldCode_eq`: a code point without case folds like no other one; white space
  and the equals sign are examples.
-/

namespace Switchboard.Unicode.Case

/-! ### Tables in both directions -/

/-- Rows that are not empty and stand in ascending order, one behind the other. -/
def Ordered : Table.Rows → Prop
  | [] => True
  | (first, last, _, _) :: rest => first ≤ last ∧ (∀ row ∈ rest, last < row.1) ∧ Ordered rest

/-- Rows in order, checked against neighbours only. -/
def orderedFrom : (bound : Nat) → Table.Rows → Bool
  | _, [] => true
  | bound, (first, last, _, _) :: rest => bound ≤ first && first ≤ last && orderedFrom (last + 1) rest

/-- No row begins before the bound. -/
theorem le_of_orderedFrom {bound : Nat} {rows : Table.Rows} (h : orderedFrom bound rows) :
    ∀ row ∈ rows, bound ≤ row.1 := by
  induction rows generalizing bound with
  | nil => simp
  | cons row rest ih =>
      obtain ⟨first, last, step, target⟩ := row
      simp only [orderedFrom, Bool.and_eq_true, decide_eq_true_eq] at h
      obtain ⟨⟨hb, hfl⟩, hrest⟩ := h
      intro row hrow
      rcases List.mem_cons.mp hrow with rfl | hrow
      · exact hb
      · have := ih hrest row hrow
        omega

/-- Rows that are in order with their neighbours are in order. -/
theorem ordered_of_orderedFrom {bound : Nat} {rows : Table.Rows} (h : orderedFrom bound rows) :
    Ordered rows := by
  induction rows generalizing bound with
  | nil => trivial
  | cons row rest ih =>
      obtain ⟨first, last, step, target⟩ := row
      simp only [orderedFrom, Bool.and_eq_true, decide_eq_true_eq] at h
      obtain ⟨⟨-, hfl⟩, hrest⟩ := h
      exact ⟨hfl, fun row hrow => le_of_orderedFrom hrest row hrow, ih hrest⟩

/-- What has an image under the rows other than itself is among the sources of the image. -/
theorem mem_sources_image (rows : Table.Rows) (n : Nat) :
    n ∈ sources rows (image rows n) ∨ image rows n = n := by
  induction rows with
  | nil => exact Or.inr rfl
  | cons row rest ih =>
      obtain ⟨first, last, step, target⟩ := row
      simp only [image]
      split
      · exact Or.inr rfl
      · next hfirst =>
          split
          · next hrow =>
              refine Or.inl ?_
              have hback : target + (n - first) - target = n - first := by omega
              rw [sources, if_pos ⟨by omega, by omega, by rw [hback]; exact hrow.2⟩, hback]
              have hn : first + (n - first) = n := by omega
              rw [hn]
              exact List.mem_cons_self
          · refine ih.imp (fun hmem => ?_) id
            rw [sources]
            split
            · exact List.mem_cons_of_mem _ hmem
            · exact hmem

/-- A source stands in one of the rows. -/
theorem exists_row_of_mem_sources {rows : Table.Rows} {t n : Nat} (h : n ∈ sources rows t) :
    ∃ row ∈ rows, row.1 ≤ n := by
  induction rows with
  | nil => simp [sources] at h
  | cons row rest ih =>
      obtain ⟨first, last, step, target⟩ := row
      rw [sources] at h
      split at h
      · rcases List.mem_cons.mp h with rfl | h
        · exact ⟨_, List.mem_cons_self, Nat.le_add_right _ _⟩
        · obtain ⟨row, hrow, hn⟩ := ih h
          exact ⟨row, List.mem_cons_of_mem _ hrow, hn⟩
      · obtain ⟨row, hrow, hn⟩ := ih h
        exact ⟨row, List.mem_cons_of_mem _ hrow, hn⟩

/-- The image of a source, where the rows are in order. A source from a later row lies beyond the rows
before, so that looking it up passes over them. -/
theorem image_of_mem_sources {rows : Table.Rows} (hrows : Ordered rows) {t n : Nat}
    (h : n ∈ sources rows t) : image rows n = t := by
  induction rows with
  | nil => simp [sources] at h
  | cons row rest ih =>
      obtain ⟨first, last, step, target⟩ := row
      obtain ⟨hfl, hlast, hrest⟩ := hrows
      have hlater : n ∈ sources rest t → image ((first, last, step, target) :: rest) n = t := by
        intro hmem
        obtain ⟨row, hrow, hn⟩ := exists_row_of_mem_sources hmem
        have hbeyond := hlast row hrow
        rw [image, if_neg (by omega), if_neg (by omega)]
        exact ih hrest hmem
      rw [sources] at h
      split at h
      · next hrow =>
          rcases List.mem_cons.mp h with rfl | h
          · have hback : first + (t - target) - first = t - target := by omega
            rw [image, if_neg (by omega), if_pos ⟨by omega, by rw [hback]; exact hrow.2.2⟩]
            omega
          · exact hlater h
      · exact hlater h

/-! ### The table of folding -/

/-- The rows of the table of folding are disjoint. -/
theorem ordered_fold : Ordered Table.fold :=
  have h : orderedFrom 0 Table.fold := by decide
  ordered_of_orderedFrom h

/-- Whether a code point stands in a row. -/
def InRow (row : Nat × Nat × Nat × Nat) (n : Nat) : Prop :=
  row.1 ≤ n ∧ n ≤ row.2.1 ∧ (n - row.1) % row.2.2.1 = 0

/-- An image comes from a row, or it is the code point itself. -/
theorem exists_row_of_image (rows : Table.Rows) (n : Nat) :
    (∃ row ∈ rows, InRow row n ∧ image rows n = row.2.2.2 + (n - row.1)) ∨ image rows n = n := by
  induction rows with
  | nil => exact Or.inr rfl
  | cons row rest ih =>
      obtain ⟨first, last, step, target⟩ := row
      simp only [image]
      split
      · exact Or.inr rfl
      · next hfirst =>
          split
          · next hrow =>
              exact Or.inl ⟨_, List.mem_cons_self, ⟨by omega, hrow.1, hrow.2⟩, rfl⟩
          · refine ih.imp (fun hmem => ?_) id
            obtain ⟨row, hrow, hmem⟩ := hmem
            exact ⟨row, List.mem_cons_of_mem _ hrow, hmem⟩

/-- A code point in no row is its own image. -/
theorem image_eq_self {rows : Table.Rows} {n : Nat} (h : ∀ row ∈ rows, ¬ InRow row n) :
    image rows n = n := by
  induction rows with
  | nil => rfl
  | cons row rest ih =>
      obtain ⟨first, last, step, target⟩ := row
      rw [image]
      split
      · rfl
      · next hfirst =>
          rw [if_neg fun hrow => h _ List.mem_cons_self ⟨by omega, hrow.1, hrow.2⟩]
          exact ih fun row hrow => h row (List.mem_cons_of_mem _ hrow)

/-- Whether no image from one row stands in another, seen from the ends and the steps of the
rows: the images lie outside it, or between its members. -/
def apart (row other : Nat × Nat × Nat × Nat) : Bool :=
  Nat.blt other.2.1 row.2.2.2 || Nat.blt (row.2.2.2 + (row.2.1 - row.1)) other.1 ||
    ((Nat.beq row.1 row.2.1 || Nat.beq row.2.2.1 other.2.2.1) &&
      !Nat.beq (row.2.2.2 % other.2.2.1) (other.1 % other.2.2.1))

/-- Rows that are apart share no images. -/
theorem not_inRow_of_apart {row other : Nat × Nat × Nat × Nat} (h : apart row other) {n : Nat}
    (hn : InRow row n) : ¬ InRow other (row.2.2.2 + (n - row.1)) := by
  obtain ⟨first, last, step, target⟩ := row
  obtain ⟨first', last', step', target'⟩ := other
  obtain ⟨hfirst, hlast, hstep⟩ := hn
  rintro ⟨hfirst', hlast', hstep'⟩
  simp only [apart, Bool.or_eq_true, Bool.and_eq_true, Nat.blt_eq, Nat.beq_eq,
    Bool.not_eq_true', ← Bool.not_eq_true] at h hfirst hlast hstep hfirst' hlast' hstep'
  rcases h with (h | h) | ⟨hsteps, hne⟩
  · omega
  · omega
  · refine hne (Nat.ModEq.symm ?_)
    have hother : first' ≡ target + (n - first) [MOD step'] :=
      (Nat.modEq_iff_dvd' hfirst').mpr (Nat.dvd_of_mod_eq_zero hstep')
    refine hother.trans ?_
    rcases hsteps with rfl | rfl
    · obtain rfl : n = first := by omega
      rw [Nat.sub_self, Nat.add_zero]
    · exact (Nat.modEq_iff_dvd' (Nat.le_add_right _ _)).mpr
        (by simpa using Nat.dvd_of_mod_eq_zero hstep) |>.symm

/-- No image of the table of folding stands in a row of it. -/
theorem apart_fold : (Table.fold.all fun row => Table.fold.all (apart row)) := by decide +kernel

/-- Folding twice is folding once. -/
@[simp] theorem foldCode_foldCode (n : Nat) : foldCode (foldCode n) = foldCode n := by
  unfold foldCode
  rcases exists_row_of_image Table.fold n with ⟨row, hrow, hn, himage⟩ | heq
  · rw [himage]
    refine image_eq_self fun other hother => not_inRow_of_apart ?_ hn
    exact List.all_eq_true.mp (List.all_eq_true.mp apart_fold row hrow) other hother
  · rw [heq, heq]

/-- **Orbits.** The orbit of a code point holds those that fold as it does. -/
theorem mem_orbit_iff {m n : Nat} : m ∈ orbit n ↔ foldCode m = foldCode n := by
  unfold orbit
  rw [List.mem_cons]
  constructor
  · rintro (rfl | hmem)
    · exact foldCode_foldCode n
    · exact image_of_mem_sources ordered_fold hmem
  · intro h
    rcases mem_sources_image Table.fold m with hmem | heq
    · refine Or.inr ?_
      rw [← h]
      exact hmem
    · exact Or.inl (heq.symm.trans h)

/-! ### Code points without case -/

/-- Whether a code point is the only one that folds as it does. -/
def isAlone (n : Nat) : Bool := (orbit n).all (· == n)

/-- A code point without case folds like no other one. -/
theorem eq_of_foldCode_eq {m n : Nat} (hn : isAlone n) (h : foldCode m = foldCode n) : m = n :=
  eq_of_beq (List.all_eq_true.mp hn m (mem_orbit_iff.mpr h))

end Switchboard.Unicode.Case

namespace Switchboard.Unicode

/-- **The closure under folding** holds what folds like a member. -/
theorem CharSet.contains_folded {s : CharSet} {n : Nat} :
    (CharSet.folded s).contains n ↔ ∃ m, s.contains m ∧ Case.foldCode m = Case.foldCode n := by
  rw [contains, List.any_eq_true]
  simp only [Case.mem_orbit_iff, and_comm]

/-- A code point of some runs is in one of their intervals. -/
theorem Runs.exists_of_contains {runs : Runs} {n : Nat} (h : runs.contains n) :
    ∃ run ∈ runs, run.1 ≤ n ∧ n ≤ run.2.1 := by
  induction runs with
  | nil => simp [contains] at h
  | cons run rest ih =>
      obtain ⟨first, last, step⟩ := run
      rw [contains] at h
      split at h
      · simp at h
      · next hfirst =>
          rw [Bool.or_eq_true, Bool.and_eq_true, decide_eq_true_eq] at h
          rcases h with ⟨hlast, -⟩ | h
          · exact ⟨_, List.mem_cons_self, by omega, hlast⟩
          · obtain ⟨run, hrun, hn⟩ := ih h
            exact ⟨run, List.mem_cons_of_mem _ hrun, hn⟩

/-- What holds of all code points between the ends of the runs holds of their members. -/
theorem Runs.forall_of_contains (runs : Runs) (p : Nat → Bool)
    (hp : (runs.all fun run => (List.range' run.1 (run.2.1 + 1 - run.1)).all p)) {n : Nat}
    (h : runs.contains n) : p n := by
  obtain ⟨run, hrun, hfirst, hlast⟩ := exists_of_contains h
  refine List.all_eq_true.mp (List.all_eq_true.mp hp run hrun) n ?_
  rw [List.mem_range'_1]
  omega

end Switchboard.Unicode

namespace Switchboard.Text

/-- White space has no case. -/
theorem isAlone_of_isBlank {c : Char} (h : isBlank c) : Unicode.Case.isAlone c.toNat :=
  Unicode.Runs.forall_of_contains Unicode.Property.whiteSpace Unicode.Case.isAlone
    (by decide +kernel) h

end Switchboard.Text
