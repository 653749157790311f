import Switchboard.Proofs.Pattern.Ungrouping

/-!
# Groups that are marked not to record

A group whose opening parenthesis carries the mark `?:` records no span. Text of plain characters,
parentheses and bars can be marked throughout (`markChar`): every opening parenthesis gets the mark,
and nothing else changes. The marked text is read in lockstep with the text as it is. Wherever the
pass stands, it stands at the same place of the marked text, with the same groups open and the same
items read, except that no group without a name records (`State.ungroup`); and it stops for the same
fault.

Two remainders of patterns that are read in lockstep `Mirror` each other. A remainder in front of
which text is written keeps this property when the text is marked (`mirror_text`). There is one
thing to watch: a parenthesis at the end of the text must not be followed by a question mark, which
would make it the beginning of something else.

## Convention

As in the reading of plain text, white space counts throughout; here this has to be said of the open
groups as well (`State.Counts`), since a group restores what was in force in front of it.

## Main results

* `mirror_text`: text may be marked.
* `tree_of_mirror`: patterns that mirror each other are read as trees that differ in what their
  groups record.
-/

namespace Switchboard.Pattern.Parse

/-! ### States -/

/-- A frame whose groups record no spans unless they have a name. -/
def Frame.ungroup : Frame → Frame
  | .group before kind ignoring => .group (before.map Tree.ungroup) kind.ungroup ignoring
  | .branches complete => .branches (complete.map Tree.ungroup)

/-- A state whose groups record no spans unless they have a name. -/
def State.ungroup (state : State) : State :=
  { state with stack := state.stack.map Frame.ungroup, items := state.items.map Tree.ungroup }

/-- Ungrouping goes through sequences. -/
theorem ofConcat_map_ungroup (trees : List Tree) :
    Tree.ofConcat (trees.map Tree.ungroup) = (Tree.ofConcat trees).ungroup := by
  match trees with
  | [] => rfl
  | [tree] => rfl
  | tree :: tree' :: rest =>
      exact congrArg Tree.concat (Tree.ungroups_eq_map (tree :: tree' :: rest)).symm

namespace State

/-- A branch ends in the same way without groups. -/
theorem ungroup_endBranch (state : State) : state.ungroup.endBranch = state.endBranch.ungroup := by
  obtain ⟨stack, items, ignoring, names⟩ := state
  have hbranch := ofConcat_map_ungroup items.reverse
  rw [List.map_reverse] at hbranch
  match stack with
  | [] => simp [endBranch, ungroup, hbranch, Frame.ungroup]
  | .group before kind restored :: stack => simp [endBranch, ungroup, hbranch, Frame.ungroup]
  | .branches complete :: stack => simp [endBranch, ungroup, hbranch, Frame.ungroup]

/-- The innermost group opens at the same place. -/
theorem ungroup_innermost (state : State) :
    state.ungroup.innermost =
      (state.innermost.1.ungroup, state.innermost.2.map Frame.ungroup) := by
  obtain ⟨stack, items, ignoring, names⟩ := state
  have hbranch := ofConcat_map_ungroup items.reverse
  rw [List.map_reverse] at hbranch
  match stack with
  | [] => simp [innermost, ungroup, hbranch]
  | .group before kind restored :: stack => simp [innermost, ungroup, hbranch, Frame.ungroup]
  | .branches complete :: stack =>
      simp [innermost, ungroup, hbranch, Frame.ungroup, Tree.ungroup, Tree.ungroups_eq_map]

/-- A group ends in the same way. -/
theorem ungroup_endGroup (state : State) :
    state.ungroup.endGroup = state.endGroup.map State.ungroup := by
  rw [endGroup, endGroup, ungroup_innermost]
  match state.innermost with
  | (tree, []) => rfl
  | (tree, .branches complete :: stack) => rfl
  | (tree, .group before kind restored :: stack) => rfl

/-- **The end of a pattern** gives the same tree, apart from its groups. -/
theorem ungroup_finish (state : State) :
    state.ungroup.finish = state.finish.map Tree.ungroup := by
  rw [finish, finish, ungroup_innermost]
  match state.innermost with
  | (tree, []) => rfl
  | (tree, frame :: stack) => rfl

/-- White space counts, now and behind every group that is open. -/
def Counts (state : State) : Prop :=
  state.ignoring = false ∧
    ∀ before kind ignoring, .group before kind ignoring ∈ state.stack → ignoring = false

/-- The count of groups is right at the end of a branch. -/
theorem Counts.endBranch {state : State} (h : state.Counts) : state.endBranch.Counts := by
  obtain ⟨stack, items, ignoring, names⟩ := state
  obtain ⟨hignoring, hstack⟩ := h
  match stack with
  | [] => exact ⟨hignoring, by simp [State.endBranch]⟩
  | .group before kind restored :: stack =>
      exact ⟨hignoring, by simpa [State.endBranch] using hstack⟩
  | .branches complete :: stack =>
      exact ⟨hignoring, by simpa [State.endBranch] using hstack⟩

/-- No name is given there. -/
theorem names_endBranch (state : State) : state.endBranch.names = state.names := by
  rw [endBranch]
  split <;> rfl

/-- Behind the innermost group there are the outer ones. -/
theorem innermost_suffix (state : State) : state.innermost.2 <:+ state.stack := by
  rw [innermost]
  split
  · next hstack => exact hstack ▸ List.suffix_cons _ _
  · exact List.suffix_rfl

/-- The count of groups is right at the end of a group. -/
theorem Counts.endGroup {state next : State} (h : state.Counts)
    (hnext : state.endGroup = .ok next) : next.Counts ∧ next.names = state.names := by
  have hsuffix := state.innermost_suffix
  rw [State.endGroup] at hnext
  match hinner : state.innermost with
  | (tree, []) => rw [hinner] at hnext; exact absurd hnext (by simp)
  | (tree, .branches complete :: stack) => rw [hinner] at hnext; exact absurd hnext (by simp)
  | (tree, .group before kind restored :: stack) =>
      rw [hinner] at hnext hsuffix
      obtain rfl := Except.ok.inj hnext
      exact ⟨⟨h.2 _ _ _ (hsuffix.mem List.mem_cons_self),
        fun _ _ _ hmem => h.2 _ _ _ (hsuffix.mem (List.mem_cons_of_mem _ hmem))⟩, rfl⟩

end State

/-! ### Lockstep -/

/-- Two remainders of patterns are read in lockstep from a state on: what becomes of the second one,
where no group without a name records, is what becomes of the first one. -/
def Mirror (state : State) (cs cs' : List Char) : Prop :=
  ∀ fuel fuel', cs.length < fuel → cs'.length < fuel' →
    loop fuel' state.ungroup cs' = (loop fuel state cs).map Tree.ungroup

namespace Mirror

variable {state next : State} {cs cs' rest rest' : List Char}

/-- At the end. -/
theorem nil (h : state.ignoring = false) : Mirror state [] [] := fun fuel fuel' _ _ => by
  rw [loop_nil fuel state h, loop_nil fuel' state.ungroup h, State.ungroup_finish]

/-- Both sides go on. -/
theorem of_reads (h : Reads state cs next rest) (h' : Reads state.ungroup cs' next.ungroup rest')
    (hnext : Mirror next rest rest') : Mirror state cs cs' := by
  obtain ⟨k, hk, hloop⟩ := h
  obtain ⟨k', hk', hloop'⟩ := h'
  intro fuel fuel' hfuel hfuel'
  obtain ⟨left, rfl⟩ := Nat.exists_eq_add_of_le' (show k ≤ fuel by omega)
  obtain ⟨left', rfl⟩ := Nat.exists_eq_add_of_le' (show k' ≤ fuel' by omega)
  rw [hloop, hloop']
  exact hnext left left' (by omega) (by omega)

/-- Both sides stop. -/
theorem of_error {c : Char} {fault : Fault} (hignoring : state.ignoring = false)
    (h : step state c cs = .error fault) (h' : step state.ungroup c cs' = .error fault) :
    Mirror state (c :: cs) (c :: cs') := by
  intro fuel fuel' hfuel hfuel'
  obtain ⟨left, rfl⟩ := Nat.exists_eq_add_of_le' (show 1 ≤ fuel by omega)
  obtain ⟨left', rfl⟩ := Nat.exists_eq_add_of_le' (show 1 ≤ fuel' by omega)
  have hignoring' : state.ungroup.ignoring = false := hignoring
  simp only [loop, hignoring, hignoring', skip, if_neg Bool.false_ne_true, h, h']
  rfl

end Mirror

/-- **Trees.** Patterns that are read in lockstep from the beginning on. -/
theorem tree_of_mirror {cs cs' : List Char} (h : Mirror ⟨[], [], false, []⟩ cs cs') :
    tree cs' = (tree cs).map Tree.ungroup := by
  have hloop : loop (cs'.length + 1) ⟨[], [], false, []⟩ cs' = _ :=
    h (cs.length + 1) (cs'.length + 1) (Nat.lt_succ_self _) (Nat.lt_succ_self _)
  rw [tree, tree, hloop]
  cases loop (cs.length + 1) ⟨[], [], false, []⟩ cs with
  | error fault => rfl
  | ok tree =>
      simp only [Except.map, bind, Except.bind, depth_ungroup]
      split <;> rfl

/-! ### Marks -/

/-- The characters that text with groups and alternatives may hold. -/
def IsGroupText (c : Char) : Prop := c ∉ metacharacters ∨ c = '(' ∨ c = ')' ∨ c = '|'

instance (c : Char) : Decidable (IsGroupText c) :=
  inferInstanceAs (Decidable (c ∉ metacharacters ∨ c = '(' ∨ c = ')' ∨ c = '|'))

/-- A character of a text, with a mark not to record behind an opening parenthesis. -/
def markChar (c : Char) : List Char := if c = '(' then ['(', '?', ':'] else [c]

/-- A parenthesis without a mark opens a group that records. -/
theorem groupStart_capturing {names : List String} {cs : List Char} (h : cs.head? ≠ some '?') :
    groupStart false names cs = .ok (.group .capturing, cs) := by
  unfold groupStart
  split <;> simp_all [skip]

/-- A state behind the beginning of a group without a name. -/
def State.opened (state : State) (kind : GroupKind) : State :=
  ⟨.group state.items kind state.ignoring :: state.stack, [], state.ignoring, state.names⟩

/-- The count of groups is right where a group opens. -/
theorem State.Counts.opened {state : State} (h : state.Counts) (kind : GroupKind) :
    (state.opened kind).Counts := by
  refine ⟨h.1, fun before kind ignoring hmem => ?_⟩
  rcases List.mem_cons.mp hmem with heq | hmem
  · exact (Frame.group.inj heq).2.2.trans h.1
  · exact h.2 before kind ignoring hmem

/-- A bracket that no question mark follows opens a group that captures. -/
theorem step_capturing {state : State} {cs : List Char} (hcounts : state.ignoring = false)
    (h : cs.head? ≠ some '?') : step state '(' cs = .ok (state.opened .capturing, cs) := by
  simp only [step, hcounts, groupStart_capturing h]
  rw [State.opened, hcounts]
  rfl

/-- A bracket with the mark opens one that does not. -/
theorem step_marked {state : State} (hcounts : state.ignoring = false) (cs : List Char) :
    step state '(' ('?' :: ':' :: cs) = .ok (state.opened (.flagged []), cs) := by
  have hstart : groupStart false state.names ('?' :: ':' :: cs) =
      .ok (.group (.flagged []), cs) := rfl
  simp only [step, hcounts, hstart]
  rw [State.opened, hcounts]
  rfl

/-- The text that follows a parenthesis in text that may be marked is no mark. -/
theorem head?_append_ne {text rest : List Char} (htext : ∀ c ∈ text, IsGroupText c)
    (hrest : rest.head? ≠ some '?') : (text ++ rest).head? ≠ some '?' := by
  cases text with
  | nil => exact hrest
  | cons c text =>
      have hc := htext c List.mem_cons_self
      rintro heq
      obtain rfl : c = '?' := by simpa using heq
      exact absurd hc (by decide)

/-! ### One character -/

namespace Mirror

variable {state : State} {cs cs' : List Char}

/-- A letter is read in the same way on both sides. -/
theorem plain (hignoring : state.ignoring = false) {c : Char} (hc : c ∉ metacharacters)
    (h : Mirror { state with items := .literal ⟨c, false⟩ :: state.items } cs cs') :
    Mirror state (c :: cs) (c :: cs') := by
  have hstep := step_plain state hc cs
  have hstep' := step_plain state.ungroup hc cs'
  exact .of_reads (.of_step hignoring hstep (Nat.le_refl _))
    (.of_step hignoring hstep' (Nat.le_refl _)) h

/-- A parenthesis that opens a group and gets a mark. -/
theorem opening (hignoring : state.ignoring = false) (hquestion : cs.head? ≠ some '?')
    (h : Mirror (state.opened .capturing) cs cs') :
    Mirror state ('(' :: cs) ('(' :: '?' :: ':' :: cs') := by
  have hignoring' : state.ungroup.ignoring = false := hignoring
  have hstep := step_capturing hignoring hquestion
  have hstep' := step_marked hignoring' cs'
  exact .of_reads (.of_step hignoring hstep (Nat.le_refl _))
    (.of_step hignoring' hstep' (Nat.le_add_right _ 2)) h

/-- A parenthesis that closes a group, or closes nothing on both sides. -/
theorem closing (hignoring : state.ignoring = false)
    (h : ∀ next, state.endGroup = .ok next → Mirror next cs cs') :
    Mirror state (')' :: cs) (')' :: cs') := by
  have hignoring' : state.ungroup.ignoring = false := hignoring
  have hend' := state.ungroup_endGroup
  cases hend : state.endGroup with
  | error fault =>
      rw [hend] at hend'
      exact .of_error hignoring (by simp only [step, hend]; rfl) (by simp only [step, hend']; rfl)
  | ok next =>
      rw [hend] at hend'
      exact .of_reads (.of_step hignoring (by simp only [step, hend]; rfl) (Nat.le_refl _))
        (.of_step hignoring' (by simp only [step, hend']; rfl) (Nat.le_refl _)) (h next hend)

/-- A bar between branches is read in the same way on both sides. -/
theorem bar (hignoring : state.ignoring = false) (h : Mirror state.endBranch cs cs') :
    Mirror state ('|' :: cs) ('|' :: cs') := by
  have hstep' : step state.ungroup '|' cs' = .ok (state.endBranch.ungroup, cs') :=
    congrArg (fun state => Except.ok (state, cs')) state.ungroup_endBranch
  exact .of_reads (.of_step hignoring rfl (Nat.le_refl _))
    (.of_step hignoring hstep' (Nat.le_refl _)) h

end Mirror

/-- **Text** may be marked in front of remainders that mirror each other, unless the first of them
begins with a question mark. -/
theorem mirror_text {text rest rest' : List Char} {names : List String}
    (htext : ∀ c ∈ text, IsGroupText c) (hquestion : rest.head? ≠ some '?')
    (hrest : ∀ state : State, state.Counts → state.names = names → Mirror state rest rest')
    {state : State} (hcounts : state.Counts) (hnames : state.names = names) :
    Mirror state (text ++ rest) (text.flatMap markChar ++ rest') := by
  induction text generalizing state with
  | nil => exact hrest state hcounts hnames
  | cons c text ih =>
      obtain ⟨hc, hmore⟩ := List.forall_mem_cons.mp htext
      rcases hc with hplain | rfl | rfl | rfl
      · have hne : c ≠ '(' := by rintro rfl; exact absurd hplain (by decide)
        rw [List.flatMap_cons, markChar, if_neg hne]
        exact .plain hcounts.1 hplain (ih hmore hcounts hnames)
      · exact .opening hcounts.1 (head?_append_ne hmore hquestion)
          (ih hmore (hcounts.opened .capturing) hnames)
      · rw [List.flatMap_cons, markChar, if_neg (by decide)]
        refine .closing hcounts.1 fun next hend => ?_
        obtain ⟨hnext, hnames'⟩ := hcounts.endGroup hend
        exact ih hmore hnext (hnames'.trans hnames)
      · rw [List.flatMap_cons, markChar, if_neg (by decide)]
        exact .bar hcounts.1 (ih hmore hcounts.endBranch (state.names_endBranch.trans hnames))

end Switchboard.Pattern.Parse
