import Mathlib.Tactic
import Switchboard.Pattern.Parse

/-!
# Reading patterns piece by piece

The pass over a pattern carries fuel, which exceeds the length of what is left.
`Reads state cs state' cs'` says that the pass comes from one state to another without
using more fuel than it consumes characters; such stretches compose, and a pattern that is
read to its end by them is read by `Parse.tree` whatever fuel is left (`tree_of_reads`).
What a piece of a pattern is read as can then be stated piece by piece.

## Convention

White space counts throughout: only states that do not skip it occur here.

## Main results

* `reads_plain`: characters without a meaning of their own are read as themselves.
* `reads_opening`: the beginning of a group with a name.
* `tree_of_reads`: a pattern that is read to its end.
-/

namespace Switchboard.Pattern.Parse

/-- The pass comes from one state to another, with no more steps than characters it reads. -/
def Reads (state : State) (cs : List Char) (state' : State) (cs' : List Char) : Prop :=
  ∃ k, k + cs'.length ≤ cs.length ∧ ∀ fuel, loop (fuel + k) state cs = loop fuel state' cs'

namespace Reads

variable {state state' state'' : State} {cs cs' cs'' : List Char}

/-- Nothing is read. -/
theorem refl (state : State) (cs : List Char) : Reads state cs state cs :=
  ⟨0, by simp, fun _ => rfl⟩

/-- Reading goes on. -/
theorem trans (h : Reads state cs state' cs') (h' : Reads state' cs' state'' cs'') :
    Reads state cs state'' cs'' := by
  obtain ⟨k, hk, hloop⟩ := h
  obtain ⟨k', hk', hloop'⟩ := h'
  refine ⟨k + k', by omega, fun fuel => ?_⟩
  have hfuel : fuel + (k + k') = fuel + k' + k := by omega
  rw [hfuel, hloop, hloop']

/-- A single step, where white space counts. -/
theorem of_step {c : Char} (hignoring : state.ignoring = false)
    (hstep : step state c cs = .ok (state', cs')) (hlength : cs'.length ≤ cs.length) :
    Reads state (c :: cs) state' cs' := by
  refine ⟨1, by simp only [List.length_cons]; omega, fun fuel => ?_⟩
  rw [loop, hignoring, skip, if_neg Bool.false_ne_true]
  simp only [hstep]
  rfl

end Reads

/-- At the end of the pattern the fuel that is left does not count. -/
theorem loop_nil (fuel : Nat) (state : State) (h : state.ignoring = false) :
    loop fuel state [] = state.finish := by
  cases fuel with
  | zero => rfl
  | succ fuel => rw [loop, h, skip, if_neg Bool.false_ne_true]

/-- A pattern that is read to its end, and is not nested too deep. -/
theorem tree_of_reads {cs : List Char} {state : State} {tree : Tree}
    (h : Reads ⟨[], [], false, []⟩ cs state []) (hignoring : state.ignoring = false)
    (hfinish : state.finish = .ok tree) (hdepth : depth tree ≤ nestLimit) :
    Parse.tree cs = .ok tree := by
  obtain ⟨k, hk, hloop⟩ := h
  simp only [List.length_nil, Nat.add_zero] at hk
  have hfuel : cs.length + 1 = (cs.length + 1 - k) + k := by omega
  rw [Parse.tree, hfuel, hloop, loop_nil _ _ hignoring, hfinish]
  exact if_pos hdepth

/-! ### Plain text -/

/-- The characters with a meaning of their own where they stand in a pattern. -/
def metacharacters : List Char :=
  ['\\', '.', '+', '*', '?', '(', ')', '|', '[', ']', '\x7b', '\x7d', '^', '$']

/-- A character without a meaning of its own is read as itself. -/
theorem step_plain (state : State) {c : Char} (hc : c ∉ metacharacters) (cs : List Char) :
    step state c cs = .ok ({ state with items := .literal ⟨c, false⟩ :: state.items }, cs) := by
  unfold step
  split <;> first | rfl | exact absurd (by decide) hc

/-- The items that plain text is read as. -/
def plainItems (text : List Char) : List Tree := text.map fun c => .literal ⟨c, false⟩

/-- **Plain text** is read as itself. -/
theorem reads_plain (stack : List Frame) (items : List Tree) (names : List String)
    {text : List Char} (htext : ∀ c ∈ text, c ∉ metacharacters) (rest : List Char) :
    Reads ⟨stack, items, false, names⟩ (text ++ rest)
      ⟨stack, (plainItems text).reverse ++ items, false, names⟩ rest := by
  induction text generalizing items with
  | nil => exact Reads.refl _ _
  | cons c text ih =>
      have hstep := step_plain ⟨stack, items, false, names⟩
        (htext c List.mem_cons_self) (text ++ rest)
      refine (Reads.of_step rfl hstep (Nat.le_refl _)).trans ?_
      have hrest := ih (.literal ⟨c, false⟩ :: items)
        fun d hd => htext d (List.mem_cons_of_mem _ hd)
      simpa [plainItems] using hrest

/-! ### Groups with a name -/

/-- A name that a group may have. -/
def IsName : List Char → Prop
  | [] => False
  | c :: rest => isNameChar true c ∧ ∀ d ∈ rest, isNameChar false d

/-- The closing bracket of a name is no part of it. -/
theorem not_isNameChar_close (first : Bool) : isNameChar first '>' = false := by
  cases first <;> decide +kernel

/-- A name is read up to its closing angle bracket. -/
theorem groupName_append {first : Bool} {name rest : List Char}
    (hfirst : ∀ c, name.head? = some c → isNameChar first c)
    (htail : ∀ c ∈ name.tail, isNameChar false c) :
    groupName first (name ++ '>' :: rest) = .ok (name, rest) := by
  induction name generalizing first with
  | nil => rfl
  | cons c name ih =>
      have hc : isNameChar first c := hfirst c rfl
      have hne : c ≠ '>' := by
        rintro rfl
        rw [not_isNameChar_close] at hc
        exact absurd hc Bool.false_ne_true
      have hrest : groupName false (name ++ '>' :: rest) = .ok (name, rest) := ih
        (fun d hd => htail d (List.mem_of_head? hd))
        (fun d hd => htail d (List.mem_of_mem_tail hd))
      rw [List.cons_append, groupName, if_neg hne, if_pos hc, hrest]
      rfl

/-- **A named group** opens, if its name is new. -/
theorem groupStart_named {name rest : List Char} {names : List String} (hname : IsName name)
    (hnew : String.ofList name ∉ names) :
    groupStart false names ('?' :: 'P' :: '<' :: (name ++ '>' :: rest)) =
      .ok (.group (.named (String.ofList name)), rest) := by
  cases name with
  | nil => exact hname.elim
  | cons c name =>
      have hread : groupName true (c :: name ++ '>' :: rest) = .ok (c :: name, rest) :=
        groupName_append (fun d hd => by obtain rfl : c = d := by simpa using hd
                                         exact hname.1) hname.2
      have hcontains : names.contains (String.ofList (c :: name)) = false := by
        simpa using hnew
      simp only [groupStart, skip, if_neg Bool.false_ne_true]
      rw [hread]
      simp only [bind, Except.bind, List.isEmpty_cons, if_neg Bool.false_ne_true, hcontains]
      rfl

/-- **The beginning of a group with a name**, which no group before it has. -/
theorem reads_opening (stack : List Frame) (items : List Tree) {names : List String}
    {name : List Char} (hname : IsName name) (hnew : String.ofList name ∉ names)
    (rest : List Char) :
    Reads ⟨stack, items, false, names⟩ ('(' :: '?' :: 'P' :: '<' :: (name ++ '>' :: rest))
      ⟨.group items (.named (String.ofList name)) false :: stack, [], false,
        String.ofList name :: names⟩ rest := by
  refine Reads.of_step rfl ?_ (by simp only [List.length_cons, List.length_append]; omega)
  simp only [step, groupStart_named hname hnew]
  rfl

end Switchboard.Pattern.Parse
