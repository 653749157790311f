import Switchboard.Proofs.Pattern.Picking
import Switchboard.Proofs.Pattern.Reading

/-!
# Groups without a name

A group without a name records a span that no name leads to. This module takes such groups away,
once from trees, where the group stays and ceases to record (`Tree.ungroup`), and once from
expressions, where it is gone (`Expr.ungroup`). The two agree (`ofTree_ungroup`), and what is left
matches as before: the same positions are reached (`back_ungroup`), and the preferred way is the
same, with the same spans for the groups that have names (`pick_ungroup`).

## Main results

* `search_ungroup`: what is found without the groups is what is found with them.
* `ofTree_ungroup`: the meaning of a tree without the groups.
* `compile_ungroup`, `isMatch_ungroup`, `groups?_ungroup`: compiled patterns with and without the
  groups.
-/

namespace Switchboard.Pattern

/-- An expression without its groups that have no name. -/
def Expr.ungroup {α : Type} : Expr α → Expr α
  | .empty => .empty
  | .atom a => .atom a
  | .capture none e => e.ungroup
  | .capture (some name) e => .capture name e.ungroup
  | .cat e f => .cat e.ungroup f.ungroup
  | .alt e f => .alt e.ungroup f.ungroup
  | .opt greedy e => .opt greedy e.ungroup
  | .loop greedy e => .loop greedy e.ungroup
  | .times n e => .times n e.ungroup
  | .upTo n greedy e => .upTo n greedy e.ungroup

/-- Ungrouping and renaming atoms may be exchanged. -/
theorem Expr.ungroup_map {α β : Type} (f : α → β) (e : Expr α) :
    (e.map f).ungroup = e.ungroup.map f := by
  induction e with
  | capture name e ih => cases name <;> simp [map, ungroup, ih]
  | _ => simp_all [map, ungroup]

namespace Match

/-! ### Reaching positions -/

/-- The positions from which an expression reaches others do not depend on its groups. -/
theorem back_ungroup (n : Nat) (e : Expr Move) : back n e.ungroup = back n e := by
  induction e with
  | empty => rfl
  | atom move => rfl
  | capture name e ih => cases name <;> exact funext fun s => congrFun ih s
  | cat e f ihe ihf => exact funext fun s => by simp only [Expr.ungroup, back, ihe, ihf]
  | alt e f ihe ihf => exact funext fun s => by simp only [Expr.ungroup, back, ihe, ihf]
  | opt greedy e ih => exact funext fun s => by simp only [Expr.ungroup, back, ih]
  | loop greedy e ih => exact funext fun s => by simp only [Expr.ungroup, back, ih]
  | times k e ih => exact funext fun s => by simp only [Expr.ungroup, back, ih]
  | upTo k greedy e ih => exact funext fun s => by simp only [Expr.ungroup, back, ih]

/-! ### Preferred ways -/

/-- The spans of the groups that have a name. -/
def Spans.named (spans : Spans) : Spans := spans.filter (·.1.isSome)

/-- A way with the spans of the groups that have a name. -/
def Way.named (way : Way) : Way := way.map fun (j, spans) => (j, Spans.named spans)

namespace Way

/-- Stopping records nothing that could be dropped. -/
@[simp] theorem named_stop (i : Nat) (s : Positions) : named (stop i s) = stop i s := by
  unfold stop
  split <;> rfl

/-- Spans are dropped on each way of a choice. -/
@[simp] theorem named_orElse (first : Way) (second : Unit → Way) :
    named (orElse first second) = orElse (named first) fun _ => named (second ()) := by
  cases first <;> rfl

/-- Spans are dropped on each way of a sequence. -/
@[simp] theorem named_andThen (first : Way) (second : Nat → Way) :
    named (andThen first second) = andThen (named first) fun j => named (second j) := by
  cases first with
  | none => rfl
  | some way =>
      obtain ⟨j, spans⟩ := way
      cases hsecond : second j with
      | none => simp [named, andThen, hsecond]
      | some way => simp [named, andThen, hsecond, Spans.named]

/-- Spans are dropped on a way that may be left out. -/
@[simp] theorem named_wayOrStop (greedy : Bool) (i : Nat) (s : Positions) (way : Unit → Way) :
    named (wayOrStop greedy i s way) = wayOrStop greedy i s fun _ => named (way ()) := by
  cases greedy <;> simp [wayOrStop]

/-- Spans are dropped on whichever way is taken. -/
@[simp] theorem named_ite (p : Prop) [Decidable p] (way way' : Way) :
    named (if p then way else way') = if p then named way else named way' :=
  apply_ite named p way way'

section Repetition

variable {one one' : Nat → Positions → Way} (hone : ∀ i s, one' i s = named (one i s))

include hone

/-- **Loops** without groups record the named spans. -/
theorem named_again (greedy : Bool) (s t : Positions) (fuel i : Nat) :
    named (again one greedy s t fuel i) = again one' greedy s t fuel i := by
  induction fuel generalizing i with
  | zero => exact named_stop i s
  | succ fuel ih => simp only [again, named_wayOrStop, named_andThen, ih, hone]

/-- A fixed number of repetitions without groups records the named spans. -/
theorem named_pickTimes (step : Positions → Positions) (s : Positions) (k i : Nat) :
    named (pickTimes one step s k i) = pickTimes one' step s k i := by
  induction k generalizing i with
  | zero => exact named_stop i s
  | succ k ih => simp only [pickTimes, named_andThen, ih, hone]

/-- A bounded number of repetitions without groups records the named spans. -/
theorem named_pickUpTo (step : Positions → Positions) (greedy : Bool) (s : Positions) (k i : Nat) :
    named (pickUpTo one step greedy s k i) = pickUpTo one' step greedy s k i := by
  induction k generalizing i with
  | zero => exact named_stop i s
  | succ k ih => simp only [pickUpTo, named_wayOrStop, named_andThen, ih, hone]

end Repetition

end Way

open Way in
/-- **Preferences.** The preferred way does not depend on groups without a name; the others record
the same spans. -/
theorem pick_ungroup (n : Nat) (e : Expr Move) (i : Nat) (s : Positions) :
    pick n e.ungroup i s = (pick n e i s).named := by
  induction e generalizing i s with
  | empty => exact (named_stop i s).symm
  | atom move =>
      cases move with
      | step places => rw [Expr.ungroup, pick, named_ite, named_stop]; rfl
      | stay places => rw [Expr.ungroup, pick, named_ite, named_stop]; rfl
  | capture name e ih =>
      cases name with
      | none =>
          rw [Expr.ungroup, ih, pick, named, named, Option.map_map]
          refine congrArg (Option.map · _) (funext fun way => ?_)
          simp [Spans.named]
      | some name =>
          rw [Expr.ungroup, pick, pick, ih, named, named, Option.map_map, Option.map_map]
          refine congrArg (Option.map · _) (funext fun way => ?_)
          simp [Spans.named]
  | cat e f ihe ihf => simp only [Expr.ungroup, pick, named_andThen, ihe, ihf, back_ungroup]
  | alt e f ihe ihf => simp only [Expr.ungroup, pick, named_orElse, ihe, ihf]
  | opt greedy e ih => simp only [Expr.ungroup, pick, named_wayOrStop, ih]
  | loop greedy e ih =>
      simp only [Expr.ungroup, pick, named_andThen, named_ite, named_stop, ih, back_ungroup,
        named_again ih]
  | times k e ih => simp only [Expr.ungroup, pick, named_pickTimes ih, back_ungroup]
  | upTo k greedy e ih => simp only [Expr.ungroup, pick, named_pickUpTo ih, back_ungroup]

/-! ### Searching -/

/-- **Matches** are found without groups, too. -/
theorem found_ungroup (e : Expr Atom) (text : List Char) : found e.ungroup text = found e text := by
  rw [found, found, ← Expr.ungroup_map, back_ungroup]

/-- **Searching.** What is found does not depend on groups without a name. -/
theorem search_ungroup (e : Expr Atom) (text : List Char) :
    search e.ungroup text =
      (search e text).map fun (i, j, spans) => (i, j, Spans.named spans) := by
  simp only [search, ← Expr.ungroup_map, back_ungroup]
  split
  · rfl
  · rw [pick_ungroup, Way.named, Option.map_map, Option.map_map]
    rfl

end Match

/-! ### Trees -/

/-- The kind of a group that does not record its span unless it has a name. -/
def GroupKind.ungroup : GroupKind → GroupKind
  | .capturing => .flagged []
  | kind => kind

mutual

/-- A tree whose groups record no spans unless they have a name. -/
def Tree.ungroup : Tree → Tree
  | .repetition min max greedy tree => .repetition min max greedy tree.ungroup
  | .group kind tree => .group kind.ungroup tree.ungroup
  | .alternation trees => .alternation (Tree.ungroups trees)
  | .concat trees => .concat (Tree.ungroups trees)
  | tree => tree

/-- Some trees whose groups record no spans unless they have a name. -/
def Tree.ungroups : List Tree → List Tree
  | [] => []
  | tree :: rest => tree.ungroup :: Tree.ungroups rest

end

/-- Trees are ungrouped one by one. -/
theorem Tree.ungroups_eq_map (trees : List Tree) : Tree.ungroups trees = trees.map Tree.ungroup := by
  induction trees with
  | nil => rfl
  | cons tree rest ih => rw [Tree.ungroups, ih, List.map_cons]

mutual

/-- Groups keep their depth. -/
theorem Parse.depth_ungroup (tree : Tree) : depth tree.ungroup = depth tree := by
  cases tree with
  | repetition min max greedy tree => simp only [Tree.ungroup, depth, depth_ungroup tree]
  | group kind tree => simp only [Tree.ungroup, depth, depth_ungroup tree]
  | alternation trees => simp only [Tree.ungroup, depth, depths_ungroups trees]
  | concat trees => simp only [Tree.ungroup, depth, depths_ungroups trees]
  | _ => rfl

/-- Nothing is nested more or less deeply. -/
theorem Parse.depths_ungroups (trees : List Tree) : depths (Tree.ungroups trees) = depths trees := by
  cases trees with
  | nil => rfl
  | cons tree rest =>
      simp only [Tree.ungroups, depths, depth_ungroup tree, depths_ungroups rest]

end

/-! ### Meaning -/

namespace Expr

variable {α : Type}

/-- Ungrouping goes through the meaning of a sequence. -/
theorem ungroup_concat (es : List (Expr α)) : (concat es).ungroup = concat (es.map ungroup) := by
  induction es with
  | nil => rfl
  | cons e es ih =>
      cases es with
      | nil => rfl
      | cons f es => simp only [concat, ungroup, ih, List.map_cons]

/-- Ungrouping goes through the meaning of a choice. -/
theorem ungroup_choice (es : List (Expr α)) : (choice es).ungroup = choice (es.map ungroup) := by
  induction es with
  | nil => rfl
  | cons e es ih =>
      cases es with
      | nil => rfl
      | cons f es => simp only [choice, ungroup, ih, List.map_cons]

/-- Ungrouping goes through the meaning of a repetition. -/
theorem ungroup_rep (min : Nat) (max : Option Nat) (greedy : Bool) (e : Expr α) :
    (rep min max greedy e).ungroup = rep min max greedy e.ungroup := by
  cases max <;> simp only [rep] <;> split_ifs <;> rfl

end Expr

namespace Meaning

/-- What matches the empty text only does so without groups. -/
theorem isEmptyOnly_ungroup (e : Expr Atom) : isEmptyOnly e.ungroup = isEmptyOnly e := by
  induction e with
  | capture name e ih => cases name <;> exact ih
  | atom a => rfl
  | _ => simp_all [Expr.ungroup, isEmptyOnly]

/-- A repetition of what matches the empty text only is dropped with its groups and without them. -/
theorem ungroup_repeated (least : Nat) (greatest : Option Nat) (greedy : Bool) (e : Expr Atom) :
    (repeated least greatest greedy e).ungroup = repeated least greatest greedy e.ungroup := by
  rw [repeated, repeated, isEmptyOnly_ungroup]
  split <;> exact Expr.ungroup_rep ..

mutual

/-- **Meaning.** A tree whose groups record no spans means what it meant, without these groups. -/
theorem ofTree_ungroup (mode : Mode) (tree : Tree) :
    ofTree mode tree.ungroup = (ofTree mode tree).map fun (e, mode) => (e.ungroup, mode) := by
  cases tree with
  | empty => rfl
  | flags items => rfl
  | assertion a => rfl
  | literal l =>
      simp only [Tree.ungroup, ofTree]
      cases checkByte mode l <;> rfl
  | dot =>
      simp only [Tree.ungroup, ofTree]
      split <;> rfl
  | property query negated =>
      simp only [Tree.ungroup, ofTree]
      cases property mode query negated <;> rfl
  | perl cls negated =>
      simp only [Tree.ungroup, ofTree]
      cases perl mode cls negated <;> rfl
  | brackets negated content =>
      simp only [Tree.ungroup, ofTree, bind, Except.bind]
      cases classSet mode content with
      | error fault => rfl
      | ok set =>
          dsimp only
          cases foldAndNegate mode negated set <;> rfl
  | repetition min max greedy tree =>
      rw [Tree.ungroup, ofTree, ofTree, ofTree_ungroup mode tree]
      cases ofTree mode tree with
      | error fault => rfl
      | ok result =>
          obtain ⟨e, mode⟩ := result
          exact congrArg (fun e => Except.ok (e, mode)) (ungroup_repeated ..).symm
  | group kind tree =>
      cases kind with
      | capturing =>
          have hchange : mode.change [] = mode := rfl
          simp only [Tree.ungroup, GroupKind.ungroup, ofTree, hchange, ofTree_ungroup mode tree]
          cases ofTree mode tree <;> rfl
      | named name =>
          simp only [Tree.ungroup, GroupKind.ungroup, ofTree, ofTree_ungroup mode tree]
          cases ofTree mode tree <;> rfl
      | flagged items =>
          simp only [Tree.ungroup, GroupKind.ungroup, ofTree,
            ofTree_ungroup (mode.change items) tree]
          cases ofTree (mode.change items) tree <;> rfl
  | alternation trees =>
      rw [Tree.ungroup, ofTree, ofTree, ofTrees_ungroups mode trees]
      cases ofTrees mode trees with
      | error fault => rfl
      | ok result =>
          obtain ⟨es, mode⟩ := result
          exact congrArg (fun e => Except.ok (e, mode)) (Expr.ungroup_choice es).symm
  | concat trees =>
      rw [Tree.ungroup, ofTree, ofTree, ofTrees_ungroups mode trees]
      cases ofTrees mode trees with
      | error fault => rfl
      | ok result =>
          obtain ⟨es, mode⟩ := result
          exact congrArg (fun e => Except.ok (e, mode)) (Expr.ungroup_concat es).symm

/-- **The meaning** of trees without groups is that of the trees, without groups. -/
theorem ofTrees_ungroups (mode : Mode) (trees : List Tree) :
    ofTrees mode (Tree.ungroups trees) =
      (ofTrees mode trees).map fun (es, mode) => (es.map Expr.ungroup, mode) := by
  cases trees with
  | nil => rfl
  | cons tree rest =>
      rw [Tree.ungroups, ofTrees, ofTrees, ofTree_ungroup mode tree]
      cases ofTree mode tree with
      | error fault => rfl
      | ok result =>
          obtain ⟨e, mode⟩ := result
          simp only [bind, Except.bind, Except.map, ofTrees_ungroups mode rest]
          cases ofTrees mode rest <;> rfl

end

end Meaning

/-! ### Size -/

namespace Size

/-- Without some of its groups an expression is no larger. -/
theorem ofExpr_ungroup_le (set : Unicode.CharSet → Nat) (e : Expr Atom) :
    ofExpr set e.ungroup ≤ ofExpr set e := by
  induction e with
  | empty => exact Nat.le_refl _
  | atom a => exact Nat.le_refl _
  | capture name e ih =>
      cases name with
      | none => exact ih.trans (Nat.le_add_right _ _)
      | some name => exact Nat.add_le_add_right ih _
  | cat e f ihe ihf => exact Nat.add_le_add ihe ihf
  | alt e f ihe ihf =>
      simp only [Expr.ungroup, ofExpr]
      omega
  | opt greedy e ih =>
      simp only [Expr.ungroup, ofExpr]
      omega
  | loop greedy e ih =>
      simp only [Expr.ungroup, ofExpr]
      omega
  | times n e ih => exact Nat.mul_le_mul_left n ih
  | upTo n greedy e ih =>
      have hone : ofExpr set e.ungroup + state + 8 ≤ ofExpr set e + state + 8 := by omega
      exact Nat.add_le_add_right (Nat.mul_le_mul_left n hone) state

/-- A pattern does not grow by losing its groups. -/
theorem fits_ungroup {limit : Nat} {e : Expr Atom} (h : fits limit e) : fits limit e.ungroup := by
  simp only [fits, Bool.or_eq_true, decide_eq_true_eq] at h ⊢
  exact h.imp (ofExpr_ungroup_le quick e).trans (ofExpr_ungroup_le ofSet e).trans

end Size

/-! ### Compiled patterns -/

/-- **Compilation.** A source that is read as the tree of another one, except for what groups record,
is compiled to the expression without these groups, unless the other one is too large. -/
theorem compile_ungroup {source source' : String}
    (htree : Parse.tree source'.toList = (Parse.tree source.toList).map Tree.ungroup)
    (hsize : compile source ≠ .error .tooLarge) :
    compile source' = (compile source).map fun pattern => ⟨source', pattern.expr.ungroup⟩ := by
  unfold compile at hsize ⊢
  rw [htree]
  cases hread : Parse.tree source.toList with
  | error fault => rfl
  | ok tree =>
      simp only [hread, Except.map, bind, Except.bind, Meaning.ofTree_ungroup] at hsize ⊢
      cases hmeaning : Meaning.ofTree .initial tree with
      | error fault => rfl
      | ok result =>
          simp only [hmeaning] at hsize ⊢
          by_cases hfits : Size.fits sizeLimit result.1
          · rw [if_pos hfits, if_pos (Size.fits_ungroup hfits)]
            rfl
          · exact absurd (if_neg hfits) hsize

/-- Whether a text is matched does not depend on groups without a name. -/
theorem isMatch_ungroup (pattern : Pattern) (source : String) (text : List Char) :
    isMatch ⟨source, pattern.expr.ungroup⟩ text = pattern.isMatch text :=
  Match.found_ungroup pattern.expr text

/-- Looking up a name passes over groups without one. -/
theorem Groups.get?_filter (groups : Groups) :
    get? (groups.filter (·.1.isSome)) = groups.get? := by
  funext name
  simp only [get?, List.find?_filter]
  congr 2
  funext group
  by_cases hgroup : group.1 = some name <;> simp [hgroup]

/-- **Names.** What is found under a name does not depend on groups without one. -/
theorem groups?_ungroup (pattern : Pattern) (source : String) (text : List Char) :
    (groups? ⟨source, pattern.expr.ungroup⟩ text).map Groups.get? =
      (pattern.groups? text).map Groups.get? := by
  rw [groups?, groups?, Match.search_ungroup, Option.map_map, Option.map_map, Option.map_map]
  refine congrArg (Option.map · _) (funext fun (i, j, spans) => ?_)
  simp only [Function.comp_apply, Match.Spans.named, ← List.filter_reverse]
  rw [← Groups.get?_filter (List.map _ spans.reverse), List.filter_map]
  rfl

end Switchboard.Pattern
