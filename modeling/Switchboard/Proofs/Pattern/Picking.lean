import Switchboard.Pattern.Compiled
import Switchboard.Proofs.Pattern.Reach

/-!
# What the matcher prefers

`Match.Picks` says that a walk forwards finds a way whenever there is one. This module says
which way it finds, for the expressions where that can be told in advance: a lazy loop over
single characters stops at the first position from which the rest still matches
(`pick_lazy`), and expressions one after the other are walked one by one
(`pick_concat_cons`). Only groups record spans (`recordsOnly_pick`).

## Main results

* `pick_lazy`: lazy loops stop as early as the rest allows.
* `recordsOnly_pick`: the spans on a way belong to groups of the expression.
* `Groups.get?_eq_some`: the text of a group whose name occurs once.
-/

namespace Switchboard.Pattern

/-- The names of the groups in an expression. -/
def Expr.groups {α : Type} : Expr α → List (Option String)
  | .empty | .atom _ => []
  | .capture name e => name :: e.groups
  | .cat e f | .alt e f => e.groups ++ f.groups
  | .opt _ e | .loop _ e | .times _ e | .upTo _ _ e => e.groups

/-- What the atoms stand for has no part in the groups. -/
theorem Expr.groups_map {α β : Type} (f : α → β) (e : Expr α) : (e.map f).groups = e.groups := by
  induction e <;> simp_all [Expr.map, Expr.groups]

namespace Match

/-! ### Groups on the way -/

/-- A way records spans for some groups only. -/
def RecordsOnly (names : List (Option String)) (way : Way) : Prop :=
  ∀ j spans, way = some (j, spans) → ∀ span ∈ spans, span.1 ∈ names

namespace RecordsOnly

variable {names : List (Option String)}

/-- Stopping records nothing. -/
theorem stop (i : Nat) (s : Positions) : RecordsOnly names (stop i s) := by
  intro j spans h
  obtain ⟨-, -, rfl⟩ := stop_eq_some.mp h
  simp

/-- A choice records what one of its ways does. -/
theorem orElse {first : Way} {second : Unit → Way} (h : RecordsOnly names first)
    (h' : RecordsOnly names (second ())) : RecordsOnly names (orElse first second) := by
  intro j spans hway
  rcases orElse_eq_some hway with hway | hway
  · exact h j spans hway
  · exact h' j spans hway

/-- A sequence records what its ways do. -/
theorem andThen {first : Way} {second : Nat → Way} (h : RecordsOnly names first)
    (h' : ∀ j, RecordsOnly names (second j)) : RecordsOnly names (andThen first second) := by
  intro k spans hway
  obtain ⟨j, front, more, hfirst, hsecond, rfl⟩ := andThen_eq_some.mp hway
  intro span hspan
  rcases List.mem_append.mp hspan with hspan | hspan
  · exact h j front hfirst span hspan
  · exact h' j k more hsecond span hspan

/-- A way that may be left out records no more. -/
theorem wayOrStop {greedy : Bool} {i : Nat} {s : Positions} {way : Unit → Way}
    (h : RecordsOnly names (way ())) : RecordsOnly names (wayOrStop greedy i s way) := by
  cases greedy with
  | false => exact orElse (stop i s) h
  | true =>
      rw [Match.wayOrStop, if_pos rfl]
      refine orElse h ?_
      exact stop i s

/-- More names may be allowed. -/
theorem mono {names' : List (Option String)} {way : Way} (hnames : names ⊆ names')
    (h : RecordsOnly names way) : RecordsOnly names' way :=
  fun j spans hway span hspan => hnames (h j spans hway span hspan)

/-- A way under a condition. -/
theorem ite {p : Prop} [Decidable p] {way : Way} (h : RecordsOnly names way) :
    RecordsOnly names (if p then way else none) := by
  split
  · exact h
  · exact fun j spans hway => absurd hway (by simp)

section Repetition

variable {one : Nat → Positions → Way} (hone : ∀ i s, RecordsOnly names (one i s))

include hone

/-- A loop records what its repetitions do. -/
theorem again {greedy : Bool} {s t : Positions} (fuel i : Nat) :
    RecordsOnly names (again one greedy s t fuel i) := by
  induction fuel generalizing i with
  | zero => exact stop i s
  | succ fuel ih => exact wayOrStop (andThen (hone i _) ih)

/-- A fixed number of repetitions records what they do. -/
theorem pickTimes {step : Positions → Positions} {s : Positions} (k i : Nat) :
    RecordsOnly names (pickTimes one step s k i) := by
  induction k generalizing i with
  | zero => exact stop i s
  | succ k ih => exact andThen (hone i _) ih

/-- A bounded number of repetitions records what they do. -/
theorem pickUpTo {step : Positions → Positions} {greedy : Bool} {s : Positions} (k i : Nat) :
    RecordsOnly names (pickUpTo one step greedy s k i) := by
  induction k generalizing i with
  | zero => exact stop i s
  | succ k ih => exact wayOrStop (andThen (hone i _) ih)

end Repetition

end RecordsOnly

/-- **Groups.** The spans on a way belong to groups of the expression. -/
theorem recordsOnly_pick (n : Nat) (e : Expr Move) (i : Nat) (s : Positions) :
    RecordsOnly e.groups (pick n e i s) := by
  induction e generalizing i s with
  | empty => exact .stop i s
  | atom move =>
      cases move with
      | step places =>
          rw [pick]
          exact .ite (.stop _ s)
      | stay places =>
          rw [pick]
          exact .ite (.stop _ s)
  | capture name e ih =>
      intro j spans h
      rw [pick, Option.map_eq_some_iff] at h
      obtain ⟨⟨k, inner⟩, hinner, heq⟩ := h
      obtain ⟨rfl, rfl⟩ := Prod.mk.inj heq
      intro span hspan
      rcases List.mem_append.mp hspan with hspan | hspan
      · exact List.mem_cons_of_mem _ (ih i s _ _ hinner span hspan)
      · rw [List.mem_singleton.mp hspan]
        exact List.mem_cons_self
  | cat e f ihe ihf =>
      exact .andThen (.mono (List.subset_append_left _ _) (ihe i _))
        fun j => .mono (List.subset_append_right _ _) (ihf j s)
  | alt e f ihe ihf =>
      exact .orElse (.mono (List.subset_append_left _ _) (ihe i s))
        (.mono (List.subset_append_right _ _) (ihf i s))
  | opt greedy e ih => exact .wayOrStop (ih i s)
  | loop greedy e ih =>
      refine .andThen (ih i _) fun j => ?_
      split
      · exact .stop i s
      · exact .again ih _ j
  | times k e ih => exact .pickTimes ih k i
  | upTo k greedy e ih => exact .pickUpTo ih k i

/-- An expression without groups records nothing. -/
theorem spans_eq_nil_of_pick {n : Nat} {e : Expr Move} (he : e.groups = []) {i j : Nat}
    {s : Positions} {spans : Spans} (h : pick n e i s = some (j, spans)) : spans = [] := by
  refine List.eq_nil_iff_forall_not_mem.mpr fun span hspan => ?_
  have hmem := recordsOnly_pick n e i s j spans h span hspan
  rw [he] at hmem
  exact absurd hmem List.not_mem_nil

/-! ### Expressions one after the other -/

section Placed

variable {text : List Char} {e : Expr Atom} {i j : Nat} {s : Positions}

/-- Where there is a way, the walk backwards arrives. -/
theorem has_back_of_pick {spans : Spans}
    (h : pick text.length (e.map (place text)) i s = some (j, spans)) :
    (back text.length (e.map (place text)) s).has i :=
  (has_back text e s i).mpr ⟨j, (picks text e).sound h⟩

/-- The preferred way along some expressions follows the preferred way of the first one. -/
theorem pick_concat_cons {es : List (Expr Atom)} {k : Nat} {front more : Spans}
    (he : pick text.length (e.map (place text)) i
      (back text.length ((Expr.concat es).map (place text)) s) = some (j, front))
    (hes : pick text.length ((Expr.concat es).map (place text)) j s = some (k, more)) :
    pick text.length ((Expr.concat (e :: es)).map (place text)) i s =
      some (k, front ++ more) := by
  cases es with
  | nil =>
      obtain ⟨-, rfl, rfl⟩ := stop_eq_some.mp hes
      rw [List.append_nil]
      exact he
  | cons f es => exact andThen_eq_some.mpr ⟨j, front, more, he, hes, rfl⟩

/-- A way along some expressions begins with a way of the first one, and is a way along the others
from there. -/
theorem exists_of_pick_concat_cons {es : List (Expr Atom)} {k : Nat} {spans : Spans}
    (h : pick text.length ((Expr.concat (e :: es)).map (place text)) i s = some (k, spans)) :
    ∃ j front more,
      pick text.length (e.map (place text)) i
          (back text.length ((Expr.concat es).map (place text)) s) = some (j, front) ∧
        pick text.length ((Expr.concat es).map (place text)) j s = some (k, more) ∧
        spans = front ++ more := by
  cases es with
  | nil =>
      have hs := ((picks text e).sound h).2
      exact ⟨k, spans, [], h, stop_eq_some.mpr ⟨hs, rfl, rfl⟩, (List.append_nil spans).symm⟩
  | cons f es => exact andThen_eq_some.mp h

/-- A group records what its expression takes. -/
theorem pick_capture {name : Option String} {spans : Spans}
    (h : pick text.length (e.map (place text)) i s = some (j, spans)) :
    pick text.length ((Expr.capture name e).map (place text)) i s =
      some (j, spans ++ [(name, i, j)]) :=
  Option.map_eq_some_iff.mpr ⟨(j, spans), h, rfl⟩

/-- A way of a group that has no groups in it takes a piece of the text and records it. -/
theorem eq_of_pick_capture {name : Option String} {spans : Spans} (he : e.groups = [])
    (h : pick text.length ((Expr.capture name e).map (place text)) i s = some (j, spans)) :
    spans = [(name, i, j)] ∧ Reaches text e i j := by
  obtain ⟨⟨k, inner⟩, hinner, heq⟩ := Option.map_eq_some_iff.mp h
  obtain ⟨rfl, rfl⟩ := Prod.mk.inj heq
  have hnil : inner = [] := by
    refine spans_eq_nil_of_pick ?_ hinner
    rw [Expr.groups_map, he]
  exact ⟨by rw [hnil]; rfl, ((picks text e).sound hinner).1⟩

/-- One character of a set. -/
theorem pick_set {set : Unicode.CharSet} {c : Char} (hc : text[i]? = some c) (hset : set.has c)
    (hs : s.has (i + 1)) :
    pick text.length ((Expr.atom (.set set)).map (place text)) i s = some (i + 1, []) := by
  have hplace := has_places_set.mpr ⟨c, hc, hset⟩
  rw [Expr.map, place, pick, if_pos hplace]
  exact stop_eq_some.mpr ⟨hs, rfl, rfl⟩

/-- A condition that holds. -/
theorem pick_look {look : Look} (hi : i ≤ text.length)
    (hlook : holds (text.take i).getLast? text[i]? look) (hs : s.has i) :
    pick text.length ((Expr.atom (.look look)).map (place text)) i s = some (i, []) := by
  have hplace := has_places_look.mpr ⟨hi, hlook⟩
  rw [Expr.map, place, pick, if_pos hplace]
  exact stop_eq_some.mpr ⟨hs, rfl, rfl⟩

/-! ### Lazy loops -/

/-- Characters of a set lead one after the other. -/
theorem reflTransGen_set {set : Unicode.CharSet} (hij : i ≤ j)
    (hset : ∀ k, i ≤ k → k < j → ∃ c, text[k]? = some c ∧ set.has c) :
    Relation.ReflTransGen (Reaches text (.atom (.set set))) i j := by
  induction hij with
  | refl => exact .refl
  | @step m him ih =>
      exact (ih fun k hk hkm => hset k hk (by omega)).tail ⟨hset m him (Nat.lt_succ_self m), rfl⟩

/-- A lazy loop over the characters of a set, once it has begun, goes on up to the first position
from which it may stop. -/
theorem again_lazy {set : Unicode.CharSet} {t : Positions}
    (ht : ∀ k, t.has k ↔ ∃ l, Relation.ReflTransGen (Reaches text (.atom (.set set))) k l ∧ s.has l)
    {fuel : Nat} (hij : i ≤ j) (hfuel : j ≤ i + fuel)
    (hset : ∀ k, i ≤ k → k < j → ∃ c, text[k]? = some c ∧ set.has c)
    (hbefore : ∀ k, i ≤ k → k < j → ¬ s.has k) (hj : s.has j) :
    again (pick text.length ((Expr.atom (.set set)).map (place text))) false s t fuel i =
      some (j, []) := by
  induction fuel generalizing i with
  | zero =>
      obtain rfl : i = j := by omega
      exact stop_eq_some.mpr ⟨hj, rfl, rfl⟩
  | succ fuel ih =>
      rcases Nat.eq_or_lt_of_le hij with rfl | hlt
      · rw [again, wayOrStop, stop, if_pos hj]
        rfl
      · obtain ⟨c, hc, hcset⟩ := hset i (Nat.le_refl i) hlt
        have hnext := ih (i := i + 1) hlt (by omega) (fun k hk => hset k (by omega))
          (fun k hk => hbefore k (by omega))
        have habove : (t.above i).has (i + 1) := by
          rw [Positions.has_above, Bool.and_eq_true, ht]
          exact ⟨by simp, j, reflTransGen_set hlt fun k hk => hset k (by omega), hj⟩
        rw [again, wayOrStop, stop, if_neg (hbefore i (Nat.le_refl i) hlt)]
        exact andThen_eq_some.mpr ⟨i + 1, [], [], pick_set hc hcset habove, hnext, rfl⟩

/-- **Lazy loops** over the characters of a set stop at the first position, behind at least one
character, from which the rest can go on. -/
theorem pick_lazy {set : Unicode.CharSet} (hij : i < j)
    (hset : ∀ k, i ≤ k → k < j → ∃ c, text[k]? = some c ∧ set.has c)
    (hbefore : ∀ k, i < k → k < j → ¬ s.has k) (hj : s.has j) :
    pick text.length ((Expr.loop false (.atom (.set set))).map (place text)) i s =
      some (j, []) := by
  have hclosure := has_closure (has_back text (.atom (.set set))) (fun a b hab => hab.forward) s
  obtain ⟨c, hc, hcset⟩ := hset i (Nat.le_refl i) hij
  obtain ⟨hi, -⟩ := List.getElem?_eq_some_iff.mp hc
  have hj' : j ≤ text.length := by
    obtain ⟨d, hd, -⟩ := hset (j - 1) (by omega) (by omega)
    obtain ⟨hlt, -⟩ := List.getElem?_eq_some_iff.mp hd
    omega
  have hset' : ∀ k, i + 1 ≤ k → k < j → ∃ c, text[k]? = some c ∧ set.has c :=
    fun k hk => hset k (by omega)
  rw [Expr.map, pick]
  refine andThen_eq_some.mpr ⟨i + 1, [], [], pick_set hc hcset ?_, ?_, rfl⟩
  · rw [Positions.has_or, Positions.has_above, Bool.or_eq_true, Bool.and_eq_true]
    exact Or.inl ⟨by simp, (hclosure _).mpr ⟨j, reflTransGen_set hij hset', hj⟩⟩
  · rw [if_neg (Nat.succ_ne_self i)]
    exact again_lazy hclosure hij (by omega) hset' hbefore hj

end Placed

end Match

/-! ### Texts of groups -/

/-- The text of a group whose name occurs once. -/
theorem Groups.get?_eq_some {groups : Groups} (hnames : (groups.map Prod.fst).Nodup)
    {name : String} {text : List Char} (h : (some name, text) ∈ groups) :
    groups.get? name = some text := by
  induction groups with
  | nil => exact absurd h List.not_mem_nil
  | cons group rest ih =>
      rw [List.map_cons, List.nodup_cons] at hnames
      rw [get?, List.find?_cons]
      rcases List.mem_cons.mp h with rfl | h
      · simp
      · have hne : (group.1 == some name) = false := by
          rw [beq_eq_false_iff_ne]
          intro heq
          exact hnames.1 (List.mem_map.mpr ⟨_, h, heq.symm⟩)
        rw [hne]
        exact ih hnames.2 h

end Switchboard.Pattern
