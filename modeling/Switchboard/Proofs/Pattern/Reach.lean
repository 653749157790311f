import Switchboard.Pattern.Match
import Switchboard.Proofs.Pattern.Positions

/-!
# What the matcher reaches

`Reaches text e i j` says that expression `e` can lead from position `i` of a text to
position `j`. It is a relation, read off the expression constructor by constructor, and
knows neither sets of positions nor fuel nor greed. This module shows that the matcher
decides it.

The walk backwards (`Match.back`) finds exactly the positions that reach a set; loops are
the one case that needs an argument, because the closure is grown with limited fuel. The
walk forwards (`Match.pick`) succeeds exactly from these positions and ends where the
relation says it may, whatever it prefers. Its loop is driven by the same fact as the
closure: a repetition that matters takes at least one character.

## Main results

* `Match.has_back`: the walk backwards decides reachability.
* `Match.picks`: the walk forwards decides reachability, in the sense of `Match.Picks`.
* `Match.found_iff`, `Match.search_isSome`: a match is found, and is found with its groups,
  exactly when there is one.
* `Match.search_eq_some`: the search starts as early as possible.
-/

namespace Switchboard.Pattern

open Positions (Steps forward_trans)

/-- Expression `e` can lead from position `i` of a text to position `j`. -/
def Reaches (text : List Char) : Expr Atom → Nat → Nat → Prop
  | .empty, i, j => i = j
  | .atom (.set s), i, j => (∃ c, text[i]? = some c ∧ s.has c) ∧ j = i + 1
  | .atom (.look l), i, j =>
    (i ≤ text.length ∧ Match.holds (text.take i).getLast? text[i]? l) ∧ i = j
  | .capture _ e, i, j => Reaches text e i j
  | .cat e f, i, j => ∃ k, Reaches text e i k ∧ Reaches text f k j
  | .alt e f, i, j => Reaches text e i j ∨ Reaches text f i j
  | .opt _ e, i, j => i = j ∨ Reaches text e i j
  | .loop _ e, i, j => Relation.TransGen (Reaches text e) i j
  | .times k e, i, j => Steps (Reaches text e) k i j
  | .upTo k _ e, i, j => ∃ m ≤ k, Steps (Reaches text e) m i j

/-- An expression stays or goes forward, and not beyond the end of the text. -/
theorem Reaches.forward {text : List Char} {e : Expr Atom} {i j : Nat} (h : Reaches text e i j) :
    i = j ∨ i < j ∧ j ≤ text.length := by
  induction e generalizing i j with
  | empty => exact Or.inl h
  | atom a =>
      cases a with
      | set s =>
          obtain ⟨⟨c, hc, -⟩, rfl⟩ := h
          obtain ⟨hi, -⟩ := List.getElem?_eq_some_iff.mp hc
          exact Or.inr ⟨by omega, hi⟩
      | look l => exact Or.inl h.2
  | capture name e ih => exact ih h
  | cat e f ihe ihf =>
      obtain ⟨k, hik, hkj⟩ := h
      exact forward_trans (ihe hik) (ihf hkj)
  | alt e f ihe ihf => exact h.elim ihe ihf
  | opt greedy e ih => exact h.elim Or.inl ih
  | loop greedy e ih =>
      induction h with
      | single hij => exact ih hij
      | tail _ hjk hij => exact forward_trans hij (ih hjk)
  | times k e ih => exact Steps.forward (fun a b hab => ih hab) h
  | upTo k greedy e ih =>
      obtain ⟨m, -, hm⟩ := h
      exact Steps.forward (fun a b hab => ih hab) hm

/-- Matching goes forwards. -/
theorem Reaches.le {text : List Char} {e : Expr Atom} {i j : Nat} (h : Reaches text e i j) :
    i ≤ j := by
  rcases h.forward with rfl | ⟨hlt, -⟩
  · exact Nat.le_refl i
  · exact Nat.le_of_lt hlt

namespace Match

/-! ### Placed atoms -/

/-- The flags of a condition, given the character before the text. -/
theorem lookFlags_getElem? (look : Look) (previous : Option Char) (cs : List Char) (i : Nat) :
    (lookFlags look previous cs)[i]? =
      if i ≤ cs.length then some (holds ((cs.take i).getLast?.or previous) cs[i]? look)
      else none := by
  induction cs generalizing previous i with
  | nil => cases i <;> simp [lookFlags]
  | cons c rest ih =>
      cases i with
      | zero => simp [lookFlags]
      | succ i =>
          simp only [lookFlags, List.getElem?_cons_succ, ih, List.length_cons,
            Nat.add_le_add_iff_right, List.take_succ_cons, List.getLast?_cons]
          cases (rest.take i).getLast? <;> simp

/-- The places of a set of characters. -/
theorem has_places_set {text : List Char} {set : Unicode.CharSet} {i : Nat} :
    (Positions.ofFlags (text.map set.has)).has i ↔ ∃ c, text[i]? = some c ∧ set.has c := by
  rw [Positions.has_ofFlags, List.getElem?_map]
  cases text[i]? <;> simp

/-- The places of a condition. -/
theorem has_places_look {text : List Char} {look : Look} {i : Nat} :
    (Positions.ofFlags (lookFlags look none text)).has i ↔
      i ≤ text.length ∧ holds (text.take i).getLast? text[i]? look := by
  rw [Positions.has_ofFlags, lookFlags_getElem?, Option.or_none]
  split <;> simp_all

/-- Where an atom allows to go on. -/
theorem has_back_atom (text : List Char) (a : Atom) (s : Positions) (i : Nat) :
    (back text.length (.atom (place text a)) s).has i ↔
      ∃ j, Reaches text (.atom a) i j ∧ s.has j := by
  cases a with
  | set set =>
      simp only [place, back, Positions.has_and, Positions.has_before, Bool.and_eq_true,
        has_places_set, Reaches, and_assoc, exists_eq_left, exists_and_left]
  | look l =>
      simp only [place, back, Positions.has_and, Bool.and_eq_true, has_places_look, Reaches,
        and_assoc, exists_eq_left', exists_and_left]

/-! ### Walking backwards -/

/-- The closure under repetitions, grown with the fuel that the matcher gives. -/
theorem has_closure {n : Nat} {f : Positions → Positions} {r : Nat → Nat → Prop}
    (hf : ∀ s i, (f s).has i ↔ ∃ j, r i j ∧ s.has j)
    (hr : ∀ a b, r a b → a = b ∨ a < b ∧ b ≤ n) (s : Positions) (i : Nat) :
    (Positions.grow f (n + 1) s).has i ↔ ∃ j, Relation.ReflTransGen r i j ∧ s.has j := by
  constructor
  · intro h
    obtain ⟨m, j, hij, hj⟩ := Positions.steps_of_has_grow hf h
    exact ⟨j, hij.reflTransGen, hj⟩
  · rintro ⟨j, hij, hj⟩
    obtain ⟨m, hm, hsteps, -⟩ := Steps.of_reflTransGen hr hij
    exact Positions.has_grow_of_steps hf (by omega) hsteps hj

/-- **The walk backwards decides reachability.** -/
theorem has_back (text : List Char) (e : Expr Atom) (s : Positions) (i : Nat) :
    (back text.length (e.map (place text)) s).has i ↔ ∃ j, Reaches text e i j ∧ s.has j := by
  induction e generalizing s i with
  | empty => simp [Expr.map, back, Reaches]
  | atom a => exact has_back_atom text a s i
  | capture name e ih => simpa only [Expr.map, back, Reaches] using ih s i
  | cat e f ihe ihf =>
      simp only [Expr.map, back, Reaches, ihe, ihf]
      constructor
      · rintro ⟨k, hik, j, hkj, hj⟩
        exact ⟨j, ⟨k, hik, hkj⟩, hj⟩
      · rintro ⟨j, ⟨k, hik, hkj⟩, hj⟩
        exact ⟨k, hik, j, hkj, hj⟩
  | alt e f ihe ihf =>
      simp only [Expr.map, back, Reaches, Positions.has_or, Bool.or_eq_true, ihe, ihf]
      simp only [or_and_right, exists_or]
  | opt greedy e ih =>
      simp only [Expr.map, back, Reaches, Positions.has_or, Bool.or_eq_true, ih, or_and_right,
        exists_or, exists_eq_left']
  | loop greedy e ih =>
      simp only [Expr.map, back, Reaches, ih, has_closure ih fun a b hab => hab.forward,
        Relation.TransGen.head'_iff]
      constructor
      · rintro ⟨k, hik, j, hkj, hj⟩
        exact ⟨j, ⟨k, hik, hkj⟩, hj⟩
      · rintro ⟨j, ⟨k, hik, hkj⟩, hj⟩
        exact ⟨k, hik, j, hkj, hj⟩
  | times k e ih =>
      simp only [Expr.map, back, Reaches]
      exact Positions.has_iterate ih k s i
  | upTo k greedy e ih =>
      simp only [Expr.map, back, Reaches, Positions.has_iterateUpTo ih]
      constructor
      · rintro ⟨m, hm, j, hij, hj⟩
        exact ⟨j, ⟨m, hm, hij⟩, hj⟩
      · rintro ⟨j, ⟨m, hm, hij⟩, hj⟩
        exact ⟨m, hm, j, hij, hj⟩

/-! ### Ways -/

/-- When a way may stop. -/
theorem stop_eq_some {i j : Nat} {s : Positions} {spans : Spans} :
    stop i s = some (j, spans) ↔ s.has i ∧ j = i ∧ spans = [] := by
  unfold stop
  split
  · next h => simp [h, eq_comm]
  · next h => simp [h]

/-- A way may stop at the positions of its set, and only there. -/
theorem stop_isSome {i : Nat} {s : Positions} : (stop i s).isSome ↔ s.has i := by
  unfold stop
  split <;> simp_all

/-- A choice goes on if one of its ways does. -/
theorem orElse_isSome {first : Way} {second : Unit → Way} :
    (orElse first second).isSome ↔ first.isSome ∨ (second ()).isSome := by
  cases first <;> simp [orElse]

/-- A way of two is one of the two. -/
theorem orElse_eq_some {first : Way} {second : Unit → Way} {way : Nat × Spans}
    (h : orElse first second = some way) : first = some way ∨ second () = some way := by
  cases hf : first with
  | none => exact Or.inr (by simpa [orElse, hf] using h)
  | some found => exact Or.inl (by simpa [orElse, hf] using h)

/-- A way that goes on has two parts, which meet. -/
theorem andThen_eq_some {first : Way} {second : Nat → Way} {k : Nat} {spans : Spans} :
    andThen first second = some (k, spans) ↔
      ∃ j front more, first = some (j, front) ∧ second j = some (k, more) ∧
        spans = front ++ more := by
  cases first with
  | none => simp [andThen]
  | some way =>
      obtain ⟨j, front⟩ := way
      simp only [andThen, Option.map_eq_some_iff, Prod.exists, Prod.mk.injEq, Option.some.injEq]
      constructor
      · rintro ⟨_, more, hmore, rfl, rfl⟩
        exact ⟨j, front, more, ⟨rfl, rfl⟩, hmore, rfl⟩
      · rintro ⟨_, _, more, ⟨rfl, rfl⟩, hmore, rfl⟩
        exact ⟨k, more, hmore, rfl, rfl⟩

/-- A sequence goes on if its second way goes on from the end of the first one. -/
theorem andThen_isSome {first : Way} {second : Nat → Way} :
    (andThen first second).isSome ↔ ∃ j front, first = some (j, front) ∧ (second j).isSome := by
  cases first with
  | none => simp [andThen]
  | some way =>
      obtain ⟨j, front⟩ := way
      simp [andThen]

/-- Greed decides the order of going on and stopping, not whether there is a way. -/
theorem wayOrStop_isSome {greedy : Bool} {i : Nat} {s : Positions} {way : Unit → Way} :
    (wayOrStop greedy i s way).isSome ↔ s.has i ∨ (way ()).isSome := by
  cases greedy <;> simp [wayOrStop, orElse_isSome, stop_isSome, or_comm]

/-- A way that may be left out stops where it is, or goes on. -/
theorem wayOrStop_eq_some {greedy : Bool} {i : Nat} {s : Positions} {way : Unit → Way}
    {j : Nat} {spans : Spans} (h : wayOrStop greedy i s way = some (j, spans)) :
    (s.has i ∧ j = i ∧ spans = []) ∨ way () = some (j, spans) := by
  rw [← stop_eq_some]
  cases greedy with
  | false => exact orElse_eq_some h
  | true =>
      rw [wayOrStop, if_pos rfl] at h
      exact (orElse_eq_some h).symm

/-! ### Walking forwards -/

/-- A way to pick decides a relation: what it picks is in the relation and ends in the set, and
it picks something whenever it could. -/
structure Picks (one : Nat → Positions → Way) (r : Nat → Nat → Prop) : Prop where
  sound : ∀ {i s j spans}, one i s = some (j, spans) → r i j ∧ s.has j
  complete : ∀ {i s j}, r i j → s.has j → (one i s).isSome

/-- A connection to another position begins with a step forward, once idle steps are left out. -/
theorem exists_step_forward {r : Nat → Nat → Prop} {n : Nat}
    (hr : ∀ a b, r a b → a = b ∨ a < b ∧ b ≤ n) {i j : Nat} (h : Relation.ReflTransGen r i j)
    (hij : i ≠ j) : ∃ k, r i k ∧ i < k ∧ k ≤ n ∧ Relation.ReflTransGen r k j := by
  induction h using Relation.ReflTransGen.head_induction_on with
  | refl => exact absurd rfl hij
  | @head a b hab hbj ih =>
      rcases hr a b hab with rfl | ⟨hlt, hbn⟩
      · exact ih hij
      · exact ⟨b, hab, hlt, hbn, hbj⟩

/-- One or more steps begin with a step forward, or they are an idle one. -/
theorem exists_first_step {r : Nat → Nat → Prop} {n : Nat}
    (hr : ∀ a b, r a b → a = b ∨ a < b ∧ b ≤ n) {i j : Nat} (h : Relation.TransGen r i j) :
    (∃ k, r i k ∧ i < k ∧ Relation.ReflTransGen r k j) ∨ r i i ∧ i = j := by
  obtain ⟨k, hik, hkj⟩ := Relation.TransGen.head'_iff.mp h
  rcases hr i k hik with rfl | ⟨hlt, -⟩
  · rcases eq_or_ne i j with rfl | hne
    · exact Or.inr ⟨hik, rfl⟩
    · obtain ⟨m, him, hlt, -, hmj⟩ := exists_step_forward hr hkj hne
      exact Or.inl ⟨m, him, hlt, hmj⟩
  · exact Or.inl ⟨k, hik, hlt, hkj⟩

namespace Picks

variable {one : Nat → Positions → Way} {r : Nat → Nat → Prop} (h : Picks one r)

include h

/-- What a first pick that succeeds gives. -/
theorem exists_of_complete {i j : Nat} {s : Positions} (hij : r i j) (hj : s.has j) :
    ∃ k front, one i s = some (k, front) ∧ r i k ∧ s.has k := by
  obtain ⟨⟨k, front⟩, hk⟩ := Option.isSome_iff_exists.mp (h.complete hij hj)
  exact ⟨k, front, hk, h.sound hk⟩

/-- A loop that goes on ends behind some repetitions. -/
theorem again_sound {greedy : Bool} {s t : Positions} {fuel i j : Nat} {spans : Spans}
    (hway : again one greedy s t fuel i = some (j, spans)) :
    Relation.ReflTransGen r i j ∧ s.has j := by
  induction fuel generalizing i spans with
  | zero =>
      obtain ⟨hi, rfl, -⟩ := stop_eq_some.mp hway
      exact ⟨Relation.ReflTransGen.refl, hi⟩
  | succ fuel ih =>
      rcases wayOrStop_eq_some hway with ⟨hi, rfl, -⟩ | hway
      · exact ⟨Relation.ReflTransGen.refl, hi⟩
      · obtain ⟨k, front, more, hfirst, hmore, -⟩ := andThen_eq_some.mp hway
        obtain ⟨hkj, hj⟩ := ih hmore
        exact ⟨Relation.ReflTransGen.head (h.sound hfirst).1 hkj, hj⟩

/-- A loop that goes on from a position of the closure finds a way. The fuel exceeds the number
of characters left, and every repetition takes one. -/
theorem again_complete {n : Nat} (hr : ∀ a b, r a b → a = b ∨ a < b ∧ b ≤ n) {greedy : Bool}
    {s t : Positions} (ht : ∀ i, t.has i ↔ ∃ j, Relation.ReflTransGen r i j ∧ s.has j)
    {fuel i : Nat} (hin : i ≤ n) (hfuel : n < i + fuel) (hi : t.has i) :
    (again one greedy s t fuel i).isSome := by
  induction fuel generalizing i with
  | zero => omega
  | succ fuel ih =>
      rw [again, wayOrStop_isSome]
      obtain ⟨j, hij, hj⟩ := (ht i).mp hi
      rcases eq_or_ne i j with rfl | hne
      · exact Or.inl hj
      · obtain ⟨k, hik, hlt, -, hkj⟩ := exists_step_forward hr hij hne
        have hk : (t.above i).has k := by simpa [hlt] using (ht k).mpr ⟨j, hkj, hj⟩
        obtain ⟨m, front, hfirst, him, hm⟩ := h.exists_of_complete hik hk
        obtain ⟨hltm, hm⟩ : i < m ∧ t.has m := by simpa using hm
        have hmn : m ≤ n := by
          have := hr i m him
          omega
        exact Or.inr (andThen_isSome.mpr ⟨m, front, hfirst, ih hmn (by omega) hm⟩)

/-- Exactly `k` repetitions. -/
theorem pickTimes {step : Positions → Positions}
    (hstep : ∀ s i, (step s).has i ↔ ∃ j, r i j ∧ s.has j) (k : Nat) :
    Picks (fun i s => Match.pickTimes one step s k i) (Steps r k) where
  sound := by
    intro i s j spans hway
    induction k generalizing i spans with
    | zero =>
        obtain ⟨hi, rfl, -⟩ := stop_eq_some.mp hway
        exact ⟨Steps.stay j, hi⟩
    | succ k ih =>
        obtain ⟨m, front, more, hfirst, hmore, -⟩ := andThen_eq_some.mp hway
        obtain ⟨hmj, hj⟩ := ih hmore
        exact ⟨Steps.step (h.sound hfirst).1 hmj, hj⟩
  complete := by
    intro i s j hij hj
    induction k generalizing i j with
    | zero =>
        obtain rfl := Steps.zero_iff.mp hij
        exact stop_isSome.mpr hj
    | succ k ih =>
        obtain ⟨m, him, hmj⟩ := Steps.succ_iff.mp hij
        have hm := (Positions.has_iterate hstep k s m).mpr ⟨j, hmj, hj⟩
        obtain ⟨a, front, hfirst, -, ha⟩ := h.exists_of_complete him hm
        obtain ⟨b, hab, hb⟩ := (Positions.has_iterate hstep k s a).mp ha
        exact andThen_isSome.mpr ⟨a, front, hfirst, ih hab hb⟩

/-- At most `k` repetitions. -/
theorem pickUpTo {step : Positions → Positions} {greedy : Bool}
    (hstep : ∀ s i, (step s).has i ↔ ∃ j, r i j ∧ s.has j) (k : Nat) :
    Picks (fun i s => Match.pickUpTo one step greedy s k i)
      (fun i j => ∃ m ≤ k, Steps r m i j) where
  sound := by
    intro i s j spans hway
    induction k generalizing i spans with
    | zero =>
        obtain ⟨hi, rfl, -⟩ := stop_eq_some.mp hway
        exact ⟨⟨0, Nat.le_refl 0, Steps.stay j⟩, hi⟩
    | succ k ih =>
        rcases wayOrStop_eq_some hway with ⟨hi, rfl, -⟩ | hway
        · exact ⟨⟨0, Nat.zero_le _, Steps.stay j⟩, hi⟩
        · obtain ⟨a, front, more, hfirst, hmore, -⟩ := andThen_eq_some.mp hway
          obtain ⟨⟨m, hm, haj⟩, hj⟩ := ih hmore
          exact ⟨⟨m + 1, by omega, Steps.step (h.sound hfirst).1 haj⟩, hj⟩
  complete := by
    rintro i s j ⟨m, hmk, hij⟩ hj
    induction k generalizing i j m with
    | zero =>
        obtain rfl : m = 0 := by omega
        obtain rfl := Steps.zero_iff.mp hij
        exact stop_isSome.mpr hj
    | succ k ih =>
        rw [Match.pickUpTo, wayOrStop_isSome]
        cases hij with
        | stay => exact Or.inl hj
        | @step m i a j hia haj =>
            have ha := (Positions.has_iterateUpTo hstep k s a).mpr ⟨m, by omega, j, haj, hj⟩
            obtain ⟨b, front, hfirst, -, hb⟩ := h.exists_of_complete hia ha
            obtain ⟨m', hm', c, hbc, hc⟩ := (Positions.has_iterateUpTo hstep k s b).mp hb
            exact Or.inr (andThen_isSome.mpr ⟨b, front, hfirst, ih m' hm' hbc hc⟩)

end Picks

/-- The walk forwards through an atom. -/
theorem picks_atom (text : List Char) (a : Atom) :
    Picks (pick text.length (.atom (place text a))) (Reaches text (.atom a)) := by
  cases a with
  | set set =>
      refine ⟨fun {i s j spans} h => ?_, fun {i s j} hij hj => ?_⟩
      · simp only [place, pick] at h
        split at h
        · next hi =>
            obtain ⟨hs, rfl, -⟩ := stop_eq_some.mp h
            exact ⟨⟨has_places_set.mp hi, rfl⟩, hs⟩
        · simp at h
      · obtain ⟨hi, rfl⟩ := hij
        simp only [place, pick, if_pos (has_places_set.mpr hi)]
        exact stop_isSome.mpr hj
  | look look =>
      refine ⟨fun {i s j spans} h => ?_, fun {i s j} hij hj => ?_⟩
      · simp only [place, pick] at h
        split at h
        · next hi =>
            obtain ⟨hs, rfl, -⟩ := stop_eq_some.mp h
            exact ⟨⟨has_places_look.mp hi, rfl⟩, hs⟩
        · simp at h
      · obtain ⟨hi, rfl⟩ := hij
        simp only [place, pick, if_pos (has_places_look.mpr hi)]
        exact stop_isSome.mpr hj

/-- The walk forwards through a loop. After an empty first repetition the loop ends, which is no
loss: the position it stands on is then in the set, or a repetition that goes forward exists. The first
repetition ends further on in the closure, or where it began if that position is in the set. -/
theorem picks_loop {text : List Char} {e : Expr Atom} (greedy : Bool)
    (ih : Picks (pick text.length (e.map (place text))) (Reaches text e)) :
    Picks (pick text.length ((Expr.loop greedy e).map (place text)))
      (Reaches text (.loop greedy e)) := by
  have hforward : ∀ a b, Reaches text e a b → a = b ∨ a < b ∧ b ≤ text.length :=
    fun a b hab => hab.forward
  have hclosure := has_closure (has_back text e) hforward
  refine ⟨fun {i s j spans} h => ?_, fun {i s j} hij hj => ?_⟩
  · obtain ⟨k, front, more, hfirst, hmore, -⟩ := andThen_eq_some.mp h
    obtain ⟨hik, -⟩ := ih.sound hfirst
    split at hmore
    · next hki =>
        obtain ⟨hi, rfl, -⟩ := stop_eq_some.mp hmore
        exact ⟨Relation.TransGen.single (hki ▸ hik), hi⟩
    · obtain ⟨hkj, hj⟩ := ih.again_sound hmore
      exact ⟨Relation.TransGen.head' hik hkj, hj⟩
  · rw [Expr.map, pick]
    set t := Positions.grow (back text.length (e.map (place text))) (text.length + 1) s
    have hfirst : ∃ k, Reaches text e i k ∧ (t.above i ||| (s &&& Positions.single i)).has k := by
      rcases exists_first_step hforward hij with ⟨k, hik, hlt, hkj⟩ | ⟨hii, rfl⟩
      · have hk : t.has k := (hclosure s k).mpr ⟨j, hkj, hj⟩
        exact ⟨k, hik, by simp [hlt, hk]⟩
      · exact ⟨i, hii, by simp [hj]⟩
    obtain ⟨k, hik, hk⟩ := hfirst
    obtain ⟨m, front, hpick, him, hm⟩ := ih.exists_of_complete hik hk
    refine andThen_isSome.mpr ⟨m, front, hpick, ?_⟩
    split
    · next hmi =>
        subst hmi
        exact stop_isSome.mpr (by simpa using hm)
    · next hmi =>
        have hmn : m ≤ text.length := by
          have := hforward i m him
          omega
        obtain ⟨-, hm⟩ : i < m ∧ t.has m := by simpa [Ne.symm hmi] using hm
        exact ih.again_complete hforward (hclosure s) hmn (by omega) hm

/-- **The walk forwards decides reachability**, whatever it prefers. -/
theorem picks (text : List Char) (e : Expr Atom) :
    Picks (pick text.length (e.map (place text))) (Reaches text e) := by
  induction e with
  | empty =>
      refine ⟨fun {i s j spans} h => ?_, fun {i s j} hij hj => ?_⟩
      · obtain ⟨hi, rfl, -⟩ := stop_eq_some.mp h
        exact ⟨rfl, hi⟩
      · obtain rfl : i = j := hij
        exact stop_isSome.mpr hj
  | atom a => exact picks_atom text a
  | capture name e ih =>
      refine ⟨fun {i s j spans} h => ?_, fun {i s j} hij hj => ?_⟩
      · simp only [Expr.map, pick, Option.map_eq_some_iff] at h
        obtain ⟨⟨k, front⟩, hpick, heq⟩ := h
        obtain ⟨rfl, -⟩ := Prod.mk.inj heq
        exact ih.sound hpick
      · simp only [Expr.map, pick, Option.isSome_map]
        exact ih.complete hij hj
  | cat e f ihe ihf =>
      refine ⟨fun {i s j spans} h => ?_, fun {i s j} hij hj => ?_⟩
      · obtain ⟨k, front, more, hfirst, hmore, -⟩ := andThen_eq_some.mp h
        exact ⟨⟨k, (ihe.sound hfirst).1, (ihf.sound hmore).1⟩, (ihf.sound hmore).2⟩
      · obtain ⟨k, hik, hkj⟩ := hij
        have hk := (has_back text f s k).mpr ⟨j, hkj, hj⟩
        obtain ⟨m, front, hfirst, -, hm⟩ := ihe.exists_of_complete hik hk
        obtain ⟨j', hmj, hj'⟩ := (has_back text f s m).mp hm
        exact andThen_isSome.mpr ⟨m, front, hfirst, ihf.complete hmj hj'⟩
  | alt e f ihe ihf =>
      refine ⟨fun {i s j spans} h => ?_, fun {i s j} hij hj => ?_⟩
      · rcases orElse_eq_some h with h | h
        · exact ⟨Or.inl (ihe.sound h).1, (ihe.sound h).2⟩
        · exact ⟨Or.inr (ihf.sound h).1, (ihf.sound h).2⟩
      · rw [Expr.map, pick, orElse_isSome]
        exact hij.imp (fun h => ihe.complete h hj) (fun h => ihf.complete h hj)
  | opt greedy e ih =>
      refine ⟨fun {i s j spans} h => ?_, fun {i s j} hij hj => ?_⟩
      · rcases wayOrStop_eq_some h with ⟨hi, rfl, -⟩ | hway
        · exact ⟨Or.inl rfl, hi⟩
        · exact ⟨Or.inr (ih.sound hway).1, (ih.sound hway).2⟩
      · rw [Expr.map, pick, wayOrStop_isSome]
        exact hij.imp (fun h : i = j => h ▸ hj) (fun h => ih.complete h hj)
  | loop greedy e ih => exact picks_loop greedy ih
  | times k e ih => exact ih.pickTimes (has_back text e) k
  | upTo k greedy e ih => exact ih.pickUpTo (has_back text e) k

/-! ### Searching -/

/-- **A match is found exactly when there is one**: from some position of the text the expression
leads to some position. -/
theorem found_iff (e : Expr Atom) (text : List Char) :
    found e text ↔ ∃ i j, Reaches text e i j ∧ j ≤ text.length := by
  unfold found allPositions
  rw [bne_iff_ne, Positions.ne_zero_iff]
  simp only [has_back, Positions.has_below, decide_eq_true_eq, Nat.lt_succ_iff]

/-- A search picks its way from the first position that has one. -/
theorem search_eq_bind (e : Expr Atom) (text : List Char) :
    search e text =
      ((back text.length (e.map (place text)) (allPositions text.length)).firstFrom
        (text.length + 1) 0).bind fun i =>
          (pick text.length (e.map (place text)) i (allPositions text.length)).map
            fun (j, spans) => (i, j, spans) := by
  unfold search
  dsimp only
  cases (back text.length (e.map (place text)) (allPositions text.length)).firstFrom
    (text.length + 1) 0 <;> rfl

/-- The positions from which there is a match. -/
theorem has_back_allPositions {e : Expr Atom} {text : List Char} {i : Nat} :
    (back text.length (e.map (place text)) (allPositions text.length)).has i ↔
      ∃ j ≤ text.length, Reaches text e i j := by
  simp only [has_back, allPositions, Positions.has_below, decide_eq_true_eq, Nat.lt_succ_iff,
    and_comm]

/-- The search starts at the first position from which there is a match, and picks one. -/
theorem search_eq_some {e : Expr Atom} {text : List Char} {i j : Nat} {spans : Spans} :
    search e text = some (i, j, spans) ↔
      pick text.length (e.map (place text)) i (allPositions text.length) = some (j, spans) ∧
        ∀ k < i, ∀ l ≤ text.length, ¬ Reaches text e k l := by
  rw [search_eq_bind, Option.bind_eq_some_iff]
  constructor
  · rintro ⟨k, hk, hmap⟩
    obtain ⟨⟨j', spans'⟩, hpick, heq⟩ := Option.map_eq_some_iff.mp hmap
    simp only [Prod.mk.injEq] at heq
    obtain ⟨rfl, rfl, rfl⟩ := heq
    obtain ⟨-, -, hleast⟩ := Positions.has_firstFrom hk
    refine ⟨hpick, fun m hm l hl hml => ?_⟩
    have hhas := has_back_allPositions.mpr ⟨l, hl, hml⟩
    rw [hleast m (Nat.zero_le m) hm] at hhas
    exact absurd hhas Bool.false_ne_true
  · rintro ⟨hpick, hleast⟩
    obtain ⟨hij, hj⟩ := (picks text e).sound hpick
    have hjn : j ≤ text.length := by simpa [allPositions, Nat.lt_succ_iff] using hj
    have hi := has_back_allPositions.mpr ⟨j, hjn, hij⟩
    have hin := hij.le
    have hsome := Positions.firstFrom_isSome_iff.mpr
      ⟨i, Nat.zero_le i, (by omega : i < 0 + (text.length + 1)), hi⟩
    obtain ⟨k, hk⟩ := Option.isSome_iff_exists.mp hsome
    obtain ⟨hhas, -, hfirst⟩ := Positions.has_firstFrom hk
    obtain ⟨l, hl, hkl⟩ := has_back_allPositions.mp hhas
    obtain rfl : k = i := by
      rcases Nat.lt_trichotomy k i with hlt | heq | hgt
      · exact absurd hkl (hleast k hlt l hl)
      · exact heq
      · rw [hfirst i (Nat.zero_le i) hgt] at hi
        exact absurd hi Bool.false_ne_true
    exact ⟨k, hk, by simp [hpick]⟩

/-- **A match that is found is found with its groups.** The search starts at the first position with a
match. -/
theorem search_isSome (e : Expr Atom) (text : List Char) :
    (search e text).isSome = found e text := by
  rw [Bool.eq_iff_iff, found_iff]
  constructor
  · intro h
    obtain ⟨⟨i, j, spans⟩, hsearch⟩ := Option.isSome_iff_exists.mp h
    obtain ⟨hij, hj⟩ := (picks text e).sound (search_eq_some.mp hsearch).1
    exact ⟨i, j, hij, by simpa [allPositions, Nat.lt_succ_iff] using hj⟩
  · rintro ⟨i, j, hij, hj⟩
    classical
    have hex : ∃ k, ∃ l ≤ text.length, Reaches text e k l := ⟨i, j, hj, hij⟩
    obtain ⟨l, hl, hkl⟩ := Nat.find_spec hex
    have hpick := (picks text e).complete (s := allPositions text.length) hkl
      (by simpa [allPositions, Nat.lt_succ_iff] using hl)
    obtain ⟨⟨m, spans⟩, hm⟩ := Option.isSome_iff_exists.mp hpick
    have hsearch := search_eq_some.mpr
      ⟨hm, fun k hk l hl hkl => Nat.find_min hex hk ⟨l, hl, hkl⟩⟩
    rw [hsearch]
    rfl

end Match

end Switchboard.Pattern
