import Mathlib.Tactic
import Switchboard.Alias.Refresh

/-!
# Runs of the refresh loop

Cycles of the refresh loop overlap: a fetch may end at any time after its cycle was started,
before or behind the fetches of other cycles. This module says what the registry holds along
every run, in terms of the events alone.

`Waits events n cycle` and `Completes events p cycle result` describe what is in flight and
what ends without looking at the loop. The loop keeps exactly these cycles (`Tracks`), one
event at a time, so that an event changes the registry exactly when it is the completion of a
cycle with a listing (`registry_ne_iff`). Everything else follows by going from one position
of the run to the next.

## Convention

Positions count the events of a run from zero. `observed registry events n` is the loop
before the event at position `n`, as somebody finds it who looks there.

## Main results

* `tracks`: the loop knows which cycles are in flight.
* `registry_eq_of_no_success`: between successes nothing changes.
* `refresh_last_success_wins`: the registry after a run.
-/

namespace Switchboard.Alias.Refresh

/-- How many cycles some events start. -/
def ticks (events : List Event) : Nat :=
  events.countP fun
    | .tick => true
    | .fetched _ _ => false

/-- A cycle is in flight at a position: it was started, and since then no fetch of it ended. -/
def Waits (events : List Event) (n cycle : Nat) : Prop :=
  cycle < ticks (events.take n) ∧
    ∀ q result, q < n → events[q]? = some (.fetched cycle result) → ticks (events.take q) ≤ cycle

/-- **Completion.** The event at a position is the end of the fetch of a cycle in flight. -/
def Completes (events : List Event) (p cycle : Nat) (result : Fetched) : Prop :=
  events[p]? = some (.fetched cycle result) ∧ Waits events p cycle

/-- The loop before the event at a position. -/
def observed (registry : Registry) (events : List Event) (n : Nat) : Loop :=
  Loop.run { registry } (events.take n)

/-! ### Cycles in flight -/

variable {registry : Registry} {events : List Event} {n p : Nat}

/-- There are no fewer ticks in a longer run. -/
theorem ticks_take_le {q : Nat} (h : q ≤ n) : ticks (events.take q) ≤ ticks (events.take n) := by
  have htake : (events.take n).take q = events.take q := by
    rw [List.take_take, Nat.min_eq_left h]
  rw [← htake]
  exact (List.take_sublist q _).countP_le

/-- One event more. -/
theorem take_succ_of_getElem? {event : Event} (h : events[n]? = some event) :
    events.take (n + 1) = events.take n ++ [event] := by
  rw [List.take_add_one, h]
  rfl

/-- No event is left. -/
theorem take_succ_of_none (h : events[n]? = none) : events.take (n + 1) = events.take n := by
  rw [List.take_add_one, h, Option.toList_none, List.append_nil]

/-- A tick counts. -/
theorem ticks_take_succ_of_tick (h : events[n]? = some .tick) :
    ticks (events.take (n + 1)) = ticks (events.take n) + 1 := by
  rw [take_succ_of_getElem? h, ticks, List.countP_append]
  rfl

/-- The end of a fetch is no tick. -/
theorem ticks_take_succ_of_fetched {cycle : Nat} {result : Fetched}
    (h : events[n]? = some (.fetched cycle result)) :
    ticks (events.take (n + 1)) = ticks (events.take n) := by
  rw [take_succ_of_getElem? h, ticks, List.countP_append]
  rfl

/-- What is observed after one event more. -/
theorem observed_succ {event : Event} (h : events[n]? = some event) :
    observed registry events (n + 1) = (observed registry events n).step event := by
  rw [observed, take_succ_of_getElem? h, Loop.run, List.foldl_append]
  rfl

/-- Behind the last event nothing changes. -/
theorem observed_succ_of_none (h : events[n]? = none) :
    observed registry events (n + 1) = observed registry events n := by
  rw [observed, observed, take_succ_of_none h]

/-- A cycle that is in flight behind an event was not ended by it. -/
theorem waits_succ_iff (cycle : Nat) :
    Waits events (n + 1) cycle ↔
      cycle < ticks (events.take (n + 1)) ∧
        (∀ q result, q < n → events[q]? = some (.fetched cycle result) →
          ticks (events.take q) ≤ cycle) ∧
        ∀ result, events[n]? = some (.fetched cycle result) → ticks (events.take n) ≤ cycle := by
  refine and_congr_right fun _ => ⟨fun hfirst => ⟨fun q result hq => ?_, fun result => ?_⟩,
    fun hfirst q result hq hevent => ?_⟩
  · exact hfirst q result (Nat.lt_succ_of_lt hq)
  · exact hfirst n result (Nat.lt_succ_self n)
  · obtain ⟨hbefore, hlast⟩ := hfirst
    rcases Nat.lt_succ_iff_lt_or_eq.mp hq with hq | rfl
    · exact hbefore q result hq hevent
    · exact hlast result hevent

/-- A tick starts the next cycle. -/
theorem waits_succ_of_tick (h : events[n]? = some .tick) (cycle : Nat) :
    Waits events (n + 1) cycle ↔ Waits events n cycle ∨ cycle = ticks (events.take n) := by
  rw [waits_succ_iff, ticks_take_succ_of_tick h, h]
  constructor
  · rintro ⟨hlt, hfirst, -⟩
    rcases Nat.lt_succ_iff_lt_or_eq.mp hlt with hlt | heq
    · exact Or.inl ⟨hlt, hfirst⟩
    · exact Or.inr heq
  · rintro (⟨hlt, hfirst⟩ | rfl)
    · exact ⟨Nat.lt_succ_of_lt hlt, hfirst, by simp⟩
    · exact ⟨Nat.lt_succ_self _, fun q result hq _ => ticks_take_le (Nat.le_of_lt hq), by simp⟩

/-- The end of a fetch ends its cycle, if it is in flight. -/
theorem waits_succ_of_fetched {ended : Nat} {result : Fetched}
    (h : events[n]? = some (.fetched ended result)) (cycle : Nat) :
    Waits events (n + 1) cycle ↔ Waits events n cycle ∧ cycle ≠ ended := by
  rw [waits_succ_iff, ticks_take_succ_of_fetched h, h]
  constructor
  · rintro ⟨hlt, hfirst, hlast⟩
    refine ⟨⟨hlt, hfirst⟩, ?_⟩
    rintro rfl
    have := hlast result rfl
    omega
  · rintro ⟨⟨hlt, hfirst⟩, hne⟩
    refine ⟨hlt, hfirst, fun other heq => ?_⟩
    obtain ⟨rfl, -⟩ := Event.fetched.inj (Option.some.inj heq)
    exact absurd rfl hne

/-- Behind the last event nothing starts or ends. -/
theorem waits_succ_of_none (h : events[n]? = none) (cycle : Nat) :
    Waits events (n + 1) cycle ↔ Waits events n cycle := by
  rw [waits_succ_iff, take_succ_of_none h, h]
  exact ⟨fun ⟨hlt, hfirst, _⟩ => ⟨hlt, hfirst⟩, fun ⟨hlt, hfirst⟩ => ⟨hlt, hfirst, by simp⟩⟩

/-- A loop that knows how many cycles were started before a position, and which are in flight. -/
structure Tracks (loop : Loop) (events : List Event) (n : Nat) : Prop where
  started : loop.started = ticks (events.take n)
  waiting : ∀ cycle, cycle ∈ loop.waiting ↔ Waits events n cycle

/-- An event keeps what the loop knows. -/
theorem Tracks.step {loop : Loop} {event : Event} (h : Tracks loop events n)
    (hevent : events[n]? = some event) : Tracks (loop.step event) events (n + 1) := by
  cases event with
  | tick =>
      refine ⟨?_, fun cycle => ?_⟩
      · rw [ticks_take_succ_of_tick hevent]
        exact congrArg (· + 1) h.started
      · rw [waits_succ_of_tick hevent, Loop.step, List.mem_append, List.mem_singleton, h.waiting,
          h.started]
  | fetched ended result =>
      have hstarted : loop.started = ticks (events.take (n + 1)) := by
        rw [ticks_take_succ_of_fetched hevent, h.started]
      rw [Loop.step]
      split
      · next hmem =>
          refine ⟨hstarted, fun cycle => ?_⟩
          rw [waits_succ_of_fetched hevent, List.mem_filter, h.waiting, decide_eq_true_iff]
      · next hmem =>
          refine ⟨hstarted, fun cycle => ?_⟩
          rw [waits_succ_of_fetched hevent, h.waiting]
          refine ⟨fun hwaits => ⟨hwaits, ?_⟩, And.left⟩
          rintro rfl
          exact hmem ((h.waiting _).mpr hwaits)

/-- **In flight.** Along every run the loop knows which cycles are in flight. -/
theorem tracks (registry : Registry) (events : List Event) (n : Nat) :
    Tracks (observed registry events n) events n := by
  induction n with
  | zero =>
      refine ⟨rfl, fun cycle => ⟨fun h => absurd h List.not_mem_nil, ?_⟩⟩
      rintro ⟨hlt, -⟩
      exact absurd hlt (Nat.not_lt_zero _)
  | succ n ih =>
      cases hevent : events[n]? with
      | some event =>
          rw [observed_succ hevent]
          exact ih.step hevent
      | none =>
          rw [observed_succ_of_none hevent]
          refine ⟨?_, fun cycle => ?_⟩
          · rw [ih.started, take_succ_of_none hevent]
          · rw [ih.waiting, waits_succ_of_none hevent]

/-! ### One position of a run -/

/-- A completion takes over its result. -/
theorem registry_succ_of_completes {cycle : Nat} {result : Fetched}
    (h : Completes events p cycle result) :
    (observed registry events (p + 1)).registry =
      (observed registry events p).registry.take result := by
  obtain ⟨hevent, hwaits⟩ := h
  have hmem := ((tracks registry events p).waiting cycle).mpr hwaits
  rw [observed_succ hevent, Loop.step, if_pos hmem]

/-- A position without a success changes nothing. -/
theorem registry_succ_of_no_success
    (h : ∀ cycle listing, ¬ Completes events p cycle (.ok listing)) :
    (observed registry events (p + 1)).registry = (observed registry events p).registry := by
  cases hevent : events[p]? with
  | none => rw [observed_succ_of_none hevent]
  | some event =>
      rw [observed_succ hevent]
      cases event with
      | tick => rfl
      | fetched cycle result =>
          rw [Loop.step]
          split
          · next hmem =>
              have hwaits := ((tracks registry events p).waiting cycle).mp hmem
              cases result with
              | ok listing => exact absurd ⟨hevent, hwaits⟩ (h cycle listing)
              | error fault => rfl
          · rfl

/-- The registry changes at the successes, and only there: each installation reads its clock. -/
theorem registry_ne_iff :
    (observed registry events (p + 1)).registry ≠ (observed registry events p).registry ↔
      ∃ cycle listing, Completes events p cycle (.ok listing) := by
  constructor
  · intro hne
    by_contra hnone
    push Not at hnone
    exact hne (registry_succ_of_no_success hnone)
  · rintro ⟨cycle, listing, h⟩ heq
    rw [registry_succ_of_completes h] at heq
    have hclock := congrArg Registry.clock heq
    exact Nat.succ_ne_self _ hclock

/-- A cycle completes once. -/
theorem Completes.unique {q cycle : Nat} {result result' : Fetched}
    (h : Completes events p cycle result) (h' : Completes events q cycle result') : p = q := by
  obtain ⟨hevent, hlt, hfirst⟩ := h
  obtain ⟨hevent', hlt', hfirst'⟩ := h'
  rcases Nat.lt_trichotomy p q with hpq | rfl | hqp
  · have := hfirst' p result hpq hevent
    omega
  · rfl
  · have := hfirst q result' hqp hevent'
    omega

/-! ### Whole runs -/

/-- **Between successes** nothing changes. -/
theorem registry_eq_of_no_success {m : Nat} (hnm : n ≤ m)
    (h : ∀ p, n ≤ p → p < m → ∀ cycle listing, ¬ Completes events p cycle (.ok listing)) :
    (observed registry events m).registry = (observed registry events n).registry := by
  induction hnm with
  | refl => rfl
  | @step m hnm ih =>
      rw [registry_succ_of_no_success (h m hnm (Nat.lt_succ_self m)),
        ih fun p hp hpm => h p hp (by omega)]

/-- What is observed is the first snapshot, or the complete snapshot of one listing. -/
theorem observed_current (registry : Registry) (events : List Event) (n : Nat) :
    (observed registry events n).registry.current = registry.current ∨
      ∃ p cycle listing, p < n ∧ Completes events p cycle (.ok listing) ∧
        (observed registry events n).registry.current =
          .build listing ((observed registry events p).registry.clock + 1) := by
  induction n with
  | zero => exact Or.inl rfl
  | succ n ih =>
      by_cases hsuccess : ∃ cycle listing, Completes events n cycle (.ok listing)
      · obtain ⟨cycle, listing, h⟩ := hsuccess
        refine Or.inr ⟨n, cycle, listing, Nat.lt_succ_self n, h, ?_⟩
        rw [registry_succ_of_completes h]
        rfl
      · push Not at hsuccess
        rw [registry_succ_of_no_success hsuccess]
        rcases ih with heq | ⟨p, cycle, listing, hp, h, heq⟩
        · exact Or.inl heq
        · exact Or.inr ⟨p, cycle, listing, Nat.lt_succ_of_lt hp, h, heq⟩

/-- After all events the whole run is observed. -/
theorem observed_length (registry : Registry) (events : List Event) :
    observed registry events events.length = Loop.run { registry } events := by
  rw [observed, List.take_length]

/-- What completes a cycle is an event of the run. -/
theorem Completes.lt_length {cycle : Nat} {result : Fetched}
    (h : Completes events p cycle result) : p < events.length :=
  (List.getElem?_eq_some_iff.mp h.1).1

/-- **The last success wins.** In every run of the loop, for whatever order of ticks and ends of
fetches:

* without a success the registry stays as it was;
* otherwise it holds the complete snapshot of the listing that was fetched by the cycle that was the
  last to succeed;
* a failure changes nothing;
* the registry changes exactly at the successes, and each cycle has one completion at most;
* whenever somebody looks, there is the first snapshot or the complete snapshot of one listing. -/
theorem refresh_last_success_wins (registry : Registry) (events : List Event) :
    ((∀ p cycle listing, ¬ Completes events p cycle (.ok listing)) →
        (Loop.run { registry } events).registry = registry) ∧
    (∀ p cycle listing, Completes events p cycle (.ok listing) →
      (∀ q cycle' listing', p < q → ¬ Completes events q cycle' (.ok listing')) →
        (Loop.run { registry } events).registry.current =
          .build listing ((observed registry events p).registry.clock + 1)) ∧
    (∀ p cycle fault, events[p]? = some (.fetched cycle (.error fault)) →
      (observed registry events (p + 1)).registry = (observed registry events p).registry) ∧
    (∀ p, (observed registry events (p + 1)).registry ≠ (observed registry events p).registry ↔
      ∃ cycle listing, Completes events p cycle (.ok listing)) ∧
    (∀ p q cycle result result', Completes events p cycle result →
      Completes events q cycle result' → p = q) ∧
    ∀ n, (observed registry events n).registry.current = registry.current ∨
      ∃ p cycle listing, p < n ∧ Completes events p cycle (.ok listing) ∧
        (observed registry events n).registry.current =
          .build listing ((observed registry events p).registry.clock + 1) := by
  refine ⟨fun hnone => ?_, fun p cycle listing hlast hlater => ?_, fun p cycle fault hevent => ?_,
    fun p => registry_ne_iff, fun p q cycle result result' h h' => h.unique h',
    observed_current registry events⟩
  · rw [← observed_length,
      registry_eq_of_no_success (Nat.zero_le _) fun p _ _ cycle listing => hnone p cycle listing]
    rfl
  · rw [← observed_length, registry_eq_of_no_success hlast.lt_length
      fun q hq _ cycle' listing' => hlater q cycle' listing' hq, registry_succ_of_completes hlast]
    rfl
  · refine registry_succ_of_no_success fun cycle' listing h => ?_
    have heq := hevent.symm.trans h.1
    obtain ⟨-, heq⟩ := Event.fetched.inj (Option.some.inj heq)
    exact absurd heq (by simp)

/-- Two cycles of which the later one ends first: the earlier one is the last to succeed. -/
theorem refresh_overlapping :
    (Loop.run { registry := .initial }
      [.tick, .tick, .fetched 1 (.ok [{ name := "fast", formats := ["fast"] }]),
        .fetched 0 (.ok [{ name := "slow", formats := ["slow"] }])]).registry.current =
      .build [{ name := "slow", formats := ["slow"] }] 3 := by
  obtain ⟨-, hlast, -⟩ := refresh_last_success_wins .initial
    [.tick, .tick, .fetched 1 (.ok [{ name := "fast", formats := ["fast"] }]),
      .fetched 0 (.ok [{ name := "slow", formats := ["slow"] }])]
  refine hlast 3 0 _ ⟨rfl, by decide, fun q result hq hevent => ?_⟩ fun q cycle listing hq h => ?_
  · obtain rfl | rfl | rfl : q = 0 ∨ q = 1 ∨ q = 2 := by omega
    all_goals simp at hevent
  · have hlength := h.lt_length
    simp only [List.length_cons, List.length_nil] at hlength
    omega

end Switchboard.Alias.Refresh
