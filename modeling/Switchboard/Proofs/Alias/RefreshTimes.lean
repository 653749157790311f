import Mathlib.Tactic
import Switchboard.Alias.Refresh

/-!
# Start times of the refresh loop

The clock of a simulated loop is driven by the fetches too: each end of a fetch is a time at which
something happens. All the same the fetches have no say in when a cycle starts. A tick that is taken
when it is due moves the deadline by exactly one period, and the end of a fetch leaves the ticker
alone. So the deadline is determined by the number of ticks so far (`OnSchedule`), for every timetable
of fetches, of any number of them under way.

That the loop really gets to each of its ticks needs that fetches cannot hold up the clock. There are
only finitely many of them under way, so the run up to a time ends, and it ends behind all ticks that
are due before that time (`le_deadline_simulate`).

## Main results

* `Simulation.Timely.step`, `timely_simulate`: the clock never goes back, and no timer is passed over.
* `le_finish_of_mem_pending`: a run up to a time is past all fetches that end before it.
* `onSchedule_simulate`: along every run the cycles were started at the multiples of the period.
* `started_simulate`: how many there are at a time.
* `ticks_independent_of_fetches`: what a timetable cannot change.
* `exists_events`: a simulated loop is the run of a loop over some events.
-/

namespace Switchboard.Alias.Refresh

namespace Simulation

variable {timetable : Timetable} {simulation : Simulation} {time : Nat}

/-- **Runs.** What holds at first and is kept by every step before a time holds at that time. The
induction is on the steps that the run makes. -/
theorem runUntil_induction {P : Simulation → Prop}
    (hstep : ∀ simulation, simulation.nextTime < time → P simulation →
      P (simulation.step timetable)) (h : P simulation) :
    P (simulation.runUntil timetable time) := by
  induction simulation using runUntil.induct timetable time with
  | case1 simulation hlt ih =>
      rw [runUntil, if_pos hlt]
      exact ih (hstep simulation hlt h)
  | case2 simulation hnot =>
      rw [runUntil, if_neg hnot]
      exact h

/-- A run up to a time makes all steps before it. -/
theorem le_nextTime_runUntil (timetable : Timetable) (time : Nat) (simulation : Simulation) :
    time ≤ (simulation.runUntil timetable time).nextTime := by
  induction simulation using runUntil.induct timetable time with
  | case1 simulation hlt ih =>
      rw [runUntil, if_pos hlt]
      exact ih
  | case2 simulation hnot =>
      rw [runUntil, if_neg hnot]
      exact Nat.le_of_not_lt hnot

/-- No step goes past the next tick. -/
theorem nextTime_le_deadline (simulation : Simulation) :
    simulation.nextTime ≤ simulation.ticker.deadline := by
  unfold nextTime
  split
  · exact Nat.le_refl _
  · exact Nat.min_le_right _ _

/-- No step goes past the end of a fetch, if the fetches stand in the order in which they end. -/
theorem nextTime_le_finish (simulation : Simulation)
    (h : simulation.pending.Pairwise fun a b => a.finish ≤ b.finish) {fetch : Pending}
    (hfetch : fetch ∈ simulation.pending) : simulation.nextTime ≤ fetch.finish := by
  unfold nextTime
  split
  · next hnil => exact absurd (hnil ▸ hfetch) List.not_mem_nil
  · next first rest hcons =>
      rw [hcons] at h hfetch
      rcases List.mem_cons.mp hfetch with rfl | hrest
      · exact Nat.min_le_left _ _
      · exact (Nat.min_le_left _ _).trans ((List.pairwise_cons.mp h).1 fetch hrest)

end Simulation

/-! ### The clock -/

/-- A queue with one fetch more. -/
theorem Pending.mem_enqueue {fetch other : Pending} {queue : List Pending} :
    other ∈ fetch.enqueue queue ↔ other = fetch ∨ other ∈ queue := by
  induction queue with
  | nil => rw [enqueue, List.mem_singleton, or_iff_left List.not_mem_nil]
  | cons first queue ih =>
      rw [enqueue]
      split
      · rw [List.mem_cons]
      · rw [List.mem_cons, ih, List.mem_cons, or_left_comm]

/-- A queue stays in the order in which the fetches end. -/
theorem Pending.pairwise_enqueue {fetch : Pending} {queue : List Pending}
    (h : queue.Pairwise fun a b => a.finish ≤ b.finish) :
    (fetch.enqueue queue).Pairwise fun a b => a.finish ≤ b.finish := by
  induction queue with
  | nil => exact List.pairwise_singleton _ _
  | cons first queue ih =>
      obtain ⟨hfirst, hqueue⟩ := List.pairwise_cons.mp h
      rw [enqueue]
      split
      · next hlt =>
          refine List.pairwise_cons.mpr ⟨fun other hother => ?_, h⟩
          rcases List.mem_cons.mp hother with rfl | hother
          · exact Nat.le_of_lt hlt
          · exact (Nat.le_of_lt hlt).trans (hfirst other hother)
      · next hnot =>
          refine List.pairwise_cons.mpr ⟨fun other hother => ?_, ih hqueue⟩
          rcases mem_enqueue.mp hother with rfl | hother
          · exact Nat.le_of_not_lt hnot
          · exact hfirst other hother

/-- At most one fetch is new behind a tick, and it does not end before the tick. -/
theorem Simulation.pending_tick (timetable : Timetable) (simulation : Simulation) :
    (simulation.tick timetable).pending = simulation.pending ∨
      ∃ fetch : Pending, simulation.ticker.deadline ≤ fetch.finish ∧
        (simulation.tick timetable).pending = fetch.enqueue simulation.pending := by
  cases hdelay : (timetable simulation.loop.started).delay with
  | none =>
      left
      simp only [tick, hdelay]
  | some delay =>
      right
      let fetch : Pending := ⟨simulation.ticker.deadline + delay, simulation.loop.started,
        (timetable simulation.loop.started).result⟩
      refine ⟨fetch, Nat.le_add_right _ delay, ?_⟩
      simp only [tick, hdelay, fetch]

/-- The timers are all still to come, and those of the fetches are in order. -/
structure Simulation.Timely (simulation : Simulation) : Prop where
  deadline : simulation.now ≤ simulation.ticker.deadline
  finish : ∀ fetch ∈ simulation.pending, simulation.now ≤ fetch.finish
  ordered : simulation.pending.Pairwise fun a b => a.finish ≤ b.finish

/-- **The clock** never goes back, and no timer is passed over. -/
theorem Simulation.Timely.step {timetable : Timetable} {simulation : Simulation}
    (h : simulation.Timely) :
    simulation.now ≤ (simulation.step timetable).now ∧ (simulation.step timetable).Timely := by
  rcases simulation.step_cases timetable with ⟨fetch, rest, hpending, hnext, hstep⟩ | ⟨hnext, hstep⟩
  · obtain ⟨hdeadline, hfinish, hordered⟩ := h
    rw [hpending] at hfinish hordered
    obtain ⟨hfirst, hrest⟩ := List.pairwise_cons.mp hordered
    rw [hstep]
    have hle : fetch.finish ≤ simulation.ticker.deadline := by
      rw [hnext]
      exact simulation.nextTime_le_deadline
    exact ⟨hfinish fetch List.mem_cons_self, hle, hfirst, hrest⟩
  · have hpassed : ∀ fetch ∈ simulation.pending, simulation.ticker.deadline ≤ fetch.finish := by
      intro fetch hfetch
      rw [← hnext]
      exact simulation.nextTime_le_finish h.ordered hfetch
    have hdeadline : simulation.ticker.deadline ≤
        (simulation.tick timetable).ticker.deadline := by
      rw [ticker_tick, Ticker.deadline_fire]
      exact Nat.le_add_right _ _
    rw [hstep]
    rcases simulation.pending_tick timetable with hsame | ⟨fetch, hlate, hnew⟩
    · exact ⟨h.deadline, hdeadline, hsame ▸ hpassed, hsame ▸ h.ordered⟩
    · refine ⟨h.deadline, hdeadline, ?_, ?_⟩
      · rw [hnew]
        intro other hother
        rcases Pending.mem_enqueue.mp hother with rfl | hother
        · exact hlate
        · exact hpassed other hother
      · rw [hnew]
        exact Pending.pairwise_enqueue h.ordered

variable {interval time : Nat} {timetable : Timetable} {registry : Registry}
  {simulation : Simulation}

/-- **The timers** of a run are all still to come: no step passes one over, so no run does. -/
theorem timely_simulate (interval : Nat) (timetable : Timetable) (registry : Registry)
    (time : Nat) : (simulate interval timetable registry time).Timely := by
  refine Simulation.runUntil_induction (fun simulation _ h => h.step.2) ?_
  exact ⟨Nat.le_refl _, fun fetch hfetch => absurd hfetch List.not_mem_nil, List.Pairwise.nil⟩

/-- **Fetches end in time.** A fetch that is under way at a time does not end before it: all that end
before it are done. -/
theorem le_finish_of_mem_pending {fetch : Pending}
    (h : fetch ∈ (simulate interval timetable registry time).pending) : time ≤ fetch.finish :=
  (Simulation.le_nextTime_runUntil _ _ _).trans
    (Simulation.nextTime_le_finish _ (timely_simulate interval timetable registry time).ordered h)

/-! ### The schedule -/

/-- The cycles that were started before a time are on schedule, and so is the next tick. -/
structure OnSchedule (interval time : Nat) (simulation : Simulation) : Prop where
  period : simulation.ticker.period = period interval
  deadline : simulation.ticker.deadline = simulation.loop.started * Refresh.period interval
  starts : simulation.starts =
    (List.range simulation.loop.started).map (· * Refresh.period interval)
  before : ∀ start ∈ simulation.starts, start < time

/-- A tick before a time keeps the schedule, whatever the fetch of its cycle is like. -/
theorem OnSchedule.tick (h : OnSchedule interval time simulation)
    (hlt : simulation.ticker.deadline < time) :
    OnSchedule interval time (simulation.tick timetable) := by
  have hstarted : (simulation.tick timetable).loop.started = simulation.loop.started + 1 := rfl
  have hstarts : (simulation.tick timetable).starts =
      simulation.starts ++ [simulation.ticker.deadline] := rfl
  refine ⟨?_, ?_, ?_, ?_⟩
  · rw [Simulation.ticker_tick, Ticker.period_fire, h.period]
  · rw [Simulation.ticker_tick, Ticker.deadline_fire, h.deadline, h.period, hstarted, Nat.succ_mul]
  · rw [hstarts, hstarted, List.range_succ, List.map_append, List.map_singleton, ← h.starts,
      ← h.deadline]
  · rw [hstarts]
    intro start hstart
    rcases List.mem_append.mp hstart with hstart | hstart
    · exact h.before start hstart
    · rw [List.mem_singleton.mp hstart]
      exact hlt

/-- The end of a fetch keeps the schedule: it starts nothing. -/
theorem OnSchedule.complete (h : OnSchedule interval time simulation) (fetch : Pending)
    (rest : List Pending) : OnSchedule interval time (simulation.complete fetch rest) := by
  have hstarted : (simulation.complete fetch rest).loop.started = simulation.loop.started := by
    change (simulation.loop.step (.fetched fetch.cycle fetch.result)).started = _
    rw [Loop.step]
    split <;> rfl
  refine ⟨h.period, ?_, ?_, h.before⟩
  · rw [hstarted]
    exact h.deadline
  · rw [hstarted]
    exact h.starts

/-- **A step** before a time keeps the schedule. -/
theorem OnSchedule.step (h : OnSchedule interval time simulation)
    (hlt : simulation.nextTime < time) :
    OnSchedule interval time (simulation.step timetable) := by
  rcases simulation.step_cases timetable with ⟨fetch, rest, -, -, hstep⟩ | ⟨hnext, hstep⟩
  · rw [hstep]
    exact h.complete fetch rest
  · rw [hstep]
    exact h.tick (hnext ▸ hlt)

/-- **The schedule.** Along every run the cycles were started at the multiples of the period. -/
theorem onSchedule_simulate (interval : Nat) (timetable : Timetable) (registry : Registry)
    (time : Nat) : OnSchedule interval time (simulate interval timetable registry time) := by
  refine Simulation.runUntil_induction (fun simulation hlt h => h.step hlt) ?_
  exact ⟨rfl, (Nat.zero_mul _).symm, rfl, fun start hstart => absurd hstart List.not_mem_nil⟩

/-- A run gets past all ticks that are due before its time. -/
theorem le_deadline_simulate (interval : Nat) (timetable : Timetable) (registry : Registry)
    (time : Nat) : time ≤ (simulate interval timetable registry time).ticker.deadline :=
  (Simulation.le_nextTime_runUntil _ _ _).trans (Simulation.nextTime_le_deadline _)

/-- A cycle was started exactly if its tick was due. -/
theorem lt_started_simulate_iff {k : Nat} :
    k < (simulate interval timetable registry time).loop.started ↔ k * period interval < time := by
  have hschedule := onSchedule_simulate interval timetable registry time
  have hdeadline := le_deadline_simulate interval timetable registry time
  have hpos := period_pos interval
  rw [hschedule.deadline] at hdeadline
  constructor
  · intro hlt
    refine hschedule.before _ ?_
    rw [hschedule.starts]
    exact List.mem_map.mpr ⟨k, List.mem_range.mpr hlt, rfl⟩
  · intro hlt
    exact lt_of_mul_lt_mul_right (hlt.trans_le hdeadline) (Nat.zero_le _)

/-- **The number of cycles** at a time that is no tick. -/
theorem started_simulate (h : ¬ period interval ∣ time) :
    (simulate interval timetable registry time).loop.started = time / period interval + 1 := by
  have hpos := period_pos interval
  have hiff (k : Nat) : k < (simulate interval timetable registry time).loop.started ↔
      k ≤ time / period interval := by
    rw [lt_started_simulate_iff, Nat.le_div_iff_mul_le hpos]
    refine ⟨Nat.le_of_lt, fun hle => lt_of_le_of_ne hle ?_⟩
    rintro rfl
    exact h (Nat.dvd_mul_left _ _)
  have hlast := (hiff (time / period interval)).mpr (Nat.le_refl _)
  have hnext := (hiff (time / period interval + 1)).not.mpr (Nat.not_succ_le_self _)
  omega

/-- The start times, as a function of the interval and the time alone. -/
theorem starts_simulate_eq (interval : Nat) (timetable timetable' : Timetable)
    (registry registry' : Registry) (time : Nat) :
    (simulate interval timetable registry time).starts =
      (simulate interval timetable' registry' time).starts := by
  have hstarted : (simulate interval timetable registry time).loop.started =
      (simulate interval timetable' registry' time).loop.started := by
    refine eq_of_forall_lt_iff fun k => ?_
    rw [lt_started_simulate_iff, lt_started_simulate_iff]
  rw [(onSchedule_simulate interval timetable registry time).starts,
    (onSchedule_simulate interval timetable' registry' time).starts, hstarted]

/-- **Ticks are independent of fetches.** For every interval and every timetable of fetches, of which
any number may be slow, fail or never end:

* cycle number `k`, counted from zero, starts exactly `k` periods after the loop, and is started as
  soon as that time is over;
* at a time that is no tick, as many cycles and so as many fetches were started as there are whole
  periods up to then, and one more;
* another timetable gives the same start times. -/
theorem ticks_independent_of_fetches (interval : Nat) (timetable : Timetable)
    (registry : Registry) :
    (∀ k time start, (simulate interval timetable registry time).starts[k]? = some start ↔
      start = k * period interval ∧ start < time) ∧
    (∀ time, ¬ period interval ∣ time →
      (simulate interval timetable registry time).starts.length = time / period interval + 1 ∧
      (simulate interval timetable registry time).loop.started = time / period interval + 1) ∧
    ∀ timetable' time, (simulate interval timetable' registry time).starts =
      (simulate interval timetable registry time).starts := by
  refine ⟨fun k time start => ?_, fun time htime => ?_, fun timetable' time =>
    starts_simulate_eq interval timetable' timetable registry registry time⟩
  · rw [(onSchedule_simulate interval timetable registry time).starts, List.getElem?_map,
      Option.map_eq_some_iff]
    constructor
    · rintro ⟨j, hj, rfl⟩
      obtain ⟨hlt, hval⟩ := List.getElem?_eq_some_iff.mp hj
      rw [List.length_range] at hlt
      rw [List.getElem_range] at hval
      rw [← hval]
      exact ⟨rfl, lt_started_simulate_iff.mp hlt⟩
    · rintro ⟨rfl, hlt⟩
      exact ⟨k, List.getElem?_range (lt_started_simulate_iff.mpr hlt), rfl⟩
  · have hstarted : (simulate interval timetable registry time).loop.started = _ :=
      started_simulate htime
    refine ⟨?_, hstarted⟩
    rw [(onSchedule_simulate interval timetable registry time).starts, List.length_map,
      List.length_range, hstarted]

/-- A loop with an interval of zero whose fetches never end: after 250 seconds it has started three
of them, the last one at 240 seconds. -/
theorem ticks_hanging :
    let hanging : Timetable := fun _ => { delay := none, result := .error (.transport "") }
    (simulate 0 hanging .initial (250000 * millisecond)).loop.started = 3 ∧
      (simulate 0 hanging .initial (250000 * millisecond)).starts[2]? =
        some (240000 * millisecond) := by
  intro hanging
  obtain ⟨hstarts, hcount, -⟩ := ticks_independent_of_fetches 0 hanging .initial
  obtain ⟨-, hstarted⟩ := hcount (250000 * millisecond) (by decide)
  exact ⟨hstarted, (hstarts 2 _ _).mpr (by decide)⟩

/-! ### Runs of the loop -/

/-- **Events.** What a simulation does to its loop is a run of the loop, so that what is known of all
runs is known of it. -/
theorem exists_events (interval : Nat) (timetable : Timetable) (registry : Registry) (time : Nat) :
    ∃ events, (simulate interval timetable registry time).loop = Loop.run { registry } events := by
  refine Simulation.runUntil_induction
    (P := fun simulation => ∃ events, simulation.loop = Loop.run { registry } events)
    (fun simulation _ h => ?_) ⟨[], rfl⟩
  obtain ⟨events, hloop⟩ := h
  have happend (event : Event) :
      (simulation.loop.step event) = Loop.run { registry } (events ++ [event]) := by
    rw [hloop, Loop.run, Loop.run, List.foldl_append]
    rfl
  rcases simulation.step_cases timetable with ⟨fetch, rest, -, -, hstep⟩ | ⟨-, hstep⟩
  · rw [hstep]
    exact ⟨_, happend (.fetched fetch.cycle fetch.result)⟩
  · rw [hstep]
    exact ⟨_, happend .tick⟩

end Switchboard.Alias.Refresh
