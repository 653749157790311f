import Switchboard.Alias.Registry
import Switchboard.Alias.Source

/-!
# Refreshing the registry

A refresh fetches the listing and replaces the commands by it. A failed fetch changes nothing.

In the refresh loop a cycle starts at every tick, whether or not earlier cycles are still waiting
for their fetch. Cycles finish in any order, and each successful one replaces the commands when it
finishes. The loop is a step system: `Loop.step` takes one event, a tick or the end of a fetch.

In simulated time nothing takes time but waiting, so the clock goes from one timer to the next: the
ticker of the loop, and the fetches under way. At a tick the loop starts a cycle as a task of its own
and waits for the next tick. When that is due is up to the ticker alone, which keeps the pace as long
as it is asked in time.
-/

namespace Switchboard.Alias

/-- Takes over the result of a fetch. -/
def Registry.take (registry : Registry) : Fetched → Registry
  | .ok listing => registry.replace listing
  | .error _ => registry

/-- Fetches the listing and takes over the result. -/
def Registry.refresh (registry : Registry) (source : Source) :
    Except FetchFault Unit × Registry × Source :=
  let (fetched, source) := source.fetch
  (fetched.map fun _ => (), registry.take fetched, source)

namespace Refresh

/-- What happens to a refresh loop. -/
inductive Event
  /-- The next cycle starts. -/
  | tick
  /-- The fetch of a cycle ends. Cycles are numbered from zero. -/
  | fetched (cycle : Nat) (result : Fetched)

/-- A refresh loop that is under way. -/
structure Loop where
  registry : Registry
  /-- How many cycles were started. -/
  started : Nat := 0
  /-- The cycles whose fetch has not ended. -/
  waiting : List Nat := []
  deriving Repr

namespace Loop

/-- One event. The end of a fetch that is not under way is no event of the loop. -/
def step (loop : Loop) : Event → Loop
  | .tick => { loop with started := loop.started + 1, waiting := loop.waiting ++ [loop.started] }
  | .fetched cycle result =>
    if cycle ∈ loop.waiting then
      { loop with
        registry := loop.registry.take result
        waiting := loop.waiting.filter (· ≠ cycle) }
    else loop

/-- Some events in order. -/
def run (loop : Loop) (events : List Event) : Loop := events.foldl step loop

end Loop

/-! ### Tickers -/

/-- A millisecond. All times are in nanoseconds. -/
def millisecond : Nat := 1000000

/-- A source of ticks. -/
structure Ticker where
  period : Nat
  period_pos : 0 < period
  /-- When the next tick is due. -/
  deadline : Nat := 0

namespace Ticker

/-- How late a tick may be taken before the later ones are put off. -/
def tolerance : Nat := 5 * millisecond

/-- The ticker behind a tick that was taken at a time. -/
def fire (ticker : Ticker) (now : Nat) : Ticker :=
  { ticker with
    deadline :=
      if ticker.deadline + tolerance < now then now + ticker.period
      else ticker.deadline + ticker.period }

/-- Ticks do not change the period. -/
theorem period_fire (ticker : Ticker) (now : Nat) : (ticker.fire now).period = ticker.period := by
  rw [fire]

/-- A tick that is taken in time puts off the next one by a period. -/
theorem deadline_fire (ticker : Ticker) :
    (ticker.fire ticker.deadline).deadline = ticker.deadline + ticker.period := by
  rw [fire, if_neg (Nat.not_lt.mpr (Nat.le_add_right _ _))]

end Ticker

/-- The interval that stands in for an interval of zero. -/
def defaultInterval : Nat := 120000 * millisecond

/-- The time between two ticks. -/
def period (interval : Nat) : Nat := if interval = 0 then defaultInterval else interval

/-- There is no loop without a pause: an interval of zero counts as the default. -/
theorem period_pos (interval : Nat) : 0 < period interval := by
  unfold period
  split
  · decide
  · next h => exact Nat.pos_of_ne_zero h

/-- The ticker of a loop: the first tick is due at once. -/
def ticker (interval : Nat) : Ticker := { period := period interval, period_pos := period_pos interval }

/-! ### Simulated time -/

/-- How a fetch goes. -/
structure Fetch where
  /-- How long it takes; nothing when it never ends. -/
  delay : Option Nat
  result : Fetched

/-- How each fetch goes, by the number of its cycle. -/
abbrev Timetable := Nat → Fetch

/-- A fetch under way that will end. -/
structure Pending where
  finish : Nat
  cycle : Nat
  result : Fetched

/-- Puts a fetch behind those that end no later. -/
def Pending.enqueue (fetch : Pending) : List Pending → List Pending
  | [] => [fetch]
  | other :: queue =>
    if fetch.finish < other.finish then fetch :: other :: queue
    else other :: enqueue fetch queue

/-- A refresh loop in simulated time. -/
structure Simulation where
  now : Nat := 0
  ticker : Ticker
  loop : Loop
  /-- The fetches under way, the first to end in front. -/
  pending : List Pending := []
  /-- When the cycles were started. -/
  starts : List Nat := []

namespace Simulation

/-- A tick: the next cycle is started with its fetch, and the loop waits for the next tick. -/
def tick (timetable : Timetable) (simulation : Simulation) : Simulation :=
  let now := simulation.ticker.deadline
  let cycle := simulation.loop.started
  let fetch := timetable cycle
  { now
    ticker := simulation.ticker.fire now
    loop := simulation.loop.step .tick
    pending :=
      match fetch.delay with
      | some delay => Pending.enqueue ⟨now + delay, cycle, fetch.result⟩ simulation.pending
      | none => simulation.pending
    starts := simulation.starts ++ [now] }

/-- The end of a fetch. -/
def complete (fetch : Pending) (rest : List Pending) (simulation : Simulation) : Simulation :=
  { simulation with
    now := fetch.finish
    loop := simulation.loop.step (.fetched fetch.cycle fetch.result)
    pending := rest }

/-- When the next timer fires. -/
def nextTime (simulation : Simulation) : Nat :=
  match simulation.pending with
  | [] => simulation.ticker.deadline
  | fetch :: _ => min fetch.finish simulation.ticker.deadline

/-- What the next timer brings about. A fetch that ends at the time of a tick goes first. -/
def step (timetable : Timetable) (simulation : Simulation) : Simulation :=
  match simulation.pending with
  | [] => simulation.tick timetable
  | fetch :: rest =>
    if fetch.finish ≤ simulation.ticker.deadline then simulation.complete fetch rest
    else simulation.tick timetable

/-- All that a step can do. -/
theorem step_cases (timetable : Timetable) (simulation : Simulation) :
    (∃ fetch rest, simulation.pending = fetch :: rest ∧ fetch.finish = simulation.nextTime ∧
      simulation.step timetable = simulation.complete fetch rest) ∨
    (simulation.nextTime = simulation.ticker.deadline ∧
      simulation.step timetable = simulation.tick timetable) := by
  unfold step nextTime
  cases hpending : simulation.pending with
  | nil => exact .inr ⟨rfl, rfl⟩
  | cons fetch rest =>
    by_cases hle : fetch.finish ≤ simulation.ticker.deadline
    · exact .inl ⟨fetch, rest, rfl, (Nat.min_eq_left hle).symm, if_pos hle⟩
    · exact .inr ⟨Nat.min_eq_right (Nat.le_of_not_le hle), if_neg hle⟩

/-- A tick is taken when it is due, whatever the fetch of its cycle is like. -/
theorem ticker_tick (timetable : Timetable) (simulation : Simulation) :
    (simulation.tick timetable).ticker = simulation.ticker.fire simulation.ticker.deadline := rfl

/-- Lets the timers fire that are due before a time. -/
def runUntil (timetable : Timetable) (time : Nat) (simulation : Simulation) : Simulation :=
  if simulation.nextTime < time then runUntil timetable time (simulation.step timetable)
  else simulation
termination_by (time - simulation.ticker.deadline, simulation.pending.length)
decreasing_by
  next hlt =>
  rcases simulation.step_cases timetable with ⟨fetch, rest, hpending, -, hstep⟩ | ⟨hnext, hstep⟩
  · rw [hstep, hpending]
    exact Prod.Lex.right _ (Nat.lt_succ_self _)
  · have hpos := simulation.ticker.period_pos
    rw [hstep, ticker_tick, Ticker.deadline_fire]
    exact Prod.Lex.left _ _ (by omega)

end Simulation

/-- A loop as it is found at a time after it was started, before the timers of that time. -/
def simulate (interval : Nat) (timetable : Timetable) (registry : Registry) (time : Nat) :
    Simulation :=
  Simulation.runUntil timetable time { ticker := ticker interval, loop := { registry } }

/-- The same with all times in milliseconds. -/
def loopAt (interval : Nat) (timetable : Timetable) (registry : Registry) (time : Nat) : Loop :=
  let inNanoseconds (fetch : Fetch) : Fetch :=
    { fetch with delay := fetch.delay.map (· * millisecond) }
  (simulate (interval * millisecond) (fun cycle => inNanoseconds (timetable cycle)) registry
    (time * millisecond)).loop

end Refresh

end Switchboard.Alias
