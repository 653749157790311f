import Switchboard.Alias.Dispatch

/-!
# Scripted executors

A scripted executor answers requests with the answers that were queued for it, in order, and with a
fallback once they are used up. It keeps the requests that it received and what it answered.
-/

namespace Switchboard.Alias

/-- An executor that answers from a script. -/
structure Executor where
  script : List Answer := []
  fallback : Answer
  /-- The requests received so far with their answers, in order. -/
  log : List (Request × Answer) := []
  deriving Repr

namespace Executor

/-- Queues an answer. -/
def queue (executor : Executor) (answer : Answer) : Executor :=
  { executor with script := executor.script ++ [answer] }

/-- The next answer. -/
def next (executor : Executor) : Answer := executor.script.head?.getD executor.fallback

/-- Answers a request. -/
def submit (executor : Executor) (request : Request) : Answer × Executor :=
  (executor.next,
    { executor with
      script := executor.script.tail
      log := executor.log ++ [(request, executor.next)] })

/-- The requests received so far. -/
def requests (executor : Executor) : List Request := executor.log.map Prod.fst

/-- The identifiers of executions in the answers given so far. -/
def executionIds (executor : Executor) : List String :=
  executor.log.filterMap fun entry =>
    match entry.2 with
    | .response _ body => some (executionId body)
    | .failure _ => none

end Executor

end Switchboard.Alias
