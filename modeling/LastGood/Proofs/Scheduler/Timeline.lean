import Mathlib.Algebra.GroupWithZero.Nat
import Mathlib.Data.List.Induction
import LastGood.Scheduler

/-!
# Timelines

What a scheduler has to do is known without it: a reload is due at every multiple of the
interval, up to the moment when its loop ends, and others reload the cache when they do. A timeline
puts both in the order of time. Playing it calls `Cache.reload` directly, once for each reload, and
knows nothing of intervals, ticks or a scheduler.

A timeline grows at its end, step by step.
-/

namespace LastGood

/-- What is done at a moment. -/
inductive MomentKind where
  /-- The scheduler makes a reload that is due. -/
  | due
  /-- Someone else reloads the cache. -/
  | direct
  /-- The scheduler stops. -/
  | stop
  deriving DecidableEq, Repr

/-- A moment at which something is done. -/
structure Moment where
  /-- The time since the start. -/
  time : Nat
  /-- What is done. -/
  kind : MomentKind
  deriving DecidableEq, Repr

namespace SchedulerStep

/-- The time that a step takes. -/
def nanos : SchedulerStep → Nat
  | .pass nanos => nanos
  | _ => 0

/-- Whether a step stops a scheduler. -/
def stops : SchedulerStep → Bool
  | .stop => true
  | _ => false

end SchedulerStep

namespace Scheduler

variable {σ C : Type}

/-- What others do at a time by a step: they reload the cache or stop a scheduler, if it runs. -/
def aside (running : Bool) (now : Nat) : SchedulerStep → List Moment
  | .reload => [⟨now, .direct⟩]
  | step => if running && step.stops then [⟨now, .stop⟩] else []

end Scheduler

end LastGood
