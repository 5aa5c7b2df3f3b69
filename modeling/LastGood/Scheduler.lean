import LastGood.Cache
import LastGood.Interval

/-!
# The reload scheduler

The scheduler reloads a cache at time zero and then once every interval, until it sees that
it is to stop or that nobody is left who could tell it. A reload that fails or panics does not
stop it. Time is counted in nanoseconds, and a reload takes none.

What the scheduler is told goes through a channel that keeps the latest word only. The loop
looks at the channel when it has a turn; it always has one before time passes. Words that
follow each other without a turn between them are one word to the loop, the last one.
-/

namespace LastGood

variable {σ C : Type}

/-- A channel over which a scheduler is told whether to stop. -/
structure StopChannel where
  /-- The latest word: whether to stop. -/
  word : Bool := false
  /-- Whether the loop has not looked at that word. -/
  unseen : Bool := false
  /-- Whether nobody is left who could say another one. -/
  abandoned : Bool := false
  deriving DecidableEq, Repr

/-- A cache with a scheduler that reloads it. -/
structure Scheduler (σ C : Type) where
  /-- The time between two reloads. -/
  interval : Interval
  /-- The time since the start. -/
  now : Nat := 0
  /-- How many reloads were due and have been made. -/
  ticks : Nat := 0
  /-- Whether the scheduler goes on. -/
  running : Bool := true
  /-- What it is told. -/
  channel : StopChannel := {}
  /-- The cache. -/
  cache : Cache C
  /-- The state of the store behind it. -/
  store : σ

/-- What can happen to a scheduler. -/
inductive SchedulerInput where
  /-- Time passes. -/
  | pass (nanos : Nat)
  /-- It is told to stop, or told not to. -/
  | signal (stop : Bool)
  /-- Nobody is left who could tell it anything. -/
  | abandon
  /-- Someone else reloads the cache. -/
  | reload
  /-- Its loop has a turn. -/
  | turn
  deriving DecidableEq, Repr

/-- What is done with a scheduler. -/
inductive SchedulerStep where
  /-- Time passes, and reloads are made as they become due. -/
  | pass (nanos : Nat)
  /-- The loop ends. -/
  | stop
  /-- Someone else reloads the cache. -/
  | reload
  deriving DecidableEq, Repr

/-- Microseconds pass. -/
def SchedulerInput.advance (micros : Nat) : SchedulerInput := .pass (micros * 1000)

namespace StopChannel

/-- Whether a look at the channel ends the loop: there is a new word to stop, or there will
    never be another word. -/
def endsLoop (channel : StopChannel) : Bool := channel.unseen && channel.word || channel.abandoned

/-- The channel after the loop has looked at it. -/
def seen (channel : StopChannel) : StopChannel := { channel with unseen := false }

/-- What a turn of the loop leads to. -/
def turn (channel : StopChannel) : List SchedulerStep :=
  if channel.endsLoop then [.stop] else []

/-- What is done when something happens. -/
def steps (channel : StopChannel) : SchedulerInput → List SchedulerStep
  | .pass nanos => channel.turn ++ [.pass nanos]
  | .turn => channel.turn
  | .reload => [.reload]
  | .signal _ | .abandon => []

/-- The channel after something has happened. A new word takes the place of the old one. -/
def after (channel : StopChannel) : SchedulerInput → StopChannel
  | .pass _ | .turn => channel.seen
  | .signal stop => { channel with word := stop, unseen := true }
  | .abandon => { channel with abandoned := true }
  | .reload => channel

end StopChannel

namespace Scheduler

/-- Who writes the log records of the scheduler. -/
def logTarget : String := "confcache_core::scheduler"

/-- The record of the start. -/
def startedLog (interval : Interval) : LogRecord :=
  ⟨.info, logTarget, "reload scheduler started", [("interval", .text interval.text)]⟩

/-- The record of the end. -/
def stoppedLog : LogRecord := ⟨.info, logTarget, "reload scheduler stopped", []⟩

/-- The record of a reload that panicked. -/
def brokenLog : LogRecord := ⟨.error, logTarget, "reload task did not complete", []⟩

/-- Reloads the cache. -/
def reloadNow (store : Store σ C) (scheduler : Scheduler σ C) :
    Outcome Unit × Scheduler σ C × List (CacheEvent C) :=
  let step := scheduler.cache.reload store scheduler.store
  (step.outcome, { scheduler with cache := step.cache, store := step.store }, step.events)

/-- Makes one reload that is due. -/
def tick (store : Store σ C) (scheduler : Scheduler σ C) :
    Scheduler σ C × List (CacheEvent C) :=
  let (outcome, reloaded, events) := scheduler.reloadNow store
  let broken :=
    match outcome with
    | .panicked _ => [CacheEvent.logged brokenLog]
    | _ => []
  ({ reloaded with ticks := scheduler.ticks + 1 }, events ++ broken)

/-- Makes some reloads that are due. -/
def takeTicks (store : Store σ C) (scheduler : Scheduler σ C) :
    (count : Nat) → Scheduler σ C × List (CacheEvent C)
  | 0 => (scheduler, [])
  | count + 1 =>
      let (next, events) := scheduler.tick store
      let (final, others) := takeTicks store next count
      (final, events ++ others)

/-- How many reloads are due by a time: one at its start, and one for every interval. -/
def dueBy (interval : Interval) (time : Nat) : Nat := 1 + time / interval.nanos

/-- Makes the reloads that are due now. -/
def catchUp (store : Store σ C) (scheduler : Scheduler σ C) :
    Scheduler σ C × List (CacheEvent C) :=
  if scheduler.running then
    scheduler.takeTicks store (dueBy scheduler.interval scheduler.now - scheduler.ticks)
  else (scheduler, [])

/-- Stops the scheduler, if it is running. -/
def stop (scheduler : Scheduler σ C) : Scheduler σ C × List (CacheEvent C) :=
  if scheduler.running then ({ scheduler with running := false }, [.logged stoppedLog])
  else (scheduler, [])

/-- The scheduler of a cache after its start, with the first reload made. -/
def start (store : Store σ C) (interval : Interval) (cache : Cache C) (state : σ) :
    Scheduler σ C × List (CacheEvent C) :=
  let (ready, events) := ({ interval, cache, store := state } : Scheduler σ C).catchUp store
  (ready, .logged (startedLog interval) :: events)

/-- Does one thing with a scheduler. -/
def obey (store : Store σ C) (scheduler : Scheduler σ C) :
    SchedulerStep → Scheduler σ C × List (CacheEvent C)
  | .pass nanos => { scheduler with now := scheduler.now + nanos }.catchUp store
  | .stop => scheduler.stop
  | .reload => (scheduler.reloadNow store).2

/-- Does some things with a scheduler, one after another. -/
def obeyAll (store : Store σ C) (scheduler : Scheduler σ C) :
    List SchedulerStep → Scheduler σ C × List (CacheEvent C)
  | [] => (scheduler, [])
  | step :: rest =>
      let (next, events) := scheduler.obey store step
      let (final, others) := next.obeyAll store rest
      (final, events ++ others)

/-- The scheduler after something happened to it. A word waits in the channel until the loop
    has a turn. -/
def receive (store : Store σ C) (scheduler : Scheduler σ C) (input : SchedulerInput) :
    Scheduler σ C × List (CacheEvent C) :=
  let (next, events) := scheduler.obeyAll store (scheduler.channel.steps input)
  ({ next with channel := scheduler.channel.after input }, events)

end Scheduler

end LastGood
