import LastGood.Cache

/-!
# Operations of the cache

The operations as values, so that a history of the cache is a list. An answer is what an
operation returns when it neither fails nor panics.
-/

namespace LastGood

variable {σ C π : Type}

/-- An operation of the cache. -/
inductive Operation (C : Type) (π : Type := PanicPayload) where
  /-- Load. -/
  | reload
  /-- Load unless something was installed. -/
  | ensureLoaded
  /-- Get the configuration to edit. -/
  | forEditing
  /-- Run a command. -/
  | writeWithLock (command : Command C)
  /-- Replace the persisted configuration. -/
  | save (content : String) (migrate : Bool)
  /-- Add a listener. -/
  | register (listener : Listener C π)
  /-- Tell all listeners again. -/
  | renotify
  /-- Drop all listeners. -/
  | clearListeners

/-- What an operation returns. -/
inductive Answer (C : Type) where
  /-- Nothing. -/
  | done
  /-- A configuration. -/
  | config (config : C)
  /-- What a locked write did. -/
  | saved (state : SaveState)
  deriving DecidableEq, Repr

/-- The same step with another answer. -/
def Step.map {α β : Type} (f : α → β) (step : Step σ C α π) : Step σ C β π :=
  { step with outcome := step.outcome.map f }

namespace Cache

/-- Performs an operation. -/
def perform [Payload π] (store : Store σ C) (operation : Operation C π) (state : σ)
    (cache : Cache C π) : Step σ C (Answer C) π :=
  match operation with
  | .reload => (cache.reload store state).map fun _ => .done
  | .ensureLoaded => (cache.ensureLoaded store state).map fun _ => .done
  | .forEditing => (cache.forEditing store state).map .config
  | .writeWithLock command => (cache.writeWithLock store command state).map .saved
  | .save content migrate => (cache.save store content migrate state).map fun _ => .done
  | .register listener => (cache.register listener state).map fun _ => .done
  | .renotify => (cache.renotify store state).map fun _ => .done
  | .clearListeners => (cache.clearListeners state).map fun _ => .done

end Cache

namespace HealthService

/-- Follows events: takes the reports in, and puts what is logged about each behind it. -/
def follow (service : HealthService) :
    List (CacheEvent C) → HealthService × List (CacheEvent C)
  | [] => (service, [])
  | .reported state :: rest =>
      let (updated, logs) := service.update state
      let (final, events) := updated.follow rest
      (final, .reported state :: logs.map .logged ++ events)
  | event :: rest =>
      let (final, events) := service.follow rest
      (final, event :: events)

end HealthService

end LastGood
