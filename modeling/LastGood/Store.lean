import LastGood.Command
import LastGood.Log
import LastGood.Snapshot

/-!
# Stores

A store keeps a configuration where it outlives the program. It has a state of its own;
each call gives an outcome, the state after the call, and what was logged during it. The
state after a call that failed or panicked is part of the description, too.
-/

namespace LastGood

/-- What a call to a store amounts to. -/
structure Called (σ α : Type) where
  /-- How it ended. -/
  outcome : Outcome α
  /-- The state of the store after it. -/
  state : σ
  /-- What was logged, in order. -/
  logs : List LogRecord := []

/-- A place where configurations are kept. -/
structure Store (σ C : Type) where
  /-- The configuration of a cache into which nothing was ever loaded. -/
  fallback : C
  /-- Reads the persisted configuration; `none` says that it is the one that was handed
      out last. -/
  load : σ → Called σ (Option (Snapshot C))
  /-- Replaces the persisted configuration by a text, which is brought to the current
      schema version if `migrate` is set. -/
  write : σ → (content : String) → (migrate : Bool) → Called σ (Snapshot C)
  /-- Applies a command to a snapshot, or to the persisted configuration if there is none,
      and persists the result. -/
  writeWithLock : σ → Command C → (base : Option (Snapshot C)) → Called σ (SaveResult C)
  /-- Where the configuration is kept. -/
  location : σ → Path

end LastGood
