import LastGood.Path

/-!
# Errors

An error says which step of keeping a configuration failed. Its message is one line
of prose around the details it was made with. Two kinds have something behind them
that caused them: an input or output error has the reason that the disk gave, and the
error of an empty cache has the failure of the last load, if there was one.
-/

namespace LastGood

/-- What can go wrong with a configuration. -/
inductive ConfigError where
  /-- The persisted configuration could not be read or written. -/
  | io (path : Path) (reason : String)
  /-- The persisted configuration is malformed. -/
  | parse (detail : String)
  /-- The configuration could not be written as text. -/
  | serialize (detail : String)
  /-- A command refused to make its change. -/
  | rejected (detail : String)
  /-- The edit was prepared against another revision than the current one. -/
  | conflict (expected actual : String)
  /-- A listener could not apply a configuration. -/
  | listener (detail : String)
  /-- No configuration has ever been installed, and no load has failed. -/
  | notLoaded
  /-- No configuration has ever been installed, and this is how the last load failed. -/
  | notLoadedAfter (cause : ConfigError)
  deriving DecidableEq, Repr

namespace ConfigError

/-- The message of an error. -/
def message : ConfigError → String
  | .io path reason => "I/O error on " ++ path.text ++ ": " ++ reason
  | .parse detail => "parse error: " ++ detail
  | .serialize detail => "serialization error: " ++ detail
  | .rejected detail => "update rejected: " ++ detail
  | .conflict expected actual =>
      "configuration changed since it was read (expected " ++ expected ++ ", found " ++ actual ++
        ")"
  | .listener detail => "listener failed: " ++ detail
  | .notLoaded | .notLoadedAfter _ => "invalid config file: no configuration has been loaded"

/-- The messages of what caused an error, the nearest cause first. -/
def sources : ConfigError → List String
  | .io _ reason => [reason]
  | .notLoadedAfter cause => cause.message :: cause.sources
  | _ => []

/-- Whether the error says that the cache was never filled. -/
def isNotLoaded : ConfigError → Bool
  | .notLoaded | .notLoadedAfter _ => true
  | _ => false

/-- The error of an empty cache, given how its last load failed, if one did. -/
def ofEmptyCache : Option ConfigError → ConfigError
  | none => .notLoaded
  | some cause => .notLoadedAfter cause

end ConfigError

/-- How a call to a collaborator ended: with a value, with an error, or in a panic that
    left nothing but its message. -/
inductive Outcome (α : Type) where
  /-- The call returned a value. -/
  | ok (value : α)
  /-- The call returned an error. -/
  | failed (error : ConfigError)
  /-- The call panicked. -/
  | panicked (message : String)
  deriving DecidableEq, Repr

namespace Outcome

variable {α β : Type}

/-- The same end with another value. -/
def map (f : α → β) : Outcome α → Outcome β
  | .ok value => .ok (f value)
  | .failed error => .failed error
  | .panicked message => .panicked message

/-- What a call that returned a value goes on to; any other end stays as it is. -/
def andThen (outcome : Outcome α) (next : α → Outcome β) : Outcome β :=
  match outcome with
  | .ok value => next value
  | .failed error => .failed error
  | .panicked message => .panicked message

/-- The value, if the call returned one. -/
def value? : Outcome α → Option α
  | .ok value => some value
  | _ => none

/-- The value of a call that answers is mapped. -/
@[simp] theorem map_ok (f : α → β) (value : α) : (Outcome.ok value).map f = .ok (f value) := rfl

/-- A call that failed has failed with the same error. -/
@[simp] theorem map_failed (f : α → β) (error : ConfigError) :
    (Outcome.failed error).map f = .failed error := rfl

/-- A call that panicked has panicked with the same message. -/
@[simp] theorem map_panicked (f : α → β) (message : String) :
    (Outcome.panicked message : Outcome α).map f = .panicked message := rfl

end Outcome

end LastGood
