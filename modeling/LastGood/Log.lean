/-!
# Log records

A record has a level, the target that wrote it, a message, and named fields in the
order they were given. A record is written as one line, in words or as a JSON object.
-/

namespace LastGood

/-- How important a record is. -/
inductive Level where
  /-- Something failed. -/
  | error
  /-- Something needs attention. -/
  | warn
  /-- Something happened. -/
  | info
  /-- Detail for whoever looks for it. -/
  | debug
  /-- Every step. -/
  | trace
  deriving DecidableEq, Repr

namespace Level

/-- The name of a level, as records carry it. -/
def name : Level → String
  | .error => "ERROR"
  | .warn => "WARN"
  | .info => "INFO"
  | .debug => "DEBUG"
  | .trace => "TRACE"

/-- How much a level lets through: one for errors alone up to five for everything. -/
def rank : Level → Nat
  | .error => 1
  | .warn => 2
  | .info => 3
  | .debug => 4
  | .trace => 5

end Level

/-- The value of a field. -/
inductive FieldValue where
  /-- A text. -/
  | text (value : String)
  /-- A number. -/
  | nat (value : Nat)
  /-- A truth value. -/
  | bool (value : Bool)
  deriving DecidableEq, Repr

/-- One record. -/
structure LogRecord where
  /-- Its level. -/
  level : Level
  /-- Who wrote it. -/
  target : String
  /-- What happened. -/
  message : String
  /-- Details, in order. -/
  fields : List (String × FieldValue) := []
  deriving DecidableEq, Repr

end LastGood
