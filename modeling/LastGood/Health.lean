import LastGood.Choice
import LastGood.Log

/-!
# Health

Health is reported by scope: each report replaces the one before it for the same
scope. The service that keeps the reports is healthy when none of them is an error,
and logs the two changes between health and its opposite; a scope that was never
reported counts as healthy.
-/

namespace LastGood

/-- The message reported while the persisted configuration cannot be loaded. -/
def invalidConfiguration : String := "Invalid Configuration"

/-- The area that a report is about. -/
inductive HealthScope where
  /-- Validity of the persisted configuration. -/
  | invalidConfig
  deriving DecidableEq, Repr

namespace HealthScope

/-- How a scope is shown. -/
def display : HealthScope → String
  | .invalidConfig => "invalid-config"

/-- The name that a scope is written as. -/
def name : HealthScope → String
  | .invalidConfig => "invalid_config"

/-- The scopes under their names. -/
def known : List (String × HealthScope) := [("invalid_config", .invalidConfig)]

/-- A scope as a tree. -/
def toTree {α : Type} (mark : α) (scope : HealthScope) : Tree α := .text mark scope.name

/-- Reads a scope. -/
def read {α : Type} : Reader α HealthScope := Tree.readChoice known

end HealthScope

/-- What a report says. -/
inductive HealthStatus where
  /-- All is well. -/
  | healthy
  /-- Something is wrong. -/
  | error (message description : String)
  deriving DecidableEq, Repr

namespace HealthStatus

/-- A status as a tree: its name under `status`, the texts of an error beside it. -/
def toTree {α : Type} (mark : α) : HealthStatus → Tree α
  | .healthy => .map mark [("status", .text mark "healthy")]
  | .error message description =>
      .map mark [("status", .text mark "error"), ("message", .text mark message),
        ("description", .text mark description)]

/-- The texts of an error. -/
structure Detail where
  /-- What is wrong. -/
  message : String
  /-- More about it. -/
  description : String
  deriving DecidableEq, Repr

/-- How the texts of an error are read. -/
def Detail.record {α : Type} : Record α Detail where
  name := "struct variant HealthStatus::Error"
  blank := ⟨"", ""⟩
  fields := [
    ⟨"message", true, fun detail tree =>
      (tree.readText "a string").map ({ detail with message := · })⟩,
    ⟨"description", true, fun detail tree =>
      (tree.readText "a string").map ({ detail with description := · })⟩]

/-- The names of the two statuses, with whether texts belong to them. -/
def known : List (String × Bool) := [("healthy", false), ("error", true)]

/-- The status with the texts of an error. -/
def ofDetail (detail : Detail) : HealthStatus := .error detail.message detail.description

/-- The number of items that stand behind the name in a list, as an expectation. -/
def itemCount (count : Nat) : String := toString count ++ " elements in sequence"

/-- Reads a status from a map with its name among the texts, or from a list that starts
    with the name. -/
def read {α : Type} : Reader α HealthStatus
  | tree@(.map mark entries) =>
      match Entries.get? "status" entries with
      | none => .error (tree.fault (.missingField "status"))
      | some tag => do
          let hasDetail ← tag.readTag known
          if hasDetail then (Detail.record.read ⟨false⟩ (.map mark entries)).map ofDetail
          else return .healthy
  | tree@(.list _ []) => .error (tree.fault (.missingField "status"))
  | tree@(.list _ (tag :: rest)) => do
      let hasDetail ← tag.readTag known
      if hasDetail then
        let (detail, extra) ←
          Detail.record.readPositions tree ⟨"", ""⟩ 0 Detail.record.fields rest
        if extra.isEmpty then return ofDetail detail
        else .error (tree.fault (.wrongLength rest.length (itemCount 2)))
      else if rest.isEmpty then return .healthy
      else .error (tree.fault (.wrongLength rest.length (itemCount 0)))
  | tree => tree.refused "internally tagged enum HealthStatus"

end HealthStatus

/-- One report. -/
structure HealthState where
  /-- The area it is about. -/
  scope : HealthScope
  /-- What it says. -/
  status : HealthStatus
  deriving DecidableEq, Repr

namespace HealthState

/-- The report that all is well. -/
def success (scope : HealthScope) : HealthState := ⟨scope, .healthy⟩

/-- The report that something is wrong. -/
def error (scope : HealthScope) (message description : String) : HealthState :=
  ⟨scope, .error message description⟩

/-- Whether the report is a good one. -/
def isHealthy (state : HealthState) : Bool := state.status == .healthy

/-- A report as a tree. -/
def toTree {α : Type} (mark : α) (state : HealthState) : Tree α :=
  .map mark [("scope", state.scope.toTree mark), ("status", state.status.toTree mark)]

/-- How a report is read. -/
def record {α : Type} : Record α HealthState where
  name := "struct HealthState"
  blank := success .invalidConfig
  fields := [
    ⟨"scope", true, fun state tree => (HealthScope.read tree).map ({ state with scope := · })⟩,
    ⟨"status", true, fun state tree => (HealthStatus.read tree).map ({ state with status := · })⟩]

end HealthState

/-- The latest report for every scope that was reported. -/
structure HealthService where
  /-- At most one report for each scope. -/
  reports : List HealthState := []
  deriving DecidableEq, Repr

namespace HealthService

/-- The latest report for a scope. -/
def get? (service : HealthService) (scope : HealthScope) : Option HealthState :=
  service.reports.find? fun report => report.scope == scope

/-- The reports that are errors. -/
def errors (service : HealthService) : List HealthState :=
  service.reports.filter fun report => !report.isHealthy

/-- Whether no report is an error. -/
def isHealthy (service : HealthService) : Bool := service.errors.isEmpty

/-- The target of the records of the service. -/
def logTarget : String := "confcache_core::health"

/-- What is logged when a report follows a state of health. -/
def changeLog (wasHealthy : Bool) (report : HealthState) : List LogRecord :=
  let fields := [("scope", FieldValue.text report.scope.display)]
  match wasHealthy, report.isHealthy with
  | true, false => [⟨.warn, logTarget, "health degraded", fields⟩]
  | false, true => [⟨.info, logTarget, "health recovered", fields⟩]
  | _, _ => []

/-- The service after a report, and what is logged on the way. -/
def update (service : HealthService) (report : HealthState) : HealthService × List LogRecord :=
  let wasHealthy := (service.get? report.scope).all HealthState.isHealthy
  let others := service.reports.filter fun other => other.scope != report.scope
  (⟨others ++ [report]⟩, changeLog wasHealthy report)

end HealthService

end LastGood
