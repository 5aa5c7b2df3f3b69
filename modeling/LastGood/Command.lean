import LastGood.Config
import LastGood.ConfigError

/-!
# Commands

A command edits a configuration in place and says whether its change may be kept. A
command that refuses, or panics, may have edited part of the configuration before; what
it leaves behind is for whoever runs it to drop. A command can also expose the checksum
of the revision that it was prepared against, so that it is not run on another one.
-/

namespace LastGood

/-- What a command says about its change. -/
inductive Verdict where
  /-- The change may be kept. -/
  | accepted
  /-- The change may not be kept. -/
  | refused (error : ConfigError)
  /-- The command panicked with this message. -/
  | panicked (message : String)
  deriving DecidableEq, Repr

/-- An edit of a configuration. -/
structure Command (C : Type) where
  /-- The edited configuration, and whether it may be kept. -/
  update : C → C × Verdict
  /-- The checksum of the revision that the edit was prepared against. -/
  expected : Option String := none

namespace Command

variable {C : Type}

/-- The command refused unless the revision has this checksum. Around a command that
    expects a checksum already, the outer one counts. -/
def expecting (checksum : String) (command : Command C) : Command C :=
  { command with expected := some checksum }

/-- The command that expects the last of some checksums, if there is one. -/
def expectingAll (checksums : List String) (command : Command C) : Command C :=
  checksums.foldl (fun inner checksum => inner.expecting checksum) command

/-- Only the outermost checksum is exposed. -/
@[simp] theorem expected_expecting (checksum : String) (command : Command C) :
    (command.expecting checksum).expected = some checksum := rfl

/-- What a checksum is expected around is the same edit. -/
@[simp] theorem update_expecting (checksum : String) (command : Command C) :
    (command.expecting checksum).update = command.update := rfl

/-- A refusal with a reason. -/
def refusal (config : C) (reason : String) : C × Verdict := (config, .refused (.rejected reason))

/-- Changes the port that the server listens on. -/
def setServerPort (port : UInt16) : Command Config where
  update config :=
    if port = 0 then refusal config "port must be non-zero"
    else ({ config with server := { config.server with port } }, .accepted)

/-- Adds a pipeline at the end. No other may have its name. -/
def addPipeline (pipeline : PipelineConfig) : Command Config where
  update config :=
    if (config.pipeline? pipeline.name).isSome then
      refusal config ("pipeline '" ++ pipeline.name ++ "' already exists")
    else ({ config with pipelines := config.pipelines ++ [pipeline] }, .accepted)

/-- Removes the pipelines of a name. There must be one. -/
def removePipeline (name : String) : Command Config where
  update config :=
    let kept := config.pipelines.filter fun pipeline => pipeline.name != name
    let edited := { config with pipelines := kept }
    if kept.length = config.pipelines.length then
      refusal edited ("pipeline '" ++ name ++ "' does not exist")
    else (edited, .accepted)

end Command

end LastGood
