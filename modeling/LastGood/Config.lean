import LastGood.Directory

/-!
# Server configuration

A configuration holds the version of its schema, the settings of the server, and the
pipelines in their order; nothing forces the names of the pipelines to differ. Every
field has a default except the name of a pipeline.

There are two defaults for the schema version. A configuration made from nothing has
the current version, whereas a written record that leaves the version out has none,
which counts as zero.
-/

namespace LastGood

/-- The schema version that this library writes. -/
def currentSchemaVersion : UInt32 := 3

/-- Settings of the whole server. -/
structure ServerConfig where
  /-- Address to listen on. -/
  host : String := "0.0.0.0"
  /-- Port to listen on. -/
  port : UInt16 := 8153
  /-- Directory that artifacts are stored under. -/
  artifactsDir : Directory := ⟨"artifacts"⟩
  /-- Jobs that run for more seconds are cancelled; without a value, never. -/
  jobTimeoutSecs : Option UInt64 := none
  deriving DecidableEq, Repr

/-- A single pipeline. -/
structure PipelineConfig where
  /-- Name of the pipeline. -/
  name : String
  /-- Group that the pipeline belongs to. -/
  group : String := "defaultGroup"
  /-- Addresses of the repositories that the pipeline builds from. -/
  materials : List String := []
  /-- Whether the pipeline runs at all. -/
  enabled : Bool := true
  deriving DecidableEq, Repr

/-- The whole configuration. -/
structure Config where
  /-- Version of the schema. -/
  schemaVersion : UInt32 := currentSchemaVersion
  /-- Settings of the server. -/
  server : ServerConfig := {}
  /-- The pipelines, in order. -/
  pipelines : List PipelineConfig := []
  deriving DecidableEq, Repr

/-- The pipeline of a name with all else at its default. -/
def PipelineConfig.named (name : String) : PipelineConfig := { name }

/-- Whether two server settings agree; directories are compared as paths. -/
def ServerConfig.sameAs (a b : ServerConfig) : Bool :=
  a.host == b.host && a.port == b.port && a.artifactsDir.sameAs b.artifactsDir &&
    a.jobTimeoutSecs == b.jobTimeoutSecs

namespace Config

/-- Whether two configurations agree; directories are compared as paths. -/
def sameAs (a b : Config) : Bool :=
  a.schemaVersion == b.schemaVersion && a.server.sameAs b.server && a.pipelines == b.pipelines

/-- Whether the configuration can be written down: its directory has a text. -/
def isText (config : Config) : Bool := config.server.artifactsDir.text?.isSome

/-- The first pipeline with a name. -/
def pipeline? (config : Config) (name : String) : Option PipelineConfig :=
  config.pipelines.find? fun pipeline => pipeline.name == name

/-- A configuration agrees with itself. -/
@[simp] theorem sameAs_refl (config : Config) : config.sameAs config = true := by
  simp [sameAs, ServerConfig.sameAs]

end Config

end LastGood
