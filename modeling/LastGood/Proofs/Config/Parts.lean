import LastGood.Config.Record
import LastGood.Proofs.Tree.Parts

/-!
# The parts of a configuration

The records of server settings, pipelines and configurations are made of their fields: each field
reads one part and leaves the others alone, and together they are all there is. A part that is
missing has the default of its record. Only the name of a pipeline has none.
-/

namespace LastGood

variable {α : Type}

/-- The parts of server settings. -/
def ServerConfig.slots : List (Slot α ServerConfig) := [
  ⟨"host", String, Tree.readText "a string", host, fun server part => { server with host := part },
    some ({} : ServerConfig).host⟩,
  ⟨"port", UInt16, Tree.readUInt16, port, fun server part => { server with port := part },
    some ({} : ServerConfig).port⟩,
  ⟨"artifacts_dir", Directory, Directory.read, artifactsDir,
    fun server part => { server with artifactsDir := part },
    some ({} : ServerConfig).artifactsDir⟩,
  ⟨"job_timeout_secs", Option UInt64, Tree.readOptional Tree.readUInt64, jobTimeoutSecs,
    fun server part => { server with jobTimeoutSecs := part },
    some ({} : ServerConfig).jobTimeoutSecs⟩]

/-- The parts of a pipeline. -/
def PipelineConfig.slots : List (Slot α PipelineConfig) := [
  ⟨"name", String, Tree.readText "a string", name,
    fun pipeline part => { pipeline with name := part }, none⟩,
  ⟨"group", String, Tree.readText "a string", group,
    fun pipeline part => { pipeline with group := part }, some (named "").group⟩,
  ⟨"materials", List String, Tree.readList (Tree.readText "a string"), materials,
    fun pipeline part => { pipeline with materials := part }, some (named "").materials⟩,
  ⟨"enabled", Bool, Tree.readBool, enabled,
    fun pipeline part => { pipeline with enabled := part }, some (named "").enabled⟩]

/-- The parts of a configuration. A version that is missing counts as zero. -/
def Config.slots (strictness : Strictness) : List (Slot α Config) := [
  ⟨"schema_version", UInt32, Tree.readUInt32, schemaVersion,
    fun config part => { config with schemaVersion := part }, some 0⟩,
  ⟨"server", ServerConfig, ServerConfig.record.read strictness, server,
    fun config part => { config with server := part }, some ({} : Config).server⟩,
  ⟨"pipelines", List PipelineConfig,
    Tree.readList (PipelineConfig.record.read strictness), pipelines,
    fun config part => { config with pipelines := part }, some ({} : Config).pipelines⟩]

/-- Server settings are made of their parts. -/
theorem ServerConfig.made : (record : Record α ServerConfig).Made slots where
  fields := rfl
  keys := by simp [slots]
  get_set := by simp [slots]
  get_set_of_ne := by simp [slots]
  blank := by simp [slots, record]
  ext := by
    rintro ⟨⟩ ⟨⟩
    simp [slots]

/-- Pipelines are made of their parts. -/
theorem PipelineConfig.made : (record : Record α PipelineConfig).Made slots where
  fields := rfl
  keys := by simp [slots]
  get_set := by simp [slots]
  get_set_of_ne := by simp [slots]
  blank := by simp [slots, record]
  ext := by
    rintro ⟨⟩ ⟨⟩
    simp [slots]

/-- Configurations are made of their parts. -/
theorem Config.made (strictness : Strictness) :
    (record strictness : Record α Config).Made (slots strictness) where
  fields := rfl
  keys := by simp [slots]
  get_set := by simp [slots]
  get_set_of_ne := by simp [slots]
  blank := by simp [slots, record]
  ext := by
    rintro ⟨⟩ ⟨⟩
    simp [slots]

end LastGood
