import LastGood.Config
import LastGood.Reading

/-!
# Configurations as trees

A configuration is written as a tree whose maps have the fields in their declared
order, and read from any tree whose maps have the fields in any order. Fields that
are left out take the defaults of the record they belong to, where the schema
version's is zero. Unknown fields are skipped. A directory without a text has no tree; where one
is asked for all the same, the empty text stands for it.
-/

namespace LastGood

variable {α : Type}

/-- How a directory is read: as a text in which any character may stand. -/
def Directory.read : Reader α Directory := fun tree =>
  (tree.readText "path string").map fun text => ⟨.text text⟩

/-- How server settings are read. -/
def ServerConfig.record : Record α ServerConfig where
  name := "struct ServerConfig"
  blank := {}
  fields := [
    ⟨"host", false, fun server tree => (tree.readText "a string").map ({ server with host := · })⟩,
    ⟨"port", false, fun server tree => tree.readUInt16.map ({ server with port := · })⟩,
    ⟨"artifacts_dir", false, fun server tree =>
      (Directory.read tree).map ({ server with artifactsDir := · })⟩,
    ⟨"job_timeout_secs", false, fun server tree =>
      (tree.readOptional Tree.readUInt64).map ({ server with jobTimeoutSecs := · })⟩]

/-- How a pipeline is read. -/
def PipelineConfig.record : Record α PipelineConfig where
  name := "struct PipelineConfig"
  blank := PipelineConfig.named ""
  fields := [
    ⟨"name", true, fun pipeline tree =>
      (tree.readText "a string").map ({ pipeline with name := · })⟩,
    ⟨"group", false, fun pipeline tree =>
      (tree.readText "a string").map ({ pipeline with group := · })⟩,
    ⟨"materials", false, fun pipeline tree =>
      (tree.readList (Tree.readText "a string")).map ({ pipeline with materials := · })⟩,
    ⟨"enabled", false, fun pipeline tree => tree.readBool.map ({ pipeline with enabled := · })⟩]

/-- How a configuration is read. -/
def Config.record (strictness : Strictness) : Record α Config where
  name := "struct Config"
  blank := { schemaVersion := 0 }
  fields := [
    ⟨"schema_version", false, fun config tree =>
      tree.readUInt32.map ({ config with schemaVersion := · })⟩,
    ⟨"server", false, fun config tree =>
      (ServerConfig.record.read strictness tree).map ({ config with server := · })⟩,
    ⟨"pipelines", false, fun config tree =>
      (tree.readList (PipelineConfig.record.read strictness)).map
        ({ config with pipelines := · })⟩]

/-- Server settings as a tree. -/
def ServerConfig.toTree (mark : α) (server : ServerConfig) : Tree α :=
  .map mark [
    ("host", .text mark server.host),
    ("port", .number mark (.unsigned server.port.toNat)),
    ("artifacts_dir", .text mark server.artifactsDir.text),
    ("job_timeout_secs",
      match server.jobTimeoutSecs with
      | none => .null mark
      | some seconds => .number mark (.unsigned seconds.toNat))]

/-- A pipeline as a tree. -/
def PipelineConfig.toTree (mark : α) (pipeline : PipelineConfig) : Tree α :=
  .map mark [
    ("name", .text mark pipeline.name),
    ("group", .text mark pipeline.group),
    ("materials", .list mark (pipeline.materials.map (.text mark))),
    ("enabled", .bool mark pipeline.enabled)]

/-- A configuration as a tree. -/
def Config.toTree (mark : α) (config : Config) : Tree α :=
  .map mark [
    ("schema_version", .number mark (.unsigned config.schemaVersion.toNat)),
    ("server", config.server.toTree mark),
    ("pipelines", .list mark (config.pipelines.map (PipelineConfig.toTree mark)))]

end LastGood
