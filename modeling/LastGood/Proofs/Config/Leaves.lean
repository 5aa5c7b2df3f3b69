import LastGood.Proofs.Config.Parts
import LastGood.Settings

/-!
# The leaves of a configuration

Each part of a record is what is read under its own key. For a configuration this goes down to its
leaves: the version, the single settings of the server, and the pipelines. Each leaf is what is read
at its path.
-/

namespace LastGood

variable {δ : Type}

/-- A leaf of a configuration. -/
inductive Leaf where
  /-- The version of the schema. -/
  | schemaVersion
  /-- The address of the server. -/
  | host
  /-- The port of the server. -/
  | port
  /-- The directory for artifacts. -/
  | artifactsDir
  /-- The time limit of jobs. -/
  | jobTimeoutSecs
  /-- The pipelines. -/
  | pipelines
  deriving DecidableEq, Repr

namespace Leaf

/-- The keys that lead to a leaf. -/
def path : Leaf → List String
  | schemaVersion => ["schema_version"]
  | host => ["server", "host"]
  | port => ["server", "port"]
  | artifactsDir => ["server", "artifacts_dir"]
  | jobTimeoutSecs => ["server", "job_timeout_secs"]
  | pipelines => ["pipelines"]

/-- What a leaf is. -/
def Value : Leaf → Type
  | schemaVersion => UInt32
  | host => String
  | port => UInt16
  | artifactsDir => Directory
  | jobTimeoutSecs => Option UInt64
  | pipelines => List PipelineConfig

/-- The leaf of a configuration. -/
def value (config : Config) : (leaf : Leaf) → leaf.Value
  | schemaVersion => config.schemaVersion
  | host => config.server.host
  | port => config.server.port
  | artifactsDir => config.server.artifactsDir
  | jobTimeoutSecs => config.server.jobTimeoutSecs
  | pipelines => config.pipelines

/-- How a leaf is read. -/
def reader : (leaf : Leaf) → Reader Origin leaf.Value
  | schemaVersion => Tree.readUInt32
  | host => Tree.readText "a string"
  | port => Tree.readUInt16
  | artifactsDir => Directory.read
  | jobTimeoutSecs => Tree.readOptional Tree.readUInt64
  | pipelines => Tree.readList (PipelineConfig.record.read Settings.strictness)

/-- No leaf is a map. -/
theorem not_read_of_map (leaf : Leaf) (mark : Origin) (entries : List (String × Tree Origin))
    (value : leaf.Value) : leaf.reader (.map mark entries) ≠ .ok value := by
  cases leaf <;> exact fun read => by cases read

variable {settings held : Tree Origin} {config : Config} {key : String}

/-- A part at the root of a configuration is what the settings hold under its key. -/
theorem read_root {path : List String} {reader : Reader Origin δ} {part : Config → δ}
    (own : (Config.record Settings.strictness).Part key reader part)
    (given : Settings.config settings = .ok config)
    (holds : Tree.Holds (key :: path) settings (some held)) :
    ∃ below, reader below = .ok (part config) ∧ Tree.Holds path below (some held) := by
  unfold Settings.config at given
  cases found : (Config.record Settings.strictness).read Settings.strictness settings with
  | ok other =>
    rw [found] at given
    obtain rfl := Except.ok.inj given
    exact own.read holds found
  | error fault =>
    rw [found] at given
    cases given

/-- A part of the server settings is what the settings hold under its key there. -/
theorem read_server {reader : Reader Origin δ} {part : ServerConfig → δ}
    (own : ServerConfig.record.Part key reader part)
    (given : Settings.config settings = .ok config)
    (holds : Tree.Holds ["server", key] settings (some held)) :
    reader held = .ok (part config.server) := by
  have server : (Config.record Settings.strictness : Record Origin Config).Part "server"
      (ServerConfig.record.read Settings.strictness) Config.server :=
    (Config.made Settings.strictness).part (.tail _ (.head _))
  obtain ⟨below, settled, holds⟩ := read_root server given holds
  obtain ⟨inner, parted, ends⟩ := own.read holds settled
  cases ends with
  | here => exact parted

/-- A leaf is read from what the settings hold at its path. -/
theorem read (leaf : Leaf) (given : Settings.config settings = .ok config)
    (holds : Tree.Holds leaf.path settings (some held)) :
    leaf.reader held = .ok (leaf.value config) := by
  cases leaf with
  | schemaVersion =>
    have own : (Config.record Settings.strictness : Record Origin Config).Part "schema_version"
        Tree.readUInt32 Config.schemaVersion :=
      (Config.made Settings.strictness).part (.head _)
    obtain ⟨_, parted, ends⟩ := read_root own given holds
    cases ends with
    | here => exact parted
  | pipelines =>
    have own : (Config.record Settings.strictness : Record Origin Config).Part "pipelines"
        (Tree.readList (PipelineConfig.record.read Settings.strictness)) Config.pipelines :=
      (Config.made Settings.strictness).part (.tail _ (.tail _ (.head _)))
    obtain ⟨_, parted, ends⟩ := read_root own given holds
    cases ends with
    | here => exact parted
  | host => exact read_server (ServerConfig.made.part (.head _)) given holds
  | port => exact read_server (ServerConfig.made.part (.tail _ (.head _))) given holds
  | artifactsDir =>
    exact read_server (ServerConfig.made.part (.tail _ (.tail _ (.head _)))) given holds
  | jobTimeoutSecs =>
    exact read_server (ServerConfig.made.part (.tail _ (.tail _ (.tail _ (.head _))))) given holds

end Leaf

end LastGood
