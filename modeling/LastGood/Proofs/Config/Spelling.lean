import LastGood.Proofs.Config.Parts
import LastGood.Proofs.Tree.Ordered

/-!
# What a document spells

A document spells a configuration part by part: under each key stands the part, or the key is
missing and the part is the default. The version alone has no default of its own; which one it has
depends on who reads. A document whose maps have no key twice is read as the configuration that it
spells and as no other, when its server settings and its pipelines are written as maps.

Of no consequence are keys of no part, and a time limit that is null. No other part may be null.
-/

namespace LastGood

variable {α γ : Type}

open Entries (Distinct Gives gives_iff gives_congr)

namespace Tree

/-- A tree is a map that spells a value. -/
def Spells (spelled : List (String × Tree α) → γ → Prop) (tree : Tree α) (value : γ) : Prop :=
  ∃ mark entries, tree = .map mark entries ∧ spelled entries value

/-- Whether a tree is null. -/
def isNull : Tree α → Bool
  | null _ => true
  | _ => false

/-- A tree that is no list. -/
def Keyed (tree : Tree α) : Prop := ∀ mark items, tree ≠ .list mark items

/-- A map spells what its entries spell. -/
@[simp] theorem spells_map_iff {spelled : List (String × Tree α) → γ → Prop} {mark : α}
    {entries : List (String × Tree α)} {value : γ} :
    (map mark entries).Spells spelled value ↔ spelled entries value := by
  simp [Spells]

end Tree

/-- Where no record is written as a list, a record is read exactly when its parts are spelled. -/
theorem Record.Made.reads_iff {record : Record α γ} {slots : List (Slot α γ)}
    (made : record.Made slots) {spelled : List (String × Tree α) → γ → Prop}
    (parts : ∀ entries value,
      (∀ slot ∈ slots, slot.Given entries value) ↔ spelled entries value)
    {tree : Tree α} (ordered : tree.Ordered) (keyed : tree.Keyed) (strictness : Strictness)
    (value : γ) : Reads (record.read strictness) tree value ↔ tree.Spells spelled value := by
  unfold Reads
  cases tree with
  | map mark entries =>
    rw [made.read_map_iff ordered.ascending.distinct, parts]
    exact Tree.spells_map_iff.symm
  | list mark items => exact absurd rfl (keyed mark items)
  | null mark | bool mark own | number mark own | text mark own =>
    simp [Record.read, Tree.refused, Tree.Spells]

/-- What a map spells of server settings. -/
@[mk_iff]
structure ServerConfig.Spelled (entries : List (String × Tree α)) (server : ServerConfig) :
    Prop where
  /-- The address. -/
  host : Gives "host" (Reads (Tree.readText "a string")) (some "0.0.0.0") entries server.host
  /-- The port. -/
  port : Gives "port" (Reads Tree.readUInt16) (some 8153) entries server.port
  /-- The directory. -/
  artifactsDir : Gives "artifacts_dir" (Reads Directory.read) (some ⟨"artifacts"⟩) entries
    server.artifactsDir
  /-- The time limit. -/
  jobTimeoutSecs : Gives "job_timeout_secs" (Reads (Tree.readOptional Tree.readUInt64)) (some none)
    entries server.jobTimeoutSecs

/-- What a map spells of a pipeline. It must spell a name. -/
@[mk_iff]
structure PipelineConfig.Spelled (entries : List (String × Tree α)) (pipeline : PipelineConfig) :
    Prop where
  /-- The name. -/
  name : Gives "name" (Reads (Tree.readText "a string")) none entries pipeline.name
  /-- The group. -/
  group : Gives "group" (Reads (Tree.readText "a string")) (some "defaultGroup") entries
    pipeline.group
  /-- The materials. -/
  materials : Gives "materials" (Reads (Tree.readList (Tree.readText "a string"))) (some []) entries
    pipeline.materials
  /-- Whether it runs. -/
  enabled : Gives "enabled" (Reads Tree.readBool) (some true) entries pipeline.enabled

/-- What a document spells of a configuration, where a version that it leaves out is the given
one. -/
@[mk_iff]
structure Config.Spelled (version : UInt32) (entries : List (String × Tree α)) (config : Config) :
    Prop where
  /-- The version. -/
  schemaVersion : Gives "schema_version" (Reads Tree.readUInt32) (some version) entries
    config.schemaVersion
  /-- The server settings. -/
  server : Gives "server" (Tree.Spells ServerConfig.Spelled) (some {}) entries config.server
  /-- The pipelines. -/
  pipelines : Gives "pipelines" (Tree.Lists (Tree.Spells PipelineConfig.Spelled)) (some []) entries
    config.pipelines

/-- A document whose records are written as maps. -/
structure Config.Keyed (entries : List (String × Tree α)) : Prop where
  /-- The server settings are no list. -/
  server : ∀ tree, Entries.get? "server" entries = some tree → tree.Keyed
  /-- No pipeline is a list. -/
  pipelines : ∀ mark items, Entries.get? "pipelines" entries = some (.list mark items) →
    ∀ item ∈ items, item.Keyed

/-- The parts of server settings are what is spelled. -/
theorem ServerConfig.given_iff (entries : List (String × Tree α)) (server : ServerConfig) :
    (∀ slot ∈ slots, slot.Given entries server) ↔ Spelled entries server := by
  simp only [slots, List.forall_mem_cons, List.not_mem_nil, false_imp_iff, implies_true, and_true]
  exact (spelled_iff entries server).symm

/-- The parts of a pipeline are what is spelled. -/
theorem PipelineConfig.given_iff (entries : List (String × Tree α)) (pipeline : PipelineConfig) :
    (∀ slot ∈ slots, slot.Given entries pipeline) ↔ Spelled entries pipeline := by
  simp only [slots, List.forall_mem_cons, List.not_mem_nil, false_imp_iff, implies_true, and_true]
  exact (spelled_iff entries pipeline).symm

/-- Pipelines are read from a tree exactly when it is a list that spells them. -/
theorem PipelineConfig.reads_list_iff {tree : Tree α} (ordered : tree.Ordered)
    (keyed : ∀ mark items, tree = .list mark items → ∀ item ∈ items, item.Keyed)
    (strictness : Strictness) (pipelines : List PipelineConfig) :
    Reads (Tree.readList (record.read strictness)) tree pipelines ↔
      tree.Lists (Tree.Spells Spelled) pipelines := by
  rw [Reads, Tree.read_list_ok_iff]
  cases ordered with
  | @list mark items inner =>
    simp only [Tree.lists_list_iff]
    exact Tree.forall₂_congr_of_mem fun item member =>
      made.reads_iff given_iff (inner item member) (keyed mark items rfl item member) strictness
  | _ => simp [Tree.Lists]

/-- A document is read as the configuration that it spells, where a version that it leaves out is
zero. -/
theorem Config.read_iff {mark : α} {entries : List (String × Tree α)}
    (ordered : (Tree.map mark entries).Ordered) (keyed : Keyed entries) (strictness : Strictness)
    (config : Config) :
    (record strictness).read strictness (.map mark entries) = .ok config ↔
      Spelled 0 entries config := by
  rw [(made strictness).read_map_iff ordered.ascending.distinct, spelled_iff]
  simp only [slots, List.forall_mem_cons, List.not_mem_nil, false_imp_iff, implies_true, and_true]
  refine and_congr_right' (and_congr ?_ ?_)
  · exact gives_iff Option.map_id'.symm fun tree found =>
      ServerConfig.made.reads_iff ServerConfig.given_iff (ordered.found found)
        (keyed.server tree found) strictness config.server
  · exact gives_iff Option.map_id'.symm fun tree found =>
      PipelineConfig.reads_list_iff (ordered.found found)
        (fun mark items same => keyed.pipelines mark items (same ▸ found)) strictness
        config.pipelines

/-- Whether an entry of server settings has a part in them. A time limit that is null has none. -/
def ServerConfig.matters (entry : String × Tree α) : Bool :=
  ["host", "port", "artifacts_dir"].contains entry.1 ||
    entry.1 == "job_timeout_secs" && !entry.2.isNull

/-- Server settings without what has no part in them. -/
def ServerConfig.essence : Tree α → Tree α
  | .map mark entries => .map mark (entries.filter matters)
  | tree => tree

/-- Whether an entry of a pipeline has a part in it. -/
def PipelineConfig.matters (entry : String × Tree α) : Bool :=
  ["name", "group", "materials", "enabled"].contains entry.1

/-- A pipeline without what has no part in it. -/
def PipelineConfig.essence : Tree α → Tree α
  | .map mark entries => .map mark (entries.filter matters)
  | tree => tree

/-- Pipelines without what has no part in them. -/
def PipelineConfig.essences : Tree α → Tree α
  | .list mark items => .list mark (items.map essence)
  | tree => tree

/-- Whether an entry of a document has a part in the configuration. -/
def Config.matters (entry : String × Tree α) : Bool :=
  ["schema_version", "server", "pipelines"].contains entry.1

/-- What stands under a key of a document, without what has no part in the configuration. -/
def Config.essenceAt (key : String) : Tree α → Tree α :=
  if key = "server" then ServerConfig.essence
  else if key = "pipelines" then PipelineConfig.essences
  else id

/-- A document without what has no part in the configuration, at any depth: without keys of no part,
and without a time limit that is null. -/
def Config.essence (entries : List (String × Tree α)) : List (String × Tree α) :=
  (entries.filter matters).map fun entry => (entry.1, essenceAt entry.1 entry.2)

/-- What is found under a key among entries of which some were dropped is what was found before, if
it was not dropped. -/
theorem Entries.Distinct.get?_filter {entries : List (String × Tree α)}
    (distinct : Distinct entries) (kept : String × Tree α → Bool) (key : String) :
    get? key (entries.filter kept) = (get? key entries).filter fun tree => kept (key, tree) := by
  induction entries with
  | nil => rfl
  | cons entry rest ih =>
    obtain ⟨other, tree⟩ := entry
    have later := ih (List.nodup_cons.mp distinct).2
    rw [List.filter_cons, get?]
    by_cases same : other = key
    · subst same
      rw [distinct.get?_tail] at later
      cases keeping : kept (other, tree) <;> simp [Option.filter, keeping, get?, later]
    · cases keeping : kept (other, tree) <;> simp [get?, same, later]

/-- Keys that are not dropped keep what is found under them. -/
theorem Entries.Distinct.get?_kept {entries : List (String × Tree α)}
    (distinct : Distinct entries) {kept : String × Tree α → Bool} {key : String}
    (keeps : ∀ tree, kept (key, tree) = true) :
    get? key (entries.filter kept) = get? key entries := by
  rw [distinct.get?_filter]
  cases get? key entries <;> simp [keeps]

/-- What is found among entries that became others key by key. -/
theorem Entries.get?_map_values (change : String → Tree α → Tree α)
    (entries : List (String × Tree α)) (key : String) :
    get? key (entries.map fun entry => (entry.1, change entry.1 entry.2)) =
      (get? key entries).map (change key) := by
  induction entries with
  | nil => rfl
  | cons entry rest ih =>
    rw [List.map_cons, get?, get?]
    split
    case isTrue same => rw [same, Option.map_some]
    case isFalse => exact ih

/-- What has no part in server settings is of no consequence for what they spell. -/
theorem ServerConfig.essence_spells_iff {tree : Tree α} (ordered : tree.Ordered)
    (server : ServerConfig) :
    (essence tree).Spells Spelled server ↔ tree.Spells Spelled server := by
  cases ordered with
  | @map mark entries ascending inner =>
    have distinct := ascending.distinct
    have seconds : Gives "job_timeout_secs" (Reads (Tree.readOptional Tree.readUInt64)) (some none)
        (entries.filter matters) server.jobTimeoutSecs ↔ Gives "job_timeout_secs"
        (Reads (Tree.readOptional Tree.readUInt64)) (some none) entries server.jobTimeoutSecs := by
      have keeps : ∀ tree : Tree α, matters ("job_timeout_secs", tree) = !tree.isNull := by
        simp [matters]
      simp only [Gives, distinct.get?_filter, keeps]
      cases Entries.get? "job_timeout_secs" entries with
      | none => rfl
      | some tree => cases tree <;> simp [Option.filter, Tree.isNull, Reads, Tree.readOptional]
    have kept : ∀ key ∈ ["host", "port", "artifacts_dir"],
        Entries.get? key (entries.filter matters) = Entries.get? key entries :=
      fun key known => distinct.get?_kept fun tree => by simp [matters, known]
    rw [essence, Tree.spells_map_iff, Tree.spells_map_iff, ← given_iff, ← given_iff]
    simp only [slots, List.forall_mem_cons, List.not_mem_nil, false_imp_iff, implies_true, and_true]
    exact and_congr (gives_congr (kept _ (by simp)) _) <|
      and_congr (gives_congr (kept _ (by simp)) _) <|
      and_congr (gives_congr (kept _ (by simp)) _) seconds
  | _ => rfl

/-- What has no part in a pipeline is of no consequence for what it spells. -/
theorem PipelineConfig.essence_spells_iff {tree : Tree α} (ordered : tree.Ordered)
    (pipeline : PipelineConfig) :
    (essence tree).Spells Spelled pipeline ↔ tree.Spells Spelled pipeline := by
  cases ordered with
  | @map mark entries ascending inner =>
    have kept : ∀ key ∈ ["name", "group", "materials", "enabled"],
        Entries.get? key (entries.filter matters) = Entries.get? key entries :=
      fun key known => ascending.distinct.get?_kept fun tree => by simp [matters, known]
    rw [essence, Tree.spells_map_iff, Tree.spells_map_iff, ← given_iff, ← given_iff]
    refine forall₂_congr fun slot member => gives_congr (kept _ ?_) _
    exact List.mem_map_of_mem member
  | _ => rfl

/-- What has no part in pipelines is of no consequence for which they are. -/
theorem PipelineConfig.essences_list_iff {tree : Tree α} (ordered : tree.Ordered)
    (pipelines : List PipelineConfig) :
    (essences tree).Lists (Tree.Spells Spelled) pipelines ↔
      tree.Lists (Tree.Spells Spelled) pipelines := by
  cases ordered with
  | @list mark items inner =>
    rw [essences, Tree.lists_list_iff, Tree.lists_list_iff, List.forall₂_map_left_iff]
    exact Tree.forall₂_congr_of_mem fun item member => essence_spells_iff (inner item member)
  | _ => rfl

/-- What is found in a document without what has no part in the configuration. -/
theorem Config.get?_essence {entries : List (String × Tree α)} (distinct : Distinct entries)
    {key : String} (known : key ∈ ["schema_version", "server", "pipelines"]) :
    Entries.get? key (essence entries) = (Entries.get? key entries).map (essenceAt key) := by
  rw [essence, Entries.get?_map_values, distinct.get?_kept]
  exact fun tree => by simp [matters, known]

/-- What has no part in the configuration is of no consequence for what a document spells. -/
theorem Config.essence_spelled_iff {mark : α} {entries : List (String × Tree α)}
    (ordered : (Tree.map mark entries).Ordered) (version : UInt32) (config : Config) :
    Spelled version (essence entries) config ↔ Spelled version entries config := by
  have found : ∀ key ∈ ["schema_version", "server", "pipelines"],
      Entries.get? key (essence entries) = (Entries.get? key entries).map (essenceAt key) :=
    fun key known => get?_essence ordered.ascending.distinct known
  rw [spelled_iff, spelled_iff]
  refine and_congr ?_ (and_congr ?_ ?_)
  · exact gives_iff (found _ (by simp)) fun tree own => Iff.rfl
  · exact gives_iff (found _ (by simp)) fun tree own =>
      ServerConfig.essence_spells_iff (ordered.found own) config.server
  · exact gives_iff (found _ (by simp)) fun tree own =>
      PipelineConfig.essences_list_iff (ordered.found own) config.pipelines

/-- No null stands under a key. -/
def Entries.NotNull (entries : List (String × Tree α)) (key : String) : Prop :=
  ∀ mark, get? key entries ≠ some (.null mark)

/-- What is given is not null where null is in no relation to it. -/
theorem Entries.Gives.notNull {key : String} {relation : Tree α → γ → Prop} {blank : Option γ}
    {entries : List (String × Tree α)} {value : γ} (given : Gives key relation blank entries value)
    (refused : ∀ mark, ¬ relation (.null mark) value) : NotNull entries key := by
  intro mark found
  rw [Gives, found] at given
  exact refused mark given

/-- Of the parts of a configuration none is null in a document but a time limit. -/
structure Config.NullFree (entries : List (String × Tree α)) : Prop where
  /-- The parts of the configuration. -/
  root : ∀ key ∈ ["schema_version", "server", "pipelines"], Entries.NotNull entries key
  /-- The parts of the server settings. -/
  server : ∀ mark inner, Entries.get? "server" entries = some (.map mark inner) →
    ∀ key ∈ ["host", "port", "artifacts_dir"], Entries.NotNull inner key
  /-- The parts of the pipelines. -/
  pipelines : ∀ mark items, Entries.get? "pipelines" entries = some (.list mark items) →
    ∀ mark inner, .map mark inner ∈ items →
    ∀ key ∈ ["name", "group", "materials", "enabled"], Entries.NotNull inner key

/-- Server settings that are spelled have a null for a time limit only. -/
theorem ServerConfig.Spelled.notNull {entries : List (String × Tree α)} {server : ServerConfig}
    (spelled : Spelled entries server) :
    ∀ key ∈ ["host", "port", "artifacts_dir"], Entries.NotNull entries key := by
  simp only [List.forall_mem_cons, List.not_mem_nil, false_imp_iff, implies_true, and_true]
  exact ⟨spelled.host.notNull nofun, spelled.port.notNull nofun, spelled.artifactsDir.notNull nofun⟩

/-- Pipelines that are spelled have no null. -/
theorem PipelineConfig.Spelled.notNull {entries : List (String × Tree α)}
    {pipeline : PipelineConfig} (spelled : Spelled entries pipeline) :
    ∀ key ∈ ["name", "group", "materials", "enabled"], Entries.NotNull entries key := by
  simp only [List.forall_mem_cons, List.not_mem_nil, false_imp_iff, implies_true, and_true]
  exact ⟨spelled.name.notNull nofun, spelled.group.notNull nofun, spelled.materials.notNull nofun,
    spelled.enabled.notNull nofun⟩

/-- A document that spells a configuration has a null for a time limit only. -/
theorem Config.Spelled.nullFree {version : UInt32} {entries : List (String × Tree α)}
    {config : Config} (spelled : Spelled version entries config) : NullFree entries where
  root := by
    simp only [List.forall_mem_cons, List.not_mem_nil, false_imp_iff, implies_true, and_true]
    exact ⟨spelled.schemaVersion.notNull nofun,
      spelled.server.notNull (by simp [Tree.Spells]),
      spelled.pipelines.notNull (by simp [Tree.Lists])⟩
  server := by
    intro mark inner found
    have own := spelled.server
    rw [Gives, found] at own
    exact (Tree.spells_map_iff.mp own).notNull
  pipelines := by
    intro mark items found mark' inner member
    have listed := spelled.pipelines
    rw [Gives, found] at listed
    obtain ⟨pipeline, own⟩ := Tree.related_of_mem (Tree.lists_list_iff.mp listed) member
    exact (Tree.spells_map_iff.mp own).notNull

end LastGood
