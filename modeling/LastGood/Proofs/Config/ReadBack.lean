import LastGood.Proofs.Config.Written
import LastGood.Proofs.Tree.Ordered

/-!
# Reading a configuration back

A configuration is saved as a tree that holds every field, and read again from the settings
that the tree amounts to over the defaults. If the tree itself comes back from the text, so
does the configuration: of every default, there is a value in the tree that takes its place.

Whether the tree comes back is a matter of YAML. Here it is a property of a configuration,
and one that reading its text decides.
-/

namespace LastGood

variable {α β : Type}

/-- A value stays as it is when faults are put in other words. -/
theorem map_error_ok {ε ε' : Type} (f : ε → ε') (value : α) :
    (Except.ok value : Except ε α).mapError f = .ok value := rfl

namespace Tree

/-- A list is marked item by item. -/
theorem map_item_marks_map {γ : Type} (f : α → γ) (write : β → Tree α) (values : List β) :
    mapItemMarks f (values.map write) = values.map fun value => (write value).mapMarks f := by
  induction values with
  | nil => rfl
  | cons value rest ih => simp only [List.map_cons, mapItemMarks, ih]

/-- Items that are read back one by one are read back as a list. -/
theorem read_items_map {reader : Reader α β} {write : β → Tree α} (values : List β)
    (start : Nat) (reads : ∀ value ∈ values, reader (write value) = .ok value) :
    readItems reader start (values.map write) = .ok values := by
  induction values generalizing start with
  | nil => rfl
  | cons value rest ih =>
    have first := reads value (by simp)
    have others := ih (start + 1) fun other member => reads other (by simp [member])
    simp only [List.map_cons, readItems, first, others]
    rfl

/-- A word of sixteen bits is read back. -/
theorem read_uint16_number (mark : α) (n : UInt16) :
    (number mark (.unsigned n.toNat)).readUInt16 = .ok n := by
  have fits : n.toNat < UInt16.size := n.toNat_lt
  simp only [readUInt16, readBelow, fits, dif_pos]
  rfl

/-- A word of thirty-two bits is read back. -/
theorem read_uint32_number (mark : α) (n : UInt32) :
    (number mark (.unsigned n.toNat)).readUInt32 = .ok n := by
  have fits : n.toNat < UInt32.size := n.toNat_lt
  simp only [readUInt32, readBelow, fits, dif_pos]
  rfl

/-- A word of sixty-four bits is read back. -/
theorem read_uint64_number (mark : α) (n : UInt64) :
    (number mark (.unsigned n.toNat)).readUInt64 = .ok n := by
  have fits : n.toNat < UInt64.size := n.toNat_lt
  simp only [readUInt64, readBelow, fits, dif_pos]
  rfl

end Tree

/-- A record is read from a map when its entries are read and no required field is left out. -/
theorem Record.read_map {record : Record α β} {entries : List (String × Tree α)} {value : β}
    (strictness : Strictness) (mark : α)
    (reads : record.readEntries record.blank entries = .ok value)
    (whole : record.missing? entries = none) :
    record.read strictness (.map mark entries) = .ok value := by
  simp only [read, reads, whole]
  rfl

/-- The tree of a pipeline in the order of its keys. -/
theorem PipelineConfig.sorted_to_tree (mark : α) (pipeline : PipelineConfig) :
    (pipeline.toTree mark).sorted =
      .map mark [("enabled", .bool mark pipeline.enabled), ("group", .text mark pipeline.group),
        ("materials", .list mark (pipeline.materials.map (.text mark))),
        ("name", .text mark pipeline.name)] := by
  have materials : Tree.sortedItems (pipeline.materials.map (Tree.text mark)) =
      pipeline.materials.map (Tree.text mark) := by simp [Tree.sorted_items_eq, Tree.sorted]
  rw [← materials]
  rfl

/-- The tree of server settings in the order of their keys. -/
theorem ServerConfig.sorted_to_tree (mark : α) (server : ServerConfig) :
    (server.toTree mark).sorted =
      .map mark [("artifacts_dir", .text mark server.artifactsDir.text),
        ("host", .text mark server.host),
        ("job_timeout_secs",
          match server.jobTimeoutSecs with
          | none => .null mark
          | some seconds => .number mark (.unsigned seconds.toNat)),
        ("port", .number mark (.unsigned server.port.toNat))] := by
  obtain ⟨host, port, artifactsDir, jobTimeoutSecs⟩ := server
  cases jobTimeoutSecs <;> rfl

/-- The tree of a configuration in the order of its keys. -/
theorem Config.sorted_to_tree (mark : α) (config : Config) :
    (config.toTree mark).sorted =
      .map mark [
        ("pipelines", .list mark
          (config.pipelines.map fun pipeline => (pipeline.toTree mark).sorted)),
        ("schema_version", .number mark (.unsigned config.schemaVersion.toNat)),
        ("server", (config.server.toTree mark).sorted)] := by
  have pipelines : Tree.sortedItems (config.pipelines.map (PipelineConfig.toTree mark)) =
      config.pipelines.map fun pipeline => (pipeline.toTree mark).sorted := by
    simp [Tree.sorted_items_eq]
  rw [← pipelines]
  rfl

/-- A directory with a text is read back from it. -/
theorem Directory.read_text {directory : Directory} (written : directory.text?.isSome) (mark : α) :
    read (.text mark directory.text) = .ok directory := by
  obtain ⟨name⟩ := directory
  cases name with
  | text _ => rfl
  | bytes _ _ => cases written

/-- Server settings are read back from their tree, if their directory has a text. -/
theorem ServerConfig.read_sorted {server : ServerConfig}
    (written : server.artifactsDir.text?.isSome) (strictness : Strictness) (mark : α) :
    ServerConfig.record.read strictness (server.toTree mark).sorted = .ok server := by
  have seconds : (match server.jobTimeoutSecs with
      | none => Tree.null mark
      | some seconds => .number mark (.unsigned seconds.toNat)).readOptional Tree.readUInt64 =
        .ok server.jobTimeoutSecs := by
    cases server.jobTimeoutSecs with
    | none => rfl
    | some seconds => simp only [Tree.readOptional, Tree.read_uint64_number, Except.map]
  rw [ServerConfig.sorted_to_tree]
  refine Record.read_map strictness mark ?_ rfl
  simp [Record.readEntries, Record.field?, ServerConfig.record, Directory.read_text written,
    Tree.readText, Tree.read_uint16_number, seconds, Except.map, map_error_ok, bind, Except.bind]

/-- A pipeline is read back from its tree. -/
theorem PipelineConfig.read_sorted (strictness : Strictness) (mark : α)
    (pipeline : PipelineConfig) :
    PipelineConfig.record.read strictness (pipeline.toTree mark).sorted = .ok pipeline := by
  have materials : (Tree.list mark (pipeline.materials.map (.text mark))).readList
      (Tree.readText "a string") = .ok pipeline.materials :=
    Tree.read_items_map pipeline.materials 0 fun _ _ => rfl
  rw [PipelineConfig.sorted_to_tree]
  refine Record.read_map strictness mark ?_ rfl
  simp [Record.readEntries, Record.field?, PipelineConfig.record, Tree.readText, Tree.readBool,
    materials, Except.map, map_error_ok, bind, Except.bind]

/-- A configuration that can be written is read back from its tree. -/
theorem Config.read_sorted {config : Config} (written : config.isText) (strictness : Strictness)
    (mark : α) :
    (Config.record strictness).read strictness (config.toTree mark).sorted = .ok config := by
  have server : ServerConfig.record.read strictness (config.server.toTree mark).sorted =
      .ok config.server := ServerConfig.read_sorted written strictness mark
  have pipelines : (Tree.list mark
      (config.pipelines.map fun pipeline => (pipeline.toTree mark).sorted)).readList
      (PipelineConfig.record.read strictness) = .ok config.pipelines :=
    Tree.read_items_map config.pipelines 0 fun pipeline _ => pipeline.read_sorted strictness mark
  rw [Config.sorted_to_tree]
  refine Record.read_map strictness mark ?_ rfl
  simp [Record.readEntries, Record.field?, Config.record, Tree.read_uint32_number,
    server, pipelines, Except.map, map_error_ok, bind, Except.bind]

/-- Marking the tree of server settings is writing it with the new mark. -/
theorem ServerConfig.map_marks_sorted (f : α → β) (mark : α) (server : ServerConfig) :
    (server.toTree mark).sorted.mapMarks f = (server.toTree (f mark)).sorted := by
  rw [sorted_to_tree, sorted_to_tree]
  cases server.jobTimeoutSecs <;> rfl

/-- Marking the tree of a pipeline is writing it with the new mark. -/
theorem PipelineConfig.map_marks_sorted (f : α → β) (mark : α) (pipeline : PipelineConfig) :
    (pipeline.toTree mark).sorted.mapMarks f = (pipeline.toTree (f mark)).sorted := by
  rw [sorted_to_tree, sorted_to_tree]
  simp only [Tree.mapMarks, Tree.mapEntryMarks, Tree.map_item_marks_map]

/-- Marking the tree of a configuration is writing it with the new mark. -/
theorem Config.map_marks_sorted (f : α → β) (mark : α) (config : Config) :
    (config.toTree mark).sorted.mapMarks f = (config.toTree (f mark)).sorted := by
  rw [sorted_to_tree, sorted_to_tree]
  simp only [Tree.mapMarks, Tree.mapEntryMarks, Tree.map_item_marks_map,
    PipelineConfig.map_marks_sorted, ServerConfig.map_marks_sorted]

/-- Server settings laid over other ones take the place of all of them. -/
theorem ServerConfig.overlaid_on (origin : Origin) (server below : ServerConfig)
    (layer : Origin) :
    (below.toTree layer).sorted.overlaidBy (server.toTree origin).sorted =
      (server.toTree origin).sorted := by
  rw [sorted_to_tree, sorted_to_tree]
  cases server.jobTimeoutSecs <;> rfl

/-- A configuration laid over another one takes the place of all of it. -/
theorem Config.overlaid_on (origin : Origin) (config below : Config) (layer : Origin) :
    (below.toTree layer).sorted.overlaidBy (config.toTree origin).sorted =
      (config.toTree origin).sorted := by
  rw [sorted_to_tree, sorted_to_tree]
  -- Key by key, what is above stays; only the server settings are combined.
  calc
    _ = Tree.map origin [
        ("pipelines", .list origin
          (config.pipelines.map fun pipeline => (pipeline.toTree origin).sorted)),
        ("schema_version", .number origin (.unsigned config.schemaVersion.toNat)),
        ("server", (below.server.toTree layer).sorted.overlaidBy
          (config.server.toTree origin).sorted)] := rfl
    _ = _ := by rw [config.server.overlaid_on]

/-- A configuration is written as a text, and that is read back as the tree that was written, its
maps in order of their keys. -/
structure Config.ReadsBack (config : Config) : Prop where
  /-- The configuration can be written. -/
  written : config.isText
  /-- The tree is read back. -/
  tree : (Yaml.entriesOf config.toYaml).map (Tree.map none) = .ok (config.toTree none).sorted

/-- That can be found out by reading the text. -/
theorem Config.reads_back_of_read {config : Config} {text : String} (whole : config.isText)
    (written : config.toYaml = text)
    (read : (Yaml.entriesOf text).toOption.map (Tree.map none) =
      some (config.toTree none).sorted) : config.ReadsBack := by
  refine ⟨whole, ?_⟩
  rw [written]
  cases found : Yaml.entriesOf text with
  | error error => simp [found, Except.toOption] at read
  | ok entries =>
    simp only [found, Except.toOption, Option.map_some, Option.some.injEq] at read
    simp only [Except.map, read]

/-- The configuration that a YAML text writes over another one, whose values stand in the place
of the defaults. -/
def Config.ofYamlOver (below : Config) (yaml : String) : Except SettingsError Config :=
  match Yaml.entriesOf yaml with
  | .ok entries => Settings.config ((below.toTree Origin.defaults).sorted.overlaidBy
      ((Tree.map none entries).mapMarks Origin.yamlText.orSource))
  | .error error => .error (.malformed error .yamlText)

/-- What a text writes it writes over the defaults. -/
theorem Config.of_yaml_over_defaults (yaml : String) : ofYamlOver {} yaml = ofYaml yaml := by
  unfold ofYamlOver ofYaml Settings.ofYaml
  cases Yaml.entriesOf yaml <;> rfl

/-- A configuration whose tree is read back from its text is what the text writes, over whatever
stands underneath. -/
theorem Config.of_yaml_over_to_yaml {config : Config} (reads : config.ReadsBack)
    (below : Config) : ofYamlOver below config.toYaml = .ok config := by
  have tree := reads.tree
  unfold ofYamlOver
  cases found : Yaml.entriesOf config.toYaml with
  | error error =>
    rw [found] at tree
    cases tree
  | ok entries =>
    rw [found] at tree
    have same : Tree.map none entries = (config.toTree none).sorted := Except.ok.inj tree
    simp only [same, map_marks_sorted, overlaid_on, Settings.config, read_sorted reads.written,
      map_error_ok]

/-- A configuration whose tree is read back from its text is what the text writes. -/
theorem Config.of_yaml_to_yaml {config : Config} (reads : config.ReadsBack) :
    ofYaml config.toYaml = .ok config := by
  rw [← of_yaml_over_defaults]
  exact of_yaml_over_to_yaml reads {}

/-- The settings of a YAML text are a map. -/
theorem Settings.map_of_yaml {origin : Origin} {text : String} {settings : Tree Origin}
    (found : Settings.ofYaml origin text = .ok settings) :
    ∃ mark entries, settings = .map mark entries := by
  unfold Settings.ofYaml at found
  cases read : Yaml.entriesOf text with
  | error error =>
    rw [read] at found
    cases found
  | ok entries =>
    rw [read] at found
    exact ⟨_, _, (Except.ok.inj found).symm⟩

/-- Settings that are a map read the same when no overrides are laid over them: the mark of the
root changes, and nothing is said of it. -/
theorem Settings.config_overridden_nil (mark : Origin) (entries : List (String × Tree Origin)) :
    Settings.config (Settings.overridden [] (.map mark entries)) =
      Settings.config (.map mark entries) := by
  have whole : ∀ entries : List (String × Tree Origin),
      (Config.record strictness).missing? entries = none := fun _ => rfl
  have nothing : Settings.overridden [] (.map mark entries) = .map .overrides entries := rfl
  rw [nothing]
  simp only [Settings.config, Record.read, whole]

/-- Without overrides a text writes the same for the server as for editing. -/
theorem Config.runtime_of_yaml_plain {environment : Environment}
    (plain : Override.ofEnvironment environment = .ok []) (text : String) :
    Config.runtimeOfYaml environment text = Config.ofYaml text := by
  simp only [runtimeOfYaml, ofYaml, plain, map_error_ok, bind, Except.bind]
  cases found : Settings.ofYaml .yamlText text with
  | error error => rfl
  | ok settings =>
    obtain ⟨mark, entries, rfl⟩ := Settings.map_of_yaml found
    exact Settings.config_overridden_nil mark entries

end LastGood
