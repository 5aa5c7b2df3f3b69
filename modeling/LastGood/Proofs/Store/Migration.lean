import LastGood.Proofs.Config.ReadBack
import LastGood.Proofs.Disk.Again
import LastGood.Proofs.Session.Course
import LastGood.Proofs.Store.Reading

/-!
# Saving and migrating a text

A text is saved as it is, unless it is to be migrated and is of an older schema version: then the
configuration that it writes is brought to the current version and saved as a text of its own. All
that is handed out is read from the text that is saved, so that nothing but the version can come out
different, and a text that was migrated once is saved as it is.
-/

namespace LastGood

/-- A configuration brought to the current schema version, if it is of an older one. -/
def Config.upgraded (config : Config) : Config :=
  { config with schemaVersion := max config.schemaVersion currentSchemaVersion }

namespace Config

/-- An older version becomes the current one. -/
theorem upgraded_of_older {config : Config} (older : config.schemaVersion < currentSchemaVersion) :
    config.upgraded = { config with schemaVersion := currentSchemaVersion } := by
  have highest : max config.schemaVersion currentSchemaVersion = currentSchemaVersion :=
    if_pos (UInt32.le_of_lt older)
  rw [upgraded, highest]

/-- No other version changes. -/
theorem upgraded_of_recent {config : Config}
    (recent : ¬ config.schemaVersion < currentSchemaVersion) : config.upgraded = config := by
  have highest : max config.schemaVersion currentSchemaVersion = config.schemaVersion := by
    have least : currentSchemaVersion ≤ config.schemaVersion := UInt32.not_lt.mp recent
    by_cases same : config.schemaVersion ≤ currentSchemaVersion
    · exact (if_pos same).trans (UInt32.le_antisymm least same)
    · exact if_neg same
  rw [upgraded, highest]

/-- The version is never lowered. -/
theorem version_le_upgraded (config : Config) :
    config.schemaVersion ≤ config.upgraded.schemaVersion := by
  by_cases older : config.schemaVersion < currentSchemaVersion
  · rw [upgraded_of_older older]
    exact UInt32.le_of_lt older
  · rw [upgraded_of_recent older]
    exact UInt32.le_refl _

/-- What was brought to the current version is not of an older one. -/
theorem upgraded_recent (config : Config) :
    ¬ config.upgraded.schemaVersion < currentSchemaVersion := by
  by_cases older : config.schemaVersion < currentSchemaVersion
  · rw [upgraded_of_older older]
    exact UInt32.lt_irrefl _
  · rwa [upgraded_of_recent older]

end Config

namespace FileStore

/-- Where a text was put in place, whatever text is next can be put there, too. -/
theorem persist_again {store other : FileStore} {text : String}
    (persisted : (store.persist text).1 = .ok ()) (path : other.path = store.path)
    (machine : other.machine = (store.persist text).2.machine) (another : String) :
    (other.persist another).1 = .ok () := by
  obtain ⟨written, renamed, _, moving, after⟩ := persist_ok persisted
  have moved : other.machine = store.machine.withDisk renamed := by rw [machine, after]
  obtain ⟨rewritten, replaced, again, back⟩ := Disk.replaced_again moving another.toUTF8
  simp only [temporaryPath] at again back
  simp only [persist, temporaryPath, path, moved, Machine.system_write_text,
    Machine.system_rename, Machine.writeText, Machine.rename, Machine.withDisk, again, back,
    Except.map, Machine.attempt]

/-- The text that a write saves: the given one, unless that is migrated. -/
def savedText (text : String) (migrate : Bool) (config : Config) : String :=
  if migrate = true ∧ config.schemaVersion < currentSchemaVersion then config.upgraded.toYaml
  else text

/-- A write of a text that can be edited persists what is saved of it. -/
theorem write_of_editable {μ : Type} [System μ] (store : FileStore μ) {text : String}
    {config : Config} (edited : Config.ofYaml text = .ok config) (migrate : Bool) :
    (store.write text migrate).outcome =
        (store.persistSnapshot (savedText text migrate config)).outcome ∧
      (store.write text migrate).state =
        (store.persistSnapshot (savedText text migrate config)).state := by
  by_cases migrated : migrate = true ∧ config.schemaVersion < currentSchemaVersion
  · have saved : savedText text migrate config =
        ({ config with schemaVersion := currentSchemaVersion } : Config).toYaml := by
      rw [savedText, if_pos migrated, Config.upgraded_of_older migrated.2]
    have chosen : (migrate && decide (config.schemaVersion < currentSchemaVersion)) = true := by
      rw [migrated.1, decide_eq_true migrated.2]
      rfl
    have written : ({ config with schemaVersion := currentSchemaVersion } : Config).isText :=
      show config.isText from Config.is_text_of_yaml edited
    unfold write
    rw [edited, saved]
    simp only [chosen, if_true, persist_config_of_text written, and_self]
  · have saved : savedText text migrate config = text := if_neg migrated
    have chosen : (migrate && decide (config.schemaVersion < currentSchemaVersion)) = false := by
      rwa [← Bool.not_eq_true, Bool.and_eq_true, decide_eq_true_eq]
    unfold write
    rw [edited, saved]
    simp only [chosen, Bool.false_eq_true, if_false, and_self]

/-- A write that succeeded persisted a text that can be edited. -/
theorem write_ok {store : FileStore} {text : String} {migrate : Bool} {snapshot : Snapshot Config}
    (ended : (store.write text migrate).outcome = .ok snapshot) :
    ∃ config, Config.ofYaml text = .ok config ∧
      (store.persistSnapshot (savedText text migrate config)).outcome = .ok snapshot := by
  cases edited : Config.ofYaml text with
  | error error =>
    unfold write at ended
    rw [edited] at ended
    cases ended
  | ok config => exact ⟨config, rfl, (write_of_editable store edited migrate).1 ▸ ended⟩

/-- Saving a text, with or without migration. Let YAML give back the tree of a configuration that is
written because the text is of an older version and is to be migrated. A write that succeeds hands
out, for editing, the configuration that the text writes, in every field but the version, which is
raised to the current one if it is older and migration is asked for, and never lowered. The file
then holds the text byte for byte, or that of the raised configuration, and what it holds has both
readings and the checksum that were handed out. Whatever was saved under migration can be saved so
once more: the snapshot is the same again, and so are the bytes.

A write that does not succeed leaves what stands at the path. -/
theorem write_migrates (store : FileStore) (text : String) (migrate : Bool)
    (reads : ∀ config, Config.ofYaml text = .ok config → migrate = true →
      config.schemaVersion < currentSchemaVersion → config.upgraded.ReadsBack) :
    let called := store.write text migrate
    (∀ snapshot, called.outcome = .ok snapshot → ∃ config, Config.ofYaml text = .ok config ∧
      snapshot.editable = (if migrate = true then config.upgraded else config) ∧
      config.schemaVersion ≤ snapshot.editable.schemaVersion ∧
      called.state.machine.disk.read called.state.machine.directory called.state.path =
        .ok (savedText text migrate config).toUTF8 ∧
      Views store.machine.environment (savedText text migrate config) snapshot ∧
      (migrate = true →
        let again := called.state.write (savedText text migrate config) true
        again.outcome = .ok snapshot ∧
          again.state.machine.disk.read again.state.machine.directory again.state.path =
            .ok (savedText text migrate config).toUTF8)) ∧
    ((∀ snapshot, called.outcome ≠ .ok snapshot) →
      called.state.machine.disk.lookup called.state.machine.directory called.state.path =
        store.machine.disk.lookup store.machine.directory store.path) := by
  intro called
  refine ⟨?_, fun failed => (write_leaves failed).lookup⟩
  intro snapshot ended
  obtain ⟨config, edited, persisted⟩ := write_ok ended
  have state : called.state = _ := (write_of_editable store edited migrate).2
  obtain ⟨parsed, replaced, after⟩ := persist_snapshot_made persisted
  have views := parse_ok_iff.mp parsed
  have held := persist_snapshot_text persisted
  have editable : snapshot.editable = (if migrate = true then config.upgraded else config) := by
    unfold savedText at views
    split at views
    case isTrue migrated =>
      have saved := Config.of_yaml_to_yaml (reads config edited migrated.1 migrated.2)
      rw [if_pos migrated.1]
      exact Except.ok.inj (views.editable.symm.trans saved)
    case isFalse kept =>
      have same : snapshot.editable = config := Except.ok.inj (views.editable.symm.trans edited)
      rw [same]
      split
      case isTrue asked => exact (Config.upgraded_of_recent fun older => kept ⟨asked, older⟩).symm
      case isFalse => rfl
  refine ⟨config, edited, editable, ?_, ?_, views, ?_⟩
  · rw [editable]
    split
    · exact config.version_le_upgraded
    · exact UInt32.le_refl _
  · rw [state]
    exact (read_text_ok_iff _ _).mp held
  · intro asked again
    have recent : ¬ snapshot.editable.schemaVersion < currentSchemaVersion := by
      rw [editable, if_pos asked]
      exact config.upgraded_recent
    have same : savedText (savedText text migrate config) true snapshot.editable =
        savedText text migrate config := if_neg fun older => recent older.2
    obtain ⟨outcome, ends⟩ := write_of_editable called.state views.editable true
    rw [same] at outcome ends
    obtain ⟨written, renamed, _, _, moved⟩ := persist_ok replaced
    have surroundings : called.state.path = store.path ∧
        called.state.machine.environment = store.machine.environment := by
      simp only [state, after, moved, remembering, Machine.withDisk, and_self]
    have reparsed : called.state.parse (savedText text migrate config) = .ok snapshot := by
      rw [parse_eq, surroundings.2]
      exact parsed
    have machine : called.state.machine =
        (store.persist (savedText text migrate config)).2.machine := by
      rw [state, after]
      rfl
    obtain ⟨ended, holds⟩ :=
      persist_snapshot_ok reparsed (persist_again replaced surroundings.1 machine _)
    refine ⟨outcome.trans ended, ?_⟩
    rw [ends]
    exact (read_text_ok_iff _ _).mp holds

/-- The defaults are read back from their text. -/
theorem defaults_read_back : ({} : Config).ReadsBack := by
  have written : ({} : Config).toYaml = "schema_version: 3\nserver:\n  host: 0.0.0.0\n" ++
      "  port: 8153\n  artifacts_dir: artifacts\n  job_timeout_secs: null\npipelines: []\n" := by
    simp only [Config.toYaml, Config.toTree, ServerConfig.toTree, Yaml.textOf, Yaml.mapItemChars,
      Yaml.entriesChars, Yaml.valueChars, List.map_nil]
    decide +kernel
  exact Config.reads_back_of_read rfl written (by decide +kernel)

/-- A text with nothing but the first version is read as that. -/
theorem of_yaml_first_version :
    Config.ofYaml "schema_version: 1\n" = .ok { schemaVersion := 1 } := by
  decide +kernel

/-- What is saved of it when it is migrated is the text of the defaults. -/
theorem saved_text_first_version :
    savedText "schema_version: 1\n" true { schemaVersion := 1 } = ({} : Config).toYaml := by
  have raised : ({ schemaVersion := 1 } : Config).upgraded = {} := by decide
  rw [savedText, if_pos ⟨rfl, by decide⟩, raised]

/-- So a write that migrates it in the place of an empty file hands out the defaults. -/
theorem first_version_migrated :
    (ofEmptyFile.write "schema_version: 1\n" true).outcome =
      .ok ⟨{}, {}, checksum ({} : Config).toYaml⟩ := by
  have edited := Config.of_yaml_to_yaml defaults_read_back
  have parsed : ofEmptyFile.parse ({} : Config).toYaml =
      .ok ⟨{}, {}, checksum ({} : Config).toYaml⟩ :=
    parse_ok_iff.mpr ⟨edited, (Config.runtime_of_yaml_plain rfl _).trans edited, rfl⟩
  have placed : (ofEmptyFile.persist ({} : Config).toYaml).1 = .ok () := rfl
  rw [(write_of_editable ofEmptyFile of_yaml_first_version true).1, saved_text_first_version]
  exact (persist_snapshot_ok parsed placed).1

/-- A text of the first version, without anything else, is migrated to the defaults. -/
theorem write_migrates_first_version :
    ({} : Config).ReadsBack ∧ ∃ snapshot,
      (ofEmptyFile.write "schema_version: 1\n" true).outcome = .ok snapshot ∧
      snapshot.editable = {} ∧
      ((ofEmptyFile.write "schema_version: 1\n" true).state.write
        ({} : Config).toYaml true).outcome = .ok snapshot := by
  have raised : ({ schemaVersion := 1 } : Config).upgraded = {} := by decide
  obtain ⟨made, _⟩ := write_migrates ofEmptyFile "schema_version: 1\n" true (by
    intro config read _ _
    cases of_yaml_first_version.symm.trans read
    rw [raised]
    exact defaults_read_back)
  obtain ⟨config, read, editable, _, _, _, again⟩ := made _ first_version_migrated
  cases of_yaml_first_version.symm.trans read
  rw [saved_text_first_version] at again
  exact ⟨defaults_read_back, _, first_version_migrated, editable.trans raised, (again rfl).1⟩

end FileStore

end LastGood
