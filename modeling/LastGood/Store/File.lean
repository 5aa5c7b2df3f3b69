import LastGood.Config.Yaml
import LastGood.Digest
import LastGood.Store
import LastGood.System

/-!
# The file store

The file store keeps a configuration as one YAML file. A snapshot holds two readings of
the same text, one of them with the overrides of the environment, and the checksum of
the text.

The store remembers the checksum of the snapshot that it handed out last. A load that
finds a text with that checksum gives nothing new and does not read it; a load that fails
forgets the checksum, so that the text before the failure is new again. Writing goes
through a second file beside the first, so that readers never see half a text.

The store runs on any system. What it does there is described step by step, with what a step
that fails leaves behind.
-/

namespace LastGood

/-- A store that keeps a configuration in a file of a system, which is a machine unless another
    one is named. -/
structure FileStore (μ : Type := Machine) where
  /-- The path of the file. -/
  path : Path
  /-- The checksum of the snapshot that was handed out last, unless a load failed since. -/
  remembered : Option String := none
  /-- The machine on which the file is. -/
  machine : μ

namespace FileStore

variable {μ : Type}

/-- Who writes the log records of the file store. -/
def logTarget : String := "confcache_config::store"

/-- The environment in which the store runs. -/
def environment [System μ] (store : FileStore μ) : Environment := System.environment store.machine

/-- The text of the file. -/
def readText [System μ] (store : FileStore μ) : Except ConfigError String :=
  (System.readText store.machine store.path).mapError fun fault => .io store.path fault.text

/-- The end of a reading of settings. A crash among the overrides is a panic. -/
def outcomeOf {α : Type} : Except SettingsError α → Outcome α
  | .ok value => .ok value
  | .error (.crash text) => .panicked text
  | .error error => .failed (.parse error.message)

/-- The snapshot of a text in an environment. -/
def snapshotOf (environment : Environment) (text : String) : Outcome (Snapshot Config) :=
  (outcomeOf (Config.ofYaml text)).andThen fun editable =>
    (outcomeOf (Config.runtimeOfYaml environment text)).map fun runtime =>
      ⟨runtime, editable, checksum text⟩

/-- The snapshot of a text where the store runs. -/
def parse [System μ] (store : FileStore μ) (text : String) : Outcome (Snapshot Config) :=
  snapshotOf store.environment text

/-- The store with a checksum remembered. -/
def remembering (store : FileStore μ) (checksum : String) : FileStore μ :=
  { store with remembered := some checksum }

/-- The store with no checksum remembered. -/
def forgetting (store : FileStore μ) : FileStore μ := { store with remembered := none }

/-- The path of the file that is written before it takes the place of the other one. -/
def temporaryPath (store : FileStore μ) : Path := store.path.extended ".tmp"

/-- Replaces the text of the file. What a step leaves behind that fails stays: when only the last
    one does, the file beside it. -/
def persist [System μ] (store : FileStore μ) (text : String) :
    Except ConfigError Unit × FileStore μ :=
  let temporary := store.temporaryPath
  match System.writeText store.machine temporary text with
  | (.error fault, left) => (.error (.io temporary fault.text), { store with machine := left })
  | (.ok (), written) =>
      match System.rename written temporary store.path with
      | (.error fault, left) => (.error (.io store.path fault.text), { store with machine := left })
      | (.ok (), renamed) => (.ok (), { store with machine := renamed })

/-- Persists a text and hands out its snapshot. -/
def persistSnapshot [System μ] (store : FileStore μ) (text : String) :
    Called (FileStore μ) (Snapshot Config) :=
  match store.parse text with
  | .failed error => ⟨.failed error, store, []⟩
  | .panicked message => ⟨.panicked message, store, []⟩
  | .ok snapshot =>
      match store.persist text with
      | (.error error, after) => ⟨.failed error, after, []⟩
      | (.ok (), after) => ⟨.ok snapshot, after.remembering snapshot.checksum, []⟩

/-- Persists the text of a configuration, if that has one, and hands out its snapshot. -/
def persistConfig [System μ] (store : FileStore μ) (config : Config) :
    Called (FileStore μ) (Snapshot Config) :=
  match config.written with
  | .error reason => ⟨.failed (.serialize reason), store, []⟩
  | .ok text => store.persistSnapshot text

/-- The path of the file, as a log field. -/
def pathField (store : FileStore μ) : String × FieldValue := ("path", .text store.path.text)

/-- Reads the file, unless its text is the one handed out last. -/
def load [System μ] (store : FileStore μ) : Called (FileStore μ) (Option (Snapshot Config)) :=
  match store.readText with
  | .error error => ⟨.failed error, store.forgetting, []⟩
  | .ok text =>
      let sum := checksum text
      if store.remembered = some sum then
        ⟨.ok none, store,
          [⟨.debug, logTarget, "config file unchanged, skipping parse", [store.pathField]⟩]⟩
      else
        match store.parse text with
        | .failed error => ⟨.failed error, store.forgetting, []⟩
        | .panicked message => ⟨.panicked message, store, []⟩
        | .ok snapshot =>
            ⟨.ok (some snapshot), store.remembering sum,
              [⟨.debug, logTarget, "config file parsed",
                [store.pathField, ("checksum", .text sum)]⟩]⟩

/-- The record of a text that is brought to the current schema version. -/
def upgradeLog (version : UInt32) : LogRecord :=
  ⟨.info, logTarget, "upgrading schema version on save",
    [("from", .nat version.toNat), ("to", .nat currentSchemaVersion.toNat)]⟩

/-- Replaces the file by a text. With `migrate` set, a text of an older schema version is
    written anew in the current one. -/
def write [System μ] (store : FileStore μ) (content : String) (migrate : Bool) :
    Called (FileStore μ) (Snapshot Config) :=
  match Config.ofYaml content with
  | .error error => ⟨.failed (.parse error.message), store, []⟩
  | .ok editable =>
      if migrate && editable.schemaVersion < currentSchemaVersion then
        let upgraded := { editable with schemaVersion := currentSchemaVersion }
        let written := store.persistConfig upgraded
        { written with logs := upgradeLog editable.schemaVersion :: written.logs }
      else store.persistSnapshot content

/-- Runs a command on a snapshot that it may be run on, and persists its result. -/
def applyTo [System μ] (store : FileStore μ) (command : Command Config) (base : Snapshot Config) :
    Called (FileStore μ) (SaveResult Config) :=
  match command.update base.editable with
  | (_, .refused error) => ⟨.failed error, store, []⟩
  | (_, .panicked message) => ⟨.panicked message, store, []⟩
  | (edited, .accepted) =>
      if edited.sameAs base.editable then
        ⟨.ok ⟨base, .unchanged⟩, store.remembering base.checksum, []⟩
      else
        let written := store.persistConfig edited
        { written with outcome := written.outcome.map fun snapshot => ⟨snapshot, .updated⟩ }

/-- Runs a command on a snapshot, or on what the file holds if there is none. -/
def writeWithLock [System μ] (store : FileStore μ) (command : Command Config)
    (base : Option (Snapshot Config)) : Called (FileStore μ) (SaveResult Config) :=
  let start : Outcome (Snapshot Config) :=
    match base, store.readText with
    | some snapshot, _ => .ok snapshot
    | none, .ok text => store.parse text
    | none, .error error => .failed error
  match start with
  | .failed error => ⟨.failed error, store, []⟩
  | .panicked message => ⟨.panicked message, store, []⟩
  | .ok snapshot =>
      match command.expected with
      | some expected =>
          if expected = snapshot.checksum then store.applyTo command snapshot
          else ⟨.failed (.conflict expected snapshot.checksum), store, []⟩
      | none => store.applyTo command snapshot

/-- Where the file is, seen from the root. -/
def location [System μ] (store : FileStore μ) : Path := System.absolute store.machine store.path

end FileStore

/-- The file store of a machine. -/
def fileStore : Store FileStore Config where
  fallback := {}
  load := FileStore.load
  write := FileStore.write
  writeWithLock := FileStore.writeWithLock
  location := FileStore.location

end LastGood
