import LastGood.Proofs.Config.Written
import LastGood.Proofs.System.Laws
import LastGood.Store.File

/-!
# What calls do to a file store

A call of the file store ends in one of a few ways. It hands out the snapshot of the text
that the file holds after it, and remembers that snapshot's checksum; it hands back the
snapshot that it was given, and remembers that one; it finds the text that it remembers;
or it does not succeed, and then whatever text the file held it still holds. The laws here
say so once for every call, whatever the path and the disk.

In every case the path, the current directory and the environment stay as they are.
-/

namespace LastGood

/-- Reading a configuration from settings never crashes. -/
theorem Settings.config_no_crash (settings : Tree Origin) (message : String) :
    Settings.config settings ≠ .error (.crash message) := by
  unfold Settings.config
  cases (Config.record strictness).read strictness settings with
  | error fault => exact fun crashed => by cases crashed
  | ok config => exact fun crashed => by cases crashed

/-- What a YAML text writes is read without the environment, and so never crashes. -/
theorem Config.of_yaml_no_crash (text message : String) :
    Config.ofYaml text ≠ .error (.crash message) := by
  unfold Config.ofYaml Settings.ofYaml
  cases Yaml.entriesOf text with
  | error error => exact fun crashed => by cases crashed
  | ok entries => exact Settings.config_no_crash _ message

/-- Marking the snapshot of a write as updated keeps it. -/
theorem Outcome.map_updated {C : Type} (outcome : Outcome (Snapshot C)) :
    (outcome.map fun snapshot => (⟨snapshot, .updated⟩ : SaveResult C)).map
      SaveResult.snapshot = outcome := by
  cases outcome <;> rfl

namespace FileStore

variable {μ : Type} [System μ]

/-- Two stores of one path in the same surroundings. Disks and memories may differ. -/
structure SameSurroundings (before after : FileStore) : Prop where
  /-- The path is the same. -/
  path : after.path = before.path
  /-- The current directory is the same. -/
  directory : after.machine.directory = before.machine.directory
  /-- The environment is the same. -/
  environment : after.machine.environment = before.machine.environment

/-- A call left alone what the file holds, and what the store remembers. Other files may
have changed. -/
structure LeavesText (before after : FileStore) : Prop extends
    SameSurroundings before after where
  /-- A text that the file held it still holds. -/
  text : ∀ text : String, before.readText = .ok text → after.readText = .ok text
  /-- The same checksum is remembered, if one is. -/
  remembered : after.remembered = before.remembered

/-- A call that changes nothing leaves the text alone. -/
theorem LeavesText.unmoved (store : FileStore) : store.LeavesText store where
  path := rfl
  directory := rfl
  environment := rfl
  text _ held := held
  remembered := rfl

/-- A call handed out a snapshot: it was made of the text that the file holds after the
call, in the environment of the call, and its checksum is remembered. -/
structure HandsOut (before after : FileStore) (snapshot : Snapshot Config) : Prop extends
    SameSurroundings before after where
  /-- The text behind the snapshot is that of the file. -/
  text : ∃ text : String, after.readText = .ok text ∧
    snapshotOf before.machine.environment text = .ok snapshot
  /-- The checksum is remembered. -/
  remembered : after.remembered = some snapshot.checksum

/-- How a write or a locked write ends, the latter on a base if there is one. -/
inductive WriteEnd (before : FileStore) (base : Option (Snapshot Config)) :
    Outcome (Snapshot Config) → FileStore → Prop where
  /-- It handed out the snapshot of what the file holds. -/
  | handedOut {snapshot : Snapshot Config} {after : FileStore}
      (made : before.HandsOut after snapshot) : WriteEnd before base (.ok snapshot) after
  /-- It handed its base back. -/
  | handedBack {snapshot : Snapshot Config} (given : base = some snapshot) :
      WriteEnd before base (.ok snapshot) (before.remembering snapshot.checksum)
  /-- It failed. -/
  | failed {error : ConfigError} {after : FileStore} (left : before.LeavesText after) :
      WriteEnd before base (.failed error) after
  /-- It panicked. -/
  | panicked {message : String} : WriteEnd before base (.panicked message) before

/-- How a load ends. It never changes the machine. -/
inductive LoadEnd (before : FileStore) : Outcome (Option (Snapshot Config)) → FileStore → Prop where
  /-- It handed out the snapshot of what the file holds. -/
  | handedOut {snapshot : Snapshot Config} {after : FileStore}
      (made : before.HandsOut after snapshot) (machine : after.machine = before.machine) :
      LoadEnd before (.ok (some snapshot)) after
  /-- It found the text that is remembered. -/
  | known {text : String} (held : before.readText = .ok text)
      (remembered : before.remembered = some (checksum text)) : LoadEnd before (.ok none) before
  /-- It failed and forgot. -/
  | failed {error : ConfigError} : LoadEnd before (.failed error) before.forgetting
  /-- It panicked. -/
  | panicked {message : String} : LoadEnd before (.panicked message) before

/-- A load that brought a snapshot handed it out. -/
theorem LoadEnd.handed_out {before after : FileStore} {snapshot : Snapshot Config}
    (ended : LoadEnd before (.ok (some snapshot)) after) : before.HandsOut after snapshot := by
  cases ended with
  | handedOut made machine => exact made

/-- A write on no base that brought a snapshot handed it out. -/
theorem WriteEnd.handed_out {before after : FileStore} {snapshot : Snapshot Config}
    (ended : WriteEnd before none (.ok snapshot) after) : before.HandsOut after snapshot := by
  cases ended with
  | handedOut made => exact made
  | handedBack given => cases given

/-- On a machine the text of the file is what the machine reads at the path. -/
theorem read_text_eq (store : FileStore) :
    store.readText =
      (store.machine.readText store.path).mapError fun fault => .io store.path fault.text := rfl

/-- A store on a machine runs in the environment of the machine. -/
@[simp] theorem environment_eq (store : FileStore) :
    store.environment = store.machine.environment := rfl

/-- On a machine a text is read in the environment of the machine. -/
theorem parse_eq (store : FileStore) (text : String) :
    store.parse text = snapshotOf store.machine.environment text := rfl

/-- On a machine the path is seen as the machine sees it. -/
theorem location_eq (store : FileStore) :
    store.location = store.machine.absolute store.path := rfl

/-- The file has a text exactly when its bytes are those of the text. -/
theorem read_text_ok_iff (store : FileStore) (text : String) :
    store.readText = .ok text ↔
      store.machine.disk.read store.machine.directory store.path = .ok text.toUTF8 := by
  rw [← Machine.read_text_ok_iff, read_text_eq]
  cases store.machine.readText store.path with
  | ok found =>
    constructor
    · intro held
      exact congrArg Except.ok (Except.ok.inj held)
    · intro held
      exact congrArg Except.ok (Except.ok.inj held)
  | error fault =>
    constructor
    · intro held
      cases held
    · intro held
      cases held

/-- A reading of settings ends well exactly when it gives a value. -/
theorem outcome_of_ok_iff {α : Type} (reading : Except SettingsError α) (value : α) :
    outcomeOf reading = .ok value ↔ reading = .ok value := by
  cases reading with
  | ok other => simp [outcomeOf]
  | error error => cases error <;> simp [outcomeOf]

/-- Whatever is wrong with settings is an error, except for a crash. -/
theorem outcome_of_error {α : Type} {fault : SettingsError}
    (uncrashed : ∀ message, fault ≠ .crash message) :
    outcomeOf (.error fault : Except SettingsError α) = .failed (.parse fault.message) := by
  cases fault with
  | crash message => exact absurd rfl (uncrashed message)
  | _ => rfl

/-- The snapshot of a text is made of both readings of that one text and of its checksum. -/
theorem snapshot_of_ok_iff (environment : Environment) (text : String)
    (snapshot : Snapshot Config) :
    snapshotOf environment text = .ok snapshot ↔
      Config.ofYaml text = .ok snapshot.editable ∧
      Config.runtimeOfYaml environment text = .ok snapshot.runtime ∧
      snapshot.checksum = checksum text := by
  unfold snapshotOf
  rw [← outcome_of_ok_iff, ← outcome_of_ok_iff]
  cases outcomeOf (Config.ofYaml text) with
  | failed error => simp [Outcome.andThen]
  | panicked message => simp [Outcome.andThen]
  | ok editable =>
    cases outcomeOf (Config.runtimeOfYaml environment text) with
    | failed error => simp [Outcome.andThen]
    | panicked message => simp [Outcome.andThen]
    | ok runtime =>
      cases snapshot
      simp [Outcome.andThen, eq_comm, and_left_comm]

/-- A text of which no configuration can be edited has no snapshot, whatever the environment. -/
theorem snapshot_of_malformed {text : String} {fault : SettingsError}
    (refused : Config.ofYaml text = .error fault) (environment : Environment) :
    snapshotOf environment text = .failed (.parse fault.message) := by
  have ended : outcomeOf (Config.ofYaml text) = .failed (.parse fault.message) := by
    rw [refused]
    refine outcome_of_error fun message crashed => ?_
    exact Config.of_yaml_no_crash text message (crashed ▸ refused)
  simp only [snapshotOf, ended, Outcome.andThen]

/-- A text of which a configuration can be edited is read in the environment as well, and
what comes of that decides. -/
theorem snapshot_of_editable {text : String} {editable : Config}
    (edited : Config.ofYaml text = .ok editable) (environment : Environment) :
    snapshotOf environment text =
      (outcomeOf (Config.runtimeOfYaml environment text)).map fun runtime =>
        ⟨runtime, editable, checksum text⟩ := by
  simp only [snapshotOf, edited, outcomeOf, Outcome.andThen]

/-- All the ways in which a text is put in place on some system, or is not: it is written to the
second file, and that is moved to the path. A step that fails may leave something behind. -/
inductive Replaces (store : FileStore μ) (text : String) :
    Except ConfigError Unit × FileStore μ → Prop where
  /-- The second file cannot be written. -/
  | unwritten {fault : DiskFault} {left : μ}
      (writing : System.writeText store.machine store.temporaryPath text = (.error fault, left)) :
      Replaces store text
        (.error (.io store.temporaryPath fault.text), { store with machine := left })
  /-- The second file cannot be moved. -/
  | unmoved {written left : μ} {fault : DiskFault}
      (writing : System.writeText store.machine store.temporaryPath text = (.ok (), written))
      (moving : System.rename written store.temporaryPath store.path = (.error fault, left)) :
      Replaces store text (.error (.io store.path fault.text), { store with machine := left })
  /-- The second file is moved. -/
  | placed {written renamed : μ}
      (writing : System.writeText store.machine store.temporaryPath text = (.ok (), written))
      (moving : System.rename written store.temporaryPath store.path = (.ok (), renamed)) :
      Replaces store text (.ok (), { store with machine := renamed })

/-- A text that cannot be written to the second file is not put in place. -/
theorem persist_of_unwritten {store : FileStore μ} {text : String} {fault : DiskFault} {left : μ}
    (writing : System.writeText store.machine store.temporaryPath text = (.error fault, left)) :
    store.persist text =
      (.error (.io store.temporaryPath fault.text), { store with machine := left }) := by
  simp only [persist, writing]

/-- Neither is one whose file cannot be moved. -/
theorem persist_of_unmoved {store : FileStore μ} {text : String} {written left : μ}
    {fault : DiskFault}
    (writing : System.writeText store.machine store.temporaryPath text = (.ok (), written))
    (moving : System.rename written store.temporaryPath store.path = (.error fault, left)) :
    store.persist text = (.error (.io store.path fault.text), { store with machine := left }) := by
  simp only [persist, writing, moving]

/-- A text that is written and moved is put in place. -/
theorem persist_of_placed {store : FileStore μ} {text : String} {written renamed : μ}
    (writing : System.writeText store.machine store.temporaryPath text = (.ok (), written))
    (moving : System.rename written store.temporaryPath store.path = (.ok (), renamed)) :
    store.persist text = (.ok (), { store with machine := renamed }) := by
  simp only [persist, writing, moving]

/-- Putting a text in place ends in one of these ways, on every system. -/
theorem replaces (store : FileStore μ) (text : String) :
    Replaces store text (store.persist text) := by
  cases writing : System.writeText store.machine store.temporaryPath text with
  | mk result written =>
    cases result with
    | error fault => exact persist_of_unwritten writing ▸ .unwritten writing
    | ok _ =>
      cases moving : System.rename written store.temporaryPath store.path with
      | mk result renamed =>
        cases result with
        | error fault => exact persist_of_unmoved writing moving ▸ .unmoved writing moving
        | ok _ => exact persist_of_placed writing moving ▸ .placed writing moving

/-- All the ways in which a text is put in place on a machine, or is not: a step that fails leaves
the disk as it is. -/
inductive Persists (store : FileStore) (text : String) :
    Except ConfigError Unit × FileStore → Prop where
  /-- The second file cannot be written. -/
  | unwritten {fault : DiskFault}
      (writing : store.machine.disk.write store.machine.directory store.temporaryPath text.toUTF8 =
        .error fault) :
      Persists store text (.error (.io store.temporaryPath fault.text), store)
  /-- The second file cannot be moved. -/
  | unmoved {written : Disk} {fault : DiskFault}
      (writing : store.machine.disk.write store.machine.directory store.temporaryPath text.toUTF8 =
        .ok written)
      (moving : written.rename store.machine.directory store.temporaryPath store.path =
        .error fault) :
      Persists store text
        (.error (.io store.path fault.text),
          { store with machine := store.machine.withDisk written })
  /-- The second file is moved. -/
  | placed {written renamed : Disk}
      (writing : store.machine.disk.write store.machine.directory store.temporaryPath text.toUTF8 =
        .ok written)
      (moving : written.rename store.machine.directory store.temporaryPath store.path =
        .ok renamed) :
      Persists store text (.ok (), { store with machine := store.machine.withDisk renamed })

/-- Putting a text in place ends in one of these ways on a machine. -/
theorem persists (store : FileStore) (text : String) :
    Persists store text (store.persist text) := by
  cases writing : store.machine.disk.write store.machine.directory store.temporaryPath
      text.toUTF8 with
  | error fault =>
    have ended : store.persist text = (.error (.io store.temporaryPath fault.text), store) := by
      simp only [persist, Machine.system_write_text, Machine.writeText, writing, Except.map,
        Machine.attempt]
    exact ended ▸ .unwritten writing
  | ok written =>
    cases moving : written.rename store.machine.directory store.temporaryPath store.path with
    | error fault =>
      have ended : store.persist text = (.error (.io store.path fault.text),
          { store with machine := store.machine.withDisk written }) := by
        simp only [persist, Machine.system_write_text, Machine.system_rename, Machine.writeText,
          Machine.rename, writing, moving, Except.map, Machine.attempt, Machine.withDisk]
      exact ended ▸ .unmoved writing moving
    | ok renamed =>
      have ended : store.persist text =
          (.ok (), { store with machine := store.machine.withDisk renamed }) := by
        simp only [persist, Machine.system_write_text, Machine.system_rename, Machine.writeText,
          Machine.rename, writing, moving, Except.map, Machine.attempt, Machine.withDisk]
      exact ended ▸ .placed writing moving

/-- A text that was put in place was written to the second file, which was moved then. -/
theorem persist_ok {store : FileStore} {text : String}
    (persisted : (store.persist text).1 = .ok ()) :
    ∃ written renamed,
      store.machine.disk.write store.machine.directory store.temporaryPath text.toUTF8 =
        .ok written ∧
      written.rename store.machine.directory store.temporaryPath store.path = .ok renamed ∧
      (store.persist text).2 = { store with machine := store.machine.withDisk renamed } := by
  have ended := store.persists text
  generalize store.persist text = result at persisted ended ⊢
  cases ended with
  | unwritten => cases persisted
  | unmoved => cases persisted
  | placed writing moving => exact ⟨_, _, writing, moving, rfl⟩

/-- Persisting a text hands out its snapshot or leaves the text of the file. -/
theorem persist_snapshot_end (store : FileStore) (base : Option (Snapshot Config))
    (text : String) :
    WriteEnd store base (store.persistSnapshot text).outcome
      (store.persistSnapshot text).state := by
  unfold persistSnapshot
  cases parsed : store.parse text with
  | failed error => exact .failed (LeavesText.unmoved store)
  | panicked message => exact .panicked
  | ok snapshot =>
    have ended := store.persists text
    generalize store.persist text = result at ended ⊢
    cases ended with
    | unwritten => exact .failed (LeavesText.unmoved store)
    | @unmoved written fault writing moving =>
      refine .failed
        { path := rfl, directory := rfl, environment := rfl, text := ?_, remembered := rfl }
      intro found held
      rw [read_text_ok_iff] at held ⊢
      exact Disk.read_beside (by decide) (by decide) writing held
    | @placed written renamed writing moving =>
      refine .handedOut
        { path := rfl, directory := rfl, environment := rfl, text := ⟨text, ?_, parsed⟩
          remembered := rfl }
      rw [read_text_ok_iff]
      exact Disk.read_replaced writing moving

/-- A text that was persisted with success had the snapshot that was handed out, was put in place,
and its checksum is remembered. -/
theorem persist_snapshot_made {store : FileStore μ} {text : String} {snapshot : Snapshot Config}
    (ended : (store.persistSnapshot text).outcome = .ok snapshot) :
    store.parse text = .ok snapshot ∧ (store.persist text).1 = .ok () ∧
      (store.persistSnapshot text).state =
        (store.persist text).2.remembering snapshot.checksum := by
  revert ended
  unfold persistSnapshot
  cases store.parse text with
  | failed error => rintro ⟨⟩
  | panicked message => rintro ⟨⟩
  | ok made =>
    obtain ⟨result, after⟩ := store.persist text
    cases result with
    | error error => rintro ⟨⟩
    | ok done =>
      rintro ⟨⟩
      exact ⟨rfl, rfl, rfl⟩

/-- Such a text is what the file holds then. -/
theorem persist_snapshot_text {store : FileStore} {text : String} {snapshot : Snapshot Config}
    (ended : (store.persistSnapshot text).outcome = .ok snapshot) :
    (store.persistSnapshot text).state.readText = .ok text := by
  obtain ⟨_, persisted, after⟩ := persist_snapshot_made ended
  obtain ⟨written, renamed, writing, moving, moved⟩ := persist_ok persisted
  rw [after, moved, read_text_ok_iff]
  exact Disk.read_replaced writing moving

/-- A text that can be parsed and put in place is persisted: its snapshot is handed out, and
the file holds it. -/
theorem persist_snapshot_ok {store : FileStore} {text : String} {snapshot : Snapshot Config}
    (parsed : store.parse text = .ok snapshot) (persisted : (store.persist text).1 = .ok ()) :
    (store.persistSnapshot text).outcome = .ok snapshot ∧
      (store.persistSnapshot text).state.readText = .ok text := by
  have outcome : (store.persistSnapshot text).outcome = .ok snapshot := by
    unfold persistSnapshot
    rw [parsed, show store.persist text = (.ok (), (store.persist text).2) from
      Prod.ext persisted rfl]
  exact ⟨outcome, persist_snapshot_text outcome⟩

/-- A configuration that can be written is persisted as its text. -/
theorem persist_config_of_text {config : Config} (text : config.isText) (store : FileStore μ) :
    store.persistConfig config = store.persistSnapshot config.toYaml := by
  rw [persistConfig, Config.written, Config.written_by_of_text text]

/-- One that cannot be written is refused, and nothing happens. -/
theorem persist_config_of_foreign {config : Config} (foreign : config.isText = false)
    (store : FileStore μ) :
    store.persistConfig config = ⟨.failed (.serialize Directory.foreignText), store, []⟩ := by
  rw [persistConfig, Config.written, Config.written_by_of_foreign foreign]

/-- Persisting a configuration hands out its snapshot or leaves the text of the file. -/
theorem persist_config_end (store : FileStore) (base : Option (Snapshot Config))
    (config : Config) :
    WriteEnd store base (store.persistConfig config).outcome
      (store.persistConfig config).state := by
  cases text : config.isText with
  | true =>
    rw [persist_config_of_text text]
    exact persist_snapshot_end store base config.toYaml
  | false =>
    rw [persist_config_of_foreign text]
    exact .failed (LeavesText.unmoved store)

/-- A configuration that was persisted can be written, and its text was persisted. -/
theorem persist_config_made {store : FileStore μ} {config : Config} {snapshot : Snapshot Config}
    (ended : (store.persistConfig config).outcome = .ok snapshot) :
    config.isText ∧ store.persistConfig config = store.persistSnapshot config.toYaml := by
  cases text : config.isText with
  | true => exact ⟨rfl, persist_config_of_text text store⟩
  | false =>
    rw [persist_config_of_foreign text] at ended
    cases ended

/-- How a write ends. -/
theorem write_end (store : FileStore) (content : String) (migrate : Bool) :
    WriteEnd store none (store.write content migrate).outcome
      (store.write content migrate).state := by
  unfold write
  cases Config.ofYaml content with
  | error error => exact .failed (LeavesText.unmoved store)
  | ok editable =>
    simp only
    split
    · exact persist_config_end store none _
    · exact persist_snapshot_end store none _

/-- How running a command on a snapshot ends. -/
theorem apply_end (store : FileStore) (command : Command Config) (base : Snapshot Config) :
    WriteEnd store (some base) ((store.applyTo command base).outcome.map SaveResult.snapshot)
      (store.applyTo command base).state := by
  unfold applyTo
  obtain ⟨edited, verdict⟩ := command.update base.editable
  cases verdict with
  | refused error => exact .failed (LeavesText.unmoved store)
  | panicked message => exact .panicked
  | accepted =>
    simp only
    split
    · exact .handedBack rfl
    · have ended := persist_config_end store (some base) edited
      simp only [Outcome.map_updated]
      exact ended

/-- Running a command depends on nothing of it but what it makes of the configuration that it
is run on. -/
theorem apply_congr (store : FileStore μ) {command other : Command Config}
    {base : Snapshot Config}
    (same : other.update base.editable = command.update base.editable) :
    store.applyTo other base = store.applyTo command base := by
  simp only [applyTo, same]

/-- A command that was run with success was accepted. If it left the configuration the same,
the snapshot is handed back and the machine is left alone; otherwise the file holds the text
of the edited configuration. -/
theorem apply_ok {store : FileStore} {command : Command Config} {base : Snapshot Config}
    {result : SaveResult Config} (ended : (store.applyTo command base).outcome = .ok result) :
    (command.update base.editable).2 = .accepted ∧
      if (command.update base.editable).1.sameAs base.editable then
        result = ⟨base, .unchanged⟩ ∧ (store.applyTo command base).state.machine = store.machine
      else
        result.state = .updated ∧ (store.applyTo command base).state.readText =
          .ok (command.update base.editable).1.toYaml := by
  revert ended
  unfold applyTo
  obtain ⟨edited, verdict⟩ := command.update base.editable
  cases verdict with
  | refused error =>
    intro ended
    cases ended
  | panicked message =>
    intro ended
    cases ended
  | accepted =>
    simp only [true_and]
    split
    · intro ended
      exact ⟨(Outcome.ok.inj ended).symm, rfl⟩
    · cases persisted : (store.persistConfig edited).outcome with
      | failed error =>
        intro ended
        cases ended
      | panicked message =>
        intro ended
        cases ended
      | ok snapshot =>
        intro ended
        obtain ⟨_, same⟩ := persist_config_made persisted
        rw [same] at persisted ⊢
        exact ⟨(Outcome.ok.inj ended) ▸ rfl, persist_snapshot_text persisted⟩

/-- A command that updated the file handed out the snapshot of what the file holds then. -/
theorem apply_updated {store : FileStore} {command : Command Config}
    {base snapshot : Snapshot Config}
    (ended : (store.applyTo command base).outcome = .ok ⟨snapshot, .updated⟩) :
    store.HandsOut (store.applyTo command base).state snapshot := by
  revert ended
  unfold applyTo
  obtain ⟨edited, verdict⟩ := command.update base.editable
  cases verdict with
  | refused error =>
    intro ended
    cases ended
  | panicked message =>
    intro ended
    cases ended
  | accepted =>
    simp only
    split
    · intro ended
      cases ended
    · have persisted := persist_config_end store none edited
      cases outcome : (store.persistConfig edited).outcome with
      | failed error =>
        intro ended
        cases ended
      | panicked message =>
        intro ended
        cases ended
      | ok made =>
        intro ended
        cases ended
        rw [outcome] at persisted
        exact persisted.handed_out

/-- Handing back the snapshot of what the file holds is handing out that one. -/
theorem WriteEnd.of_parsed {store after : FileStore} {text : String}
    {snapshot : Snapshot Config} {outcome : Outcome (Snapshot Config)}
    (held : store.readText = .ok text) (parsed : store.parse text = .ok snapshot)
    (ended : WriteEnd store (some snapshot) outcome after) :
    WriteEnd store none outcome after := by
  cases ended with
  | handedOut made => exact .handedOut made
  | handedBack given =>
    cases given
    exact .handedOut { path := rfl, directory := rfl, environment := rfl
                       text := ⟨text, held, parsed⟩, remembered := rfl }
  | failed left => exact .failed left
  | panicked => exact .panicked

/-- On a snapshot, a locked write runs its command unless that expects another checksum. The
file is not read. -/
theorem lock_on_snapshot (store : FileStore μ) (command : Command Config)
    (snapshot : Snapshot Config) :
    store.writeWithLock command (some snapshot) =
      match command.expected with
      | some expected =>
          if expected = snapshot.checksum then store.applyTo command snapshot
          else ⟨.failed (.conflict expected snapshot.checksum), store, []⟩
      | none => store.applyTo command snapshot := by
  unfold writeWithLock
  rfl

/-- A locked write on a snapshot that succeeds ran its command. -/
theorem lock_ran {store : FileStore μ} {command : Command Config} {base : Snapshot Config}
    {result : SaveResult Config}
    (ended : (store.writeWithLock command (some base)).outcome = .ok result) :
    store.writeWithLock command (some base) = store.applyTo command base := by
  revert ended
  rw [lock_on_snapshot]
  cases command.expected with
  | none =>
    intro _
    rfl
  | some expected =>
    simp only
    split
    · intro _
      rfl
    · intro ended
      cases ended

/-- Without a snapshot, a locked write starts from that of what the file holds. -/
theorem lock_on_nothing (store : FileStore μ) (command : Command Config) :
    store.writeWithLock command none =
      match store.readText with
      | .error error => ⟨.failed error, store, []⟩
      | .ok text =>
          match store.parse text with
          | .failed error => ⟨.failed error, store, []⟩
          | .panicked message => ⟨.panicked message, store, []⟩
          | .ok snapshot => store.writeWithLock command (some snapshot) := by
  unfold writeWithLock
  generalize store.readText = reading
  cases reading with
  | error error => rfl
  | ok text =>
    generalize parsed : store.parse text = found
    cases found with
    | ok snapshot => simp only [parsed]
    | failed error => simp only [parsed]
    | panicked message => simp only [parsed]

/-- How a locked write ends. -/
theorem lock_end (store : FileStore) (command : Command Config)
    (base : Option (Snapshot Config)) :
    WriteEnd store base ((store.writeWithLock command base).outcome.map SaveResult.snapshot)
      (store.writeWithLock command base).state := by
  have based : ∀ snapshot : Snapshot Config, WriteEnd store (some snapshot)
      ((store.writeWithLock command (some snapshot)).outcome.map SaveResult.snapshot)
      (store.writeWithLock command (some snapshot)).state := by
    intro snapshot
    rw [lock_on_snapshot]
    cases command.expected with
    | none => exact apply_end store command snapshot
    | some expected =>
      simp only
      split
      · exact apply_end store command snapshot
      · exact .failed (LeavesText.unmoved store)
  cases base with
  | some snapshot => exact based snapshot
  | none =>
    rw [lock_on_nothing]
    cases held : store.readText with
    | error error => exact .failed (LeavesText.unmoved store)
    | ok text =>
      simp only
      cases parsed : store.parse text with
      | failed error => exact .failed (LeavesText.unmoved store)
      | panicked message => exact .panicked
      | ok snapshot => exact (based snapshot).of_parsed held parsed

/-- A locked write that starts from what the file holds, or that updated it, handed out the
snapshot of what the file holds then. -/
theorem lock_handed_out {store : FileStore} {command : Command Config}
    {base : Option (Snapshot Config)} {result : SaveResult Config}
    (ended : (store.writeWithLock command base).outcome = .ok result)
    (fresh : base = none ∨ result.state = .updated) :
    store.HandsOut (store.writeWithLock command base).state result.snapshot := by
  cases base with
  | none =>
    have locked := lock_end store command none
    rw [ended] at locked
    exact locked.handed_out
  | some base =>
    rcases fresh with nothing | updated
    · cases nothing
    · have ran := lock_ran ended
      rw [ran] at ended ⊢
      obtain ⟨snapshot, state⟩ := result
      cases updated
      exact apply_updated ended

/-- How a load ends. -/
theorem load_end (store : FileStore) :
    LoadEnd store store.load.outcome store.load.state := by
  unfold load
  cases held : store.readText with
  | error error => exact .failed
  | ok text =>
    simp only
    split
    case isTrue remembered => exact .known held remembered
    case isFalse =>
      cases parsed : store.parse text with
      | failed error => exact .failed
      | panicked message => exact .panicked
      | ok snapshot =>
        obtain ⟨-, -, sum⟩ := (snapshot_of_ok_iff _ _ _).mp parsed
        rw [← sum]
        exact .handedOut
          { path := rfl, directory := rfl, environment := rfl, text := ⟨text, held, parsed⟩
            remembered := rfl } rfl

/-- A load leaves the file as it is. -/
theorem load_read_text (store : FileStore) : store.load.state.readText = store.readText := by
  have ended := load_end store
  generalize store.load.outcome = outcome at ended
  generalize store.load.state = after at ended ⊢
  cases ended with
  | handedOut made machine => simp only [readText, made.path, machine]
  | known held remembered => rfl
  | failed => rfl
  | panicked => rfl

end FileStore

end LastGood
