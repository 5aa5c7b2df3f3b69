import LastGood.Proofs.Store.FileCalls

/-!
# What a file store remembers

The checksum that a file store remembers is of use to loads alone. A write and a locked
write end the same way, and do the same to the disk, whatever is remembered. A load that
does not skip ends as if nothing were remembered.

The file store whose loads never skip is the file store that forgets before each load. It
is what the file store is compared with: it reads and parses the file every time.
-/

namespace LastGood

/-- A call that gives a value does not give nothing. -/
theorem Outcome.map_some_ne_none {α : Type} (outcome : Outcome α) :
    outcome.map some ≠ .ok none := by
  cases outcome with
  | ok value => exact fun nothing => by cases nothing
  | failed error => exact fun nothing => by cases nothing
  | panicked message => exact fun nothing => by cases nothing

namespace FileStore

/-- What a store without a memory makes of its file: the file is read and its text parsed. -/
def reading (store : FileStore) : Outcome (Snapshot Config) :=
  match store.readText with
  | .error error => .failed error
  | .ok text => store.parse text

/-- Forgetting changes nothing that is read from the file. -/
@[simp] theorem reading_forgetting (store : FileStore) :
    store.forgetting.reading = store.reading := rfl

/-- What is made of a file depends on its text and the environment alone. -/
theorem reading_congr {store other : FileStore} (text : store.readText = other.readText)
    (environment : store.machine.environment = other.machine.environment) :
    store.reading = other.reading := by
  simp only [reading, parse_eq, text, environment]

/-- Two stores that differ in their memory at most are at the same path of the same machine. -/
theorem forgetting_inj {store other : FileStore} (same : store.forgetting = other.forgetting) :
    store.path = other.path ∧ store.machine = other.machine := by
  have fields := FileStore.mk.inj same
  exact ⟨fields.1, fields.2.2⟩

/-- A text of which no configuration can be edited is refused for that. -/
theorem reading_of_malformed {store : FileStore} {text : String} {fault : SettingsError}
    (held : store.readText = .ok text) (refused : Config.ofYaml text = .error fault) :
    store.reading = .failed (.parse fault.message) := by
  simp only [reading, held, parse_eq, snapshot_of_malformed refused]

/-- A text of which a configuration can be edited is read in the environment as well, and
what comes of that decides. -/
theorem reading_of_editable {store : FileStore} {text : String} {editable : Config}
    (held : store.readText = .ok text) (edited : Config.ofYaml text = .ok editable) :
    store.reading =
      (outcomeOf (Config.runtimeOfYaml store.machine.environment text)).map fun runtime =>
        ⟨runtime, editable, checksum text⟩ := by
  simp only [reading, held, parse_eq, snapshot_of_editable edited]

/-- A text is persisted the same way whatever is remembered. -/
theorem persist_forgetting (store : FileStore) (text : String) :
    store.forgetting.persist text =
      ((store.persist text).1, (store.persist text).2.forgetting) := by
  simp only [persist, forgetting, temporaryPath, Machine.system_write_text, Machine.system_rename]
  cases store.machine.writeText (store.path.extended ".tmp") text with
  | error fault => rfl
  | ok written =>
    simp only [Machine.attempt]
    cases written.rename (store.path.extended ".tmp") store.path <;> rfl

/-- A snapshot is persisted the same way whatever is remembered. -/
theorem persist_snapshot_forgetting (store : FileStore) (text : String) :
    (store.forgetting.persistSnapshot text).outcome = (store.persistSnapshot text).outcome ∧
      (store.forgetting.persistSnapshot text).state.forgetting =
        (store.persistSnapshot text).state.forgetting := by
  have parsing : store.forgetting.parse text = store.parse text := rfl
  unfold persistSnapshot
  rw [parsing, persist_forgetting]
  cases store.parse text with
  | failed error => exact ⟨rfl, rfl⟩
  | panicked message => exact ⟨rfl, rfl⟩
  | ok snapshot =>
    simp only
    obtain ⟨ended, after⟩ := store.persist text
    cases ended <;> exact ⟨rfl, rfl⟩

/-- A configuration is persisted the same way whatever is remembered. -/
theorem persist_config_forgetting (store : FileStore) (config : Config) :
    (store.forgetting.persistConfig config).outcome = (store.persistConfig config).outcome ∧
      (store.forgetting.persistConfig config).state.forgetting =
        (store.persistConfig config).state.forgetting := by
  unfold persistConfig
  cases config.written with
  | error reason => exact ⟨rfl, rfl⟩
  | ok text => exact persist_snapshot_forgetting store text

/-- A write ends the same way whatever is remembered. -/
theorem write_forgetting (store : FileStore) (content : String) (migrate : Bool) :
    (store.forgetting.write content migrate).outcome = (store.write content migrate).outcome ∧
      (store.forgetting.write content migrate).state.forgetting =
        (store.write content migrate).state.forgetting := by
  unfold write
  cases Config.ofYaml content with
  | error error => exact ⟨rfl, rfl⟩
  | ok editable =>
    simp only
    split
    · exact persist_config_forgetting store _
    · exact persist_snapshot_forgetting store _

/-- A command is run the same way whatever is remembered. -/
theorem apply_forgetting (store : FileStore) (command : Command Config)
    (base : Snapshot Config) :
    (store.forgetting.applyTo command base).outcome = (store.applyTo command base).outcome ∧
      (store.forgetting.applyTo command base).state.forgetting =
        (store.applyTo command base).state.forgetting := by
  unfold applyTo
  obtain ⟨edited, verdict⟩ := command.update base.editable
  cases verdict with
  | refused error => exact ⟨rfl, rfl⟩
  | panicked message => exact ⟨rfl, rfl⟩
  | accepted =>
    simp only
    split
    · exact ⟨rfl, rfl⟩
    · obtain ⟨ended, after⟩ := persist_config_forgetting store edited
      exact ⟨congrArg (Outcome.map _) ended, after⟩

/-- A locked write ends the same way whatever is remembered. -/
theorem lock_forgetting (store : FileStore) (command : Command Config)
    (base : Option (Snapshot Config)) :
    (store.forgetting.writeWithLock command base).outcome =
        (store.writeWithLock command base).outcome ∧
      (store.forgetting.writeWithLock command base).state.forgetting =
        (store.writeWithLock command base).state.forgetting := by
  have based : ∀ snapshot : Snapshot Config,
      (store.forgetting.writeWithLock command (some snapshot)).outcome =
          (store.writeWithLock command (some snapshot)).outcome ∧
        (store.forgetting.writeWithLock command (some snapshot)).state.forgetting =
          (store.writeWithLock command (some snapshot)).state.forgetting := by
    intro snapshot
    rw [lock_on_snapshot, lock_on_snapshot]
    cases command.expected with
    | none => exact apply_forgetting store command snapshot
    | some expected =>
      simp only
      split
      · exact apply_forgetting store command snapshot
      · exact ⟨rfl, rfl⟩
  have reading : store.forgetting.readText = store.readText := rfl
  have parsing : ∀ text, store.forgetting.parse text = store.parse text := fun _ => rfl
  cases base with
  | some snapshot => exact based snapshot
  | none =>
    rw [lock_on_nothing, lock_on_nothing, reading]
    cases store.readText with
    | error error => exact ⟨rfl, rfl⟩
    | ok text =>
      simp only [parsing]
      cases store.parse text with
      | failed error => exact ⟨rfl, rfl⟩
      | panicked message => exact ⟨rfl, rfl⟩
      | ok snapshot => exact based snapshot

/-- Two stores that differ in their memory at most end a write the same way. -/
theorem write_alike {store other : FileStore} (same : store.forgetting = other.forgetting)
    (content : String) (migrate : Bool) :
    (store.write content migrate).outcome = (other.write content migrate).outcome ∧
      (store.write content migrate).state.forgetting =
        (other.write content migrate).state.forgetting := by
  obtain ⟨outcome, after⟩ := write_forgetting store content migrate
  obtain ⟨outcome', after'⟩ := write_forgetting other content migrate
  rw [same] at outcome after
  exact ⟨outcome.symm.trans outcome', after.symm.trans after'⟩

/-- Two stores that differ in their memory at most end a locked write the same way. -/
theorem lock_alike {store other : FileStore} (same : store.forgetting = other.forgetting)
    (command : Command Config) (base : Option (Snapshot Config)) :
    (store.writeWithLock command base).outcome = (other.writeWithLock command base).outcome ∧
      (store.writeWithLock command base).state.forgetting =
        (other.writeWithLock command base).state.forgetting := by
  obtain ⟨outcome, after⟩ := lock_forgetting store command base
  obtain ⟨outcome', after'⟩ := lock_forgetting other command base
  rw [same] at outcome after
  exact ⟨outcome.symm.trans outcome', after.symm.trans after'⟩

/-- A load with nothing remembered gives what reading and parsing the file gives, and leaves
everything but the memory as it is. -/
theorem load_forgetting (store : FileStore) :
    store.forgetting.load.outcome = store.reading.map some ∧
      store.forgetting.load.state.forgetting = store.forgetting := by
  have held : store.forgetting.readText = store.readText := rfl
  have parsing : ∀ text, store.forgetting.parse text = store.parse text := fun _ => rfl
  have nothing : ∀ sum : String, store.forgetting.remembered ≠ some sum := by
    intro sum remembered
    cases remembered
  unfold load reading
  rw [held]
  cases store.readText with
  | error error => exact ⟨rfl, rfl⟩
  | ok text =>
    simp only [parsing, nothing, if_false]
    cases store.parse text <;> exact ⟨rfl, rfl⟩

/-- A load skips a text whose checksum is remembered, and then changes nothing at all; any
other load ends as if nothing were remembered. -/
theorem load_skips_or_reads (store : FileStore) :
    (∃ text, store.readText = .ok text ∧ store.remembered = some (checksum text) ∧
        store.load.outcome = .ok none ∧ store.load.state = store) ∨
      (store.load.outcome = store.reading.map some ∧
        store.load.state.forgetting = store.forgetting) := by
  unfold load reading
  cases store.readText with
  | error error => exact .inr ⟨rfl, rfl⟩
  | ok text =>
    by_cases remembered : store.remembered = some (checksum text)
    · refine .inl ⟨text, rfl, remembered, ?_, ?_⟩
      · simp only [remembered, if_true]
      · simp only [remembered, if_true]
    · refine .inr ?_
      simp only [remembered, if_false]
      cases store.parse text <;> exact ⟨rfl, rfl⟩

end FileStore

/-- The file store whose loads never skip: it forgets before each of them. -/
def rereadingStore : Store FileStore Config :=
  { fileStore with load := fun store => store.forgetting.load }

/-- A load of that store gives what reading and parsing the file gives. It never says that
there is nothing new. -/
theorem rereading_load (store : FileStore) :
    (rereadingStore.load store).outcome = store.reading.map some ∧
      (rereadingStore.load store).outcome ≠ .ok none := by
  have reads : (rereadingStore.load store).outcome = store.reading.map some :=
    (FileStore.load_forgetting store).1
  exact ⟨reads, reads ▸ Outcome.map_some_ne_none _⟩

end LastGood
