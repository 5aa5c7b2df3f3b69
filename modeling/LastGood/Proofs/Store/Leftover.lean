import LastGood.Proofs.Cache.Bisimulation
import LastGood.Proofs.Disk.Outside
import LastGood.Proofs.Store.FileCalls

/-!
# What a failed write leaves behind

A call that writes and does not succeed leaves everything alone, except that the second file may
have been written when it could not be moved into place. The path does not lead to that file,
and a later write starts it anew. So no call of the store tells whether it is there.
-/

namespace LastGood

namespace FileStore

/-- The location of the second file of a path. The path of that file leads there, and not through
it; the path itself does neither. -/
structure SecondAt (directory : Location) (path : Path) (location : Location) : Prop where
  /-- The path of the second file leads there. -/
  ends : (Disk.route directory (path.extended ".tmp")).getLast? = some location
  /-- It does not lead through the location. -/
  way : location ∉ Disk.approach directory (path.extended ".tmp")
  /-- The path itself does not lead to the location or through it. -/
  off : location ∉ Disk.route directory path

/-- Two stores that differ at the location of the second file at most. -/
structure SameBeside (location : Location) (store other : FileStore) : Prop where
  /-- The path is the same. -/
  path : other.path = store.path
  /-- The same checksum is remembered, if one is. -/
  remembered : other.remembered = store.remembered
  /-- The machines differ at the location at most. -/
  machine : store.machine.SameBeside location other.machine
  /-- It is that of the second file. -/
  second : SecondAt store.machine.directory store.path location

/-- Where a second file was written is the location of the second file. -/
theorem second_of_write {store : FileStore} {location : Location} {content : ByteArray}
    {written : Disk}
    (writing : store.machine.disk.write store.machine.directory store.temporaryPath content =
      .ok written)
    (located : store.machine.disk.locate store.machine.directory store.temporaryPath =
      .ok location) :
    SecondAt store.machine.directory store.path location where
  ends := by
    obtain ⟨passed, split⟩ := Disk.route_of_locate located
    rw [← temporaryPath, split, List.getLast?_concat]
  way := (Disk.approach_of_write writing located).1
  off := Disk.route_of_write_beside (by decide) (by decide) writing located

/-- A text that is not persisted leaves the store as it was, or with another second file. -/
theorem persist_failed {store : FileStore} {text : String} {error : ConfigError}
    (failed : (store.persist text).1 = .error error) :
    (store.persist text).2 = store ∨
      ∃ location, store.machine.disk.locate store.machine.directory store.temporaryPath =
          .ok location ∧ (store.persist text).2.SameBeside location store := by
  have ended := store.persists text
  generalize store.persist text = result at failed ended ⊢
  cases ended with
  | placed => cases failed
  | unwritten => exact .inl rfl
  | unmoved writing moving =>
    obtain ⟨parent, name, place, _⟩ := Disk.write_ok writing
    have second : SecondAt store.machine.directory store.path (parent ++ [name]) :=
      second_of_write writing place.locate
    have disks := (Disk.approach_of_write writing place.locate).2
    exact .inr ⟨parent ++ [name], place.locate, ⟨rfl, rfl, ⟨disks, rfl, rfl⟩, second⟩⟩

/-- What a call that did not succeed left of a store: nothing changed, or the second file is
another one. -/
def Leaves (before after : FileStore) : Prop :=
  after = before ∨
    ∃ location, before.machine.disk.locate before.machine.directory before.temporaryPath =
        .ok location ∧ after.SameBeside location before

/-- A snapshot that is not persisted leaves the store as it was, or with another second file. -/
theorem persist_snapshot_leaves {store : FileStore} {text : String}
    (failed : ∀ snapshot, (store.persistSnapshot text).outcome ≠ .ok snapshot) :
    store.Leaves (store.persistSnapshot text).state := by
  revert failed
  unfold persistSnapshot
  cases store.parse text with
  | failed error => exact fun _ => .inl rfl
  | panicked message => exact fun _ => .inl rfl
  | ok snapshot =>
    cases ended : (store.persist text).1 with
    | error error =>
      have persisted : store.persist text = (.error error, (store.persist text).2) :=
        Prod.ext ended rfl
      rw [persisted]
      exact fun _ => persist_failed ended
    | ok done =>
      have persisted : store.persist text = (.ok (), (store.persist text).2) :=
        Prod.ext ended rfl
      rw [persisted]
      exact fun failed => absurd rfl (failed snapshot)

/-- Neither does a configuration that is not persisted leave anything else. -/
theorem persist_config_leaves {store : FileStore} {config : Config}
    (failed : ∀ snapshot, (store.persistConfig config).outcome ≠ .ok snapshot) :
    store.Leaves (store.persistConfig config).state := by
  revert failed
  unfold persistConfig
  cases config.written with
  | error reason => exact fun _ => .inl rfl
  | ok text => exact persist_snapshot_leaves

/-- A write that does not succeed leaves the store as it was, or with another second file. -/
theorem write_leaves {store : FileStore} {content : String} {migrate : Bool}
    (failed : ∀ snapshot, (store.write content migrate).outcome ≠ .ok snapshot) :
    store.Leaves (store.write content migrate).state := by
  revert failed
  unfold write
  cases Config.ofYaml content with
  | error error => exact fun _ => .inl rfl
  | ok editable =>
    simp only
    split
    · exact persist_config_leaves
    · exact persist_snapshot_leaves

/-- A command that is not run with success leaves the store as it was, or with another second
file. -/
theorem apply_leaves {store : FileStore} {command : Command Config} {base : Snapshot Config}
    (failed : ∀ result, (store.applyTo command base).outcome ≠ .ok result) :
    store.Leaves (store.applyTo command base).state := by
  revert failed
  unfold applyTo
  obtain ⟨edited, verdict⟩ := command.update base.editable
  cases verdict with
  | refused error => exact fun _ => .inl rfl
  | panicked message => exact fun _ => .inl rfl
  | accepted =>
    simp only
    split
    · exact fun failed => absurd rfl (failed _)
    · intro failed
      refine persist_config_leaves fun snapshot ended => ?_
      exact failed ⟨snapshot, .updated⟩ (congrArg (Outcome.map _) ended)

/-- A locked write that does not succeed leaves the store as it was, or with another second
file. -/
theorem lock_leaves {store : FileStore} {command : Command Config}
    {base : Option (Snapshot Config)}
    (failed : ∀ result, (store.writeWithLock command base).outcome ≠ .ok result) :
    store.Leaves (store.writeWithLock command base).state := by
  have based : ∀ snapshot : Snapshot Config,
      (∀ result, (store.writeWithLock command (some snapshot)).outcome ≠ .ok result) →
      store.Leaves (store.writeWithLock command (some snapshot)).state := by
    intro snapshot
    rw [lock_on_snapshot]
    cases command.expected with
    | none => exact apply_leaves
    | some expected =>
      simp only
      split
      · exact apply_leaves
      · exact fun _ => .inl rfl
  cases base with
  | some snapshot => exact based snapshot failed
  | none =>
    revert failed
    rw [lock_on_nothing]
    cases store.readText with
    | error error => exact fun _ => .inl rfl
    | ok text =>
      simp only
      cases store.parse text with
      | failed error => exact fun _ => .inl rfl
      | panicked message => exact fun _ => .inl rfl
      | ok snapshot => exact based snapshot

namespace SameBeside

variable {location : Location} {store other : FileStore}

/-- What stands at the path is the same in both stores. -/
theorem lookup (beside : store.SameBeside location other) :
    other.machine.disk.lookup other.machine.directory other.path =
      store.machine.disk.lookup store.machine.directory store.path := by
  rw [beside.path, beside.machine.directory]
  exact (Disk.lookup_congr (beside.machine.disk.agree beside.second.off)).symm

/-- The same text is read in both stores. -/
theorem readText (beside : store.SameBeside location other) :
    other.readText = store.readText := by
  have found := beside.lookup
  rw [beside.path] at found
  simp only [read_text_eq, Machine.readText, Disk.readText, Disk.read, beside.path, found]

/-- A text has the same snapshot in both stores. -/
theorem parse (beside : store.SameBeside location other) (text : String) :
    other.parse text = store.parse text := by
  simp only [parse_eq, beside.machine.environment]

/-- Both stores are at the same place. -/
theorem place (beside : store.SameBeside location other) : store.location = other.location := by
  simp only [location_eq, Machine.absolute, Machine.directoryPath, beside.path,
    beside.machine.directory]

/-- Remembering the same changes nothing about it. -/
theorem remembering (beside : store.SameBeside location other) (checksum : String) :
    (store.remembering checksum).SameBeside location (other.remembering checksum) :=
  ⟨beside.path, rfl, beside.machine, beside.second⟩

/-- Forgetting changes nothing about it. -/
theorem forgetting (beside : store.SameBeside location other) :
    store.forgetting.SameBeside location other.forgetting :=
  ⟨beside.path, rfl, beside.machine, beside.second⟩

/-- A text is persisted in both stores or in none: the second file is written anew, so what was
there before is gone, and then it is moved in both or in none. -/
theorem persist (beside : store.SameBeside location other) (text : String) :
    (store.persist text).1 = (other.persist text).1 ∧
      (store.persist text).2.SameBeside location (other.persist text).2 := by
  obtain ⟨path, remembered, disk, directory, environment⟩ := store
  obtain ⟨path', remembered', disk', directory', environment'⟩ := other
  obtain ⟨same_path, same_remembered, ⟨disks, same_directory, same_environment⟩, second⟩ := beside
  cases same_path
  cases same_remembered
  cases same_directory
  cases same_environment
  have left : ∀ {after after' : Disk}, Disk.SameBeside location after after' →
      (⟨path, remembered, after, directory, environment⟩ : FileStore).SameBeside location
        ⟨path, remembered, after', directory, environment⟩ :=
    fun same => ⟨rfl, rfl, ⟨same, rfl, rfl⟩, second⟩
  have writes : Disk.SameEnd location
      (disk.write directory (path.extended ".tmp") text.toUTF8)
      (disk'.write directory (path.extended ".tmp") text.toUTF8) :=
    disks.write second.way text.toUTF8
  simp only [FileStore.persist, temporaryPath, Machine.system_write_text, Machine.system_rename,
    Machine.writeText, Machine.rename]
  cases writing : disk.write directory (path.extended ".tmp") text.toUTF8 with
  | error fault =>
    rw [writing] at writes
    generalize disk'.write directory (path.extended ".tmp") text.toUTF8 = writing' at writes ⊢
    cases writes
    exact ⟨rfl, left disks⟩
  | ok written =>
    rw [writing] at writes
    cases writing' : disk'.write directory (path.extended ".tmp") text.toUTF8 with
    | error fault' =>
      rw [writing'] at writes
      cases writes
    | ok written' =>
      rw [writing'] at writes
      cases writes with
      | done disks =>
        -- Both disks now have the same everywhere, so what is moved is the same as well.
        have same : ∀ passed, written.get? passed = written'.get? passed := by
          intro passed
          by_cases here : passed = location
          · rw [here, Disk.get?_of_write writing second.ends,
              Disk.get?_of_write writing' second.ends]
          · exact disks.same passed here
        have moves : Disk.SameEnd location
            (written.rename directory (path.extended ".tmp") path)
            (written'.rename directory (path.extended ".tmp") path) :=
          disks.rename (fun passed _ => same passed) fun passed _ => same passed
        simp only [Except.map, Machine.attempt, Machine.withDisk]
        generalize written.rename directory (path.extended ".tmp") path = moving at moves ⊢
        generalize written'.rename directory (path.extended ".tmp") path = moving' at moves ⊢
        cases moves with
        | done replaced => exact ⟨rfl, left replaced⟩
        | refused fault => exact ⟨rfl, left disks⟩

/-- The same of a snapshot that is persisted. -/
theorem persistSnapshot (beside : store.SameBeside location other) (text : String) :
    (store.persistSnapshot text).Alike (SameBeside location) (other.persistSnapshot text) := by
  unfold FileStore.persistSnapshot
  rw [beside.parse]
  cases store.parse text with
  | failed error => exact ⟨rfl, rfl, beside⟩
  | panicked message => exact ⟨rfl, rfl, beside⟩
  | ok snapshot =>
    obtain ⟨ended, after⟩ := beside.persist text
    generalize store.persist text = done at ended after ⊢
    generalize other.persist text = done' at ended after ⊢
    obtain ⟨result, left⟩ := done
    obtain ⟨result', left'⟩ := done'
    cases ended
    cases result with
    | ok _ => exact ⟨rfl, rfl, after.remembering snapshot.checksum⟩
    | error error => exact ⟨rfl, rfl, after⟩

/-- The same of a configuration that is persisted. -/
theorem persistConfig (beside : store.SameBeside location other) (config : Config) :
    (store.persistConfig config).Alike (SameBeside location) (other.persistConfig config) := by
  unfold FileStore.persistConfig
  cases config.written with
  | error reason => exact ⟨rfl, rfl, beside⟩
  | ok text => exact beside.persistSnapshot text

/-- Writes to both stores are alike. -/
theorem write (beside : store.SameBeside location other) (content : String) (migrate : Bool) :
    (store.write content migrate).Alike (SameBeside location) (other.write content migrate) := by
  unfold FileStore.write
  cases Config.ofYaml content with
  | error error => exact ⟨rfl, rfl, beside⟩
  | ok editable =>
    simp only
    split
    · obtain ⟨outcome, logs, after⟩ := beside.persistConfig
        { editable with schemaVersion := currentSchemaVersion }
      exact ⟨outcome, congrArg (upgradeLog editable.schemaVersion :: ·) logs, after⟩
    · exact beside.persistSnapshot content

/-- Running a command on a snapshot is alike in both stores. -/
theorem applyTo (beside : store.SameBeside location other) (command : Command Config)
    (base : Snapshot Config) :
    (store.applyTo command base).Alike (SameBeside location) (other.applyTo command base) := by
  unfold FileStore.applyTo
  obtain ⟨edited, verdict⟩ := command.update base.editable
  cases verdict with
  | refused error => exact ⟨rfl, rfl, beside⟩
  | panicked message => exact ⟨rfl, rfl, beside⟩
  | accepted =>
    simp only
    split
    · exact ⟨rfl, rfl, beside.remembering base.checksum⟩
    · obtain ⟨outcome, logs, after⟩ := beside.persistConfig edited
      exact ⟨congrArg (Outcome.map _) outcome, logs, after⟩

/-- Locked writes to both stores are alike. -/
theorem writeWithLock (beside : store.SameBeside location other) (command : Command Config)
    (base : Option (Snapshot Config)) :
    (store.writeWithLock command base).Alike (SameBeside location)
      (other.writeWithLock command base) := by
  have based : ∀ snapshot : Snapshot Config,
      (store.writeWithLock command (some snapshot)).Alike (SameBeside location)
        (other.writeWithLock command (some snapshot)) := by
    intro snapshot
    rw [lock_on_snapshot, lock_on_snapshot]
    cases command.expected with
    | none => exact beside.applyTo command snapshot
    | some expected =>
      simp only
      split
      · exact beside.applyTo command snapshot
      · exact ⟨rfl, rfl, beside⟩
  cases base with
  | some snapshot => exact based snapshot
  | none =>
    rw [lock_on_nothing, lock_on_nothing, beside.readText]
    cases store.readText with
    | error error => exact ⟨rfl, rfl, beside⟩
    | ok text =>
      simp only [beside.parse]
      cases store.parse text with
      | failed error => exact ⟨rfl, rfl, beside⟩
      | panicked message => exact ⟨rfl, rfl, beside⟩
      | ok snapshot => exact based snapshot

/-- Loads of both stores are alike. -/
theorem load (beside : store.SameBeside location other) :
    store.load.Alike (SameBeside location) other.load := by
  unfold FileStore.load
  rw [beside.readText]
  cases store.readText with
  | error error => exact ⟨rfl, rfl, beside.forgetting⟩
  | ok text =>
    simp only [beside.remembered, beside.parse, pathField, beside.path]
    split
    · exact ⟨rfl, rfl, beside⟩
    · cases store.parse text with
      | failed error => exact ⟨rfl, rfl, beside.forgetting⟩
      | panicked message => exact ⟨rfl, rfl, beside⟩
      | ok snapshot => exact ⟨rfl, rfl, beside.remembering _⟩

end SameBeside

end FileStore

/-- No call of the file store tells whether there is another second file. -/
theorem file_store_bisimulation (location : Location) :
    fileStore.Bisimulation (FileStore.SameBeside location) where
  load beside := beside.load
  write content migrate beside := beside.write content migrate
  lock command base beside := beside.writeWithLock command base
  location beside := beside.place

end LastGood
