import LastGood.Proofs.Store.Leftover
import LastGood.Proofs.Store.Memory

/-!
# What comes of reading a text

A text is read for editing first and for the server then. It has a snapshot if both readings
succeed. If one does not, that one alone says what is wrong, except that a variable of the
environment can make the second reading crash. The cases exclude each other, and one of them is
there.

A locked write without a base starts from the snapshot of what the file holds, and is then one that
has this snapshot as its base.
-/

namespace LastGood

/-- What is wrong with a text: no configuration can be edited, or the one that can be does not
serve. -/
inductive Faulty (environment : Environment) (text : String) : ConfigError → Prop where
  /-- It cannot be read for editing. -/
  | editable {fault : SettingsError} (refused : Config.ofYaml text = .error fault) :
      Faulty environment text (.parse fault.message)
  /-- It cannot be read for the server. -/
  | runtime {editable : Config} {fault : SettingsError} (edited : Config.ofYaml text = .ok editable)
      (refused : Config.runtimeOfYaml environment text = .error fault)
      (uncrashed : ∀ message, fault ≠ .crash message) :
      Faulty environment text (.parse fault.message)

/-- A text that can be edited, and crashes when it is read for the server. -/
structure Crashes (environment : Environment) (text message : String) : Prop where
  /-- It can be read for editing. -/
  editable : ∃ editable, Config.ofYaml text = .ok editable
  /-- Reading it for the server crashes. -/
  runtime : Config.runtimeOfYaml environment text = .error (.crash message)

/-- Both readings of a text and its checksum make up a snapshot. -/
structure Views (environment : Environment) (text : String) (snapshot : Snapshot Config) :
    Prop where
  /-- What is edited is what the text writes. -/
  editable : Config.ofYaml text = .ok snapshot.editable
  /-- What the server runs on is what the text writes under the environment. -/
  runtime : Config.runtimeOfYaml environment text = .ok snapshot.runtime
  /-- The checksum is that of the text. -/
  checksum : snapshot.checksum = LastGood.checksum text

namespace FileStore

section

variable {μ : Type} [System μ] {store : FileStore μ} {text : String}

/-- A text has the snapshot that both readings make up. -/
theorem parse_ok_iff {snapshot : Snapshot Config} :
    store.parse text = .ok snapshot ↔ Views store.environment text snapshot :=
  (snapshot_of_ok_iff store.environment text snapshot).trans
    ⟨fun ⟨editable, runtime, sum⟩ => ⟨editable, runtime, sum⟩,
      fun views => ⟨views.editable, views.runtime, views.checksum⟩⟩

/-- Reading a text fails with what is wrong with it. -/
theorem parse_failed_iff {error : ConfigError} :
    store.parse text = .failed error ↔ Faulty store.environment text error := by
  unfold parse
  constructor
  · intro failed
    cases edited : Config.ofYaml text with
    | error fault =>
      rw [snapshot_of_malformed edited] at failed
      cases failed
      exact .editable edited
    | ok editable =>
      rw [snapshot_of_editable edited] at failed
      cases ran : Config.runtimeOfYaml store.environment text with
      | ok runtime =>
        rw [ran] at failed
        cases failed
      | error fault =>
        have uncrashed : ∀ message, fault ≠ .crash message := by
          rintro message rfl
          rw [ran] at failed
          cases failed
        rw [ran, outcome_of_error uncrashed] at failed
        cases failed
        exact .runtime edited ran uncrashed
  · rintro (refused | ⟨edited, refused, uncrashed⟩)
    · exact snapshot_of_malformed refused _
    · rw [snapshot_of_editable edited, refused, outcome_of_error uncrashed]
      rfl

/-- Reading a text panics when it crashes. -/
theorem parse_panicked_iff {message : String} :
    store.parse text = .panicked message ↔ Crashes store.environment text message := by
  unfold parse
  constructor
  · intro panicked
    cases edited : Config.ofYaml text with
    | error fault =>
      rw [snapshot_of_malformed edited] at panicked
      cases panicked
    | ok editable =>
      rw [snapshot_of_editable edited] at panicked
      refine ⟨⟨editable, edited⟩, ?_⟩
      cases ran : Config.runtimeOfYaml store.environment text with
      | ok runtime =>
        rw [ran] at panicked
        cases panicked
      | error fault =>
        rw [ran] at panicked
        cases fault with
        | crash other =>
          cases panicked
          rfl
        | _ => cases panicked
  · rintro ⟨⟨editable, edited⟩, crashed⟩
    rw [snapshot_of_editable edited, crashed]
    rfl

/-- A locked write starts from its base, or from the snapshot of what the file holds if it has
none. -/
def StartsFrom (store : FileStore μ) (base : Option (Snapshot Config)) (start : Snapshot Config) :
    Prop :=
  base = some start ∨
    base = none ∧ ∃ text, store.readText = .ok text ∧ Views store.environment text start

variable {base : Option (Snapshot Config)} {start : Snapshot Config}

/-- A locked write is one on what it starts from. -/
theorem lock_of_start (starts : store.StartsFrom base start) (command : Command Config) :
    store.writeWithLock command base = store.writeWithLock command (some start) := by
  rcases starts with rfl | ⟨rfl, text, held, views⟩
  · rfl
  · have parsed : store.parse text = .ok start := parse_ok_iff.mpr views
    rw [lock_on_nothing]
    simp only [held, parsed]

/-- A command that expects another checksum is not run. -/
theorem lock_of_stale {command : Command Config} {expected : String}
    (starts : store.StartsFrom base start) (expects : command.expected = some expected)
    (other : expected ≠ start.checksum) :
    store.writeWithLock command base =
      ⟨.failed (.conflict expected start.checksum), store, []⟩ := by
  rw [lock_of_start starts, lock_on_snapshot]
  simp only [expects, other, if_false]

/-- A command that does not is run on the start. -/
theorem lock_of_admitted {command : Command Config} (starts : store.StartsFrom base start)
    (admitted : ∀ expected, command.expected = some expected → expected = start.checksum) :
    store.writeWithLock command base = store.applyTo command start := by
  rw [lock_of_start starts, lock_on_snapshot]
  cases expects : command.expected with
  | none => rfl
  | some expected => simp only [admitted expected expects, if_true]

end

variable {store : FileStore}

/-- Reading the file gives a snapshot when it holds a text that has one. -/
theorem reading_ok_iff {snapshot : Snapshot Config} :
    store.reading = .ok snapshot ↔
      ∃ text, store.readText = .ok text ∧ Views store.machine.environment text snapshot := by
  unfold reading
  cases store.readText with
  | error error => simp
  | ok text => simp [parse_ok_iff]

/-- Reading the file panics when it holds a text that crashes. -/
theorem reading_panicked_iff {message : String} :
    store.reading = .panicked message ↔
      ∃ text, store.readText = .ok text ∧ Crashes store.machine.environment text message := by
  unfold reading
  cases store.readText with
  | error error => simp
  | ok text => simp [parse_panicked_iff]

/-- A call that does not succeed leaves the path. -/
theorem Leaves.path {before after : FileStore} (left : before.Leaves after) :
    after.path = before.path := by
  rcases left with rfl | ⟨location, _, beside⟩
  · rfl
  · exact beside.path.symm

/-- What a call leaves that does not succeed has at the path what was there. -/
theorem Leaves.lookup {before after : FileStore} (left : before.Leaves after) :
    after.machine.disk.lookup after.machine.directory after.path =
      before.machine.disk.lookup before.machine.directory before.path := by
  rcases left with rfl | ⟨location, _, beside⟩
  · rfl
  · exact beside.lookup.symm

end FileStore

end LastGood
