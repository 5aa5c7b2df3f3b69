import Mathlib.Data.List.Forall2
import LastGood.Proofs.Store.Answer
import LastGood.Proofs.Store.Memory

/-!
# File stores in two environments

Of all that a file store does, one thing depends on the environment: the runtime form of a
snapshot. What is edited, what is written and what is remembered come from the text of the
file and from commands that are run on the editable form.

So a call that is made in two environments ends alike, and leaves the same file, as long as
each text that it reads for the server is read to the same end in both: with success, with an
error, or in a crash. The texts that a call reads so are made explicit. They are all that one
has to know about.
-/

namespace LastGood

variable {α β : Type}

/-- Two calls ended in one way: both with a value, both with an error, or both in a panic.
Which value, error or message it was does not matter. -/
inductive Outcome.SameEnd : Outcome α → Outcome β → Prop where
  /-- Both returned a value. -/
  | ok (value : α) (other : β) : SameEnd (.ok value) (.ok other)
  /-- Both returned an error. -/
  | failed (error other : ConfigError) : SameEnd (.failed error) (.failed other)
  /-- Both panicked. -/
  | panicked (message other : String) : SameEnd (.panicked message) (.panicked other)

/-- A text of which a configuration can be edited is read for the server in two environments,
and both readings end in one way. A text of which none can be edited is not read for the
server at all. -/
def Config.ReadAlike (environment other : Environment) (text : String) : Prop :=
  ∀ editable : Config, Config.ofYaml text = .ok editable →
    (FileStore.outcomeOf (Config.runtimeOfYaml environment text)).SameEnd
      (FileStore.outcomeOf (Config.runtimeOfYaml other text))

/-- Two errors of one kind, and the same ones unless the overrides of two environments are at
fault for the two. -/
inductive ConfigError.Alike : ConfigError → ConfigError → Prop where
  /-- They are the same. -/
  | same (error : ConfigError) : Alike error error
  /-- A text of which a configuration can be edited was read in two environments. -/
  | overrides {text : String} {editable : Config} {environment environment' : Environment}
      {detail detail' : String} (edited : Config.ofYaml text = .ok editable)
      (refused : FileStore.outcomeOf (Config.runtimeOfYaml environment text) =
        .failed (.parse detail))
      (refused' : FileStore.outcomeOf (Config.runtimeOfYaml environment' text) =
        .failed (.parse detail')) :
      Alike (.parse detail) (.parse detail')
  /-- They are the errors of empty caches whose last loads failed with such errors. -/
  | after {cause other : ConfigError} (causes : Alike cause other) :
      Alike (.notLoadedAfter cause) (.notLoadedAfter other)

/-- Two calls ended in one way, with related values or with the same error but for what it
says of overrides. -/
inductive Outcome.Alike (related : α → β → Prop) : Outcome α → Outcome β → Prop where
  /-- Both returned a value. -/
  | ok {value : α} {other : β} (values : related value other) :
      Alike related (.ok value) (.ok other)
  /-- Both returned an error. -/
  | failed {error other : ConfigError} (errors : error.Alike other) :
      Alike related (.failed error) (.failed other)
  /-- Both panicked. -/
  | panicked (message other : String) : Alike related (.panicked message) (.panicked other)

/-- Outcomes that are alike still are when their values are replaced by related ones. -/
theorem Outcome.Alike.map {γ δ : Type} {related : α → β → Prop} {related' : γ → δ → Prop}
    {f : α → γ} {g : β → δ} {outcome : Outcome α} {other : Outcome β}
    (alike : outcome.Alike related other)
    (keeps : ∀ value other, related value other → related' (f value) (g other)) :
    (outcome.map f).Alike related' (other.map g) := by
  cases alike with
  | ok values => exact .ok (keeps _ _ values)
  | failed errors => exact .failed errors
  | panicked message other => exact .panicked message other

/-- Calls that ended alike and go on alike end alike. -/
theorem Outcome.Alike.andThen {γ δ : Type} {related : α → β → Prop} {related' : γ → δ → Prop}
    {outcome : Outcome α} {other : Outcome β} {next : α → Outcome γ} {next' : β → Outcome δ}
    (alike : outcome.Alike related other)
    (goes : ∀ value other, related value other → (next value).Alike related' (next' other)) :
    (outcome.andThen next).Alike related' (other.andThen next') := by
  cases alike with
  | ok values => exact goes _ _ values
  | failed errors => exact .failed errors
  | panicked message other => exact .panicked message other

/-- Two snapshots that are the same but for what the server runs on. -/
structure Snapshot.Alike (snapshot other : Snapshot Config) : Prop where
  /-- They are edited the same. -/
  editable : other.editable = snapshot.editable
  /-- They were made from texts of one checksum. -/
  checksum : other.checksum = snapshot.checksum

/-- Two results of locked writes that are the same but for what the server runs on. -/
structure SaveResult.Alike (result other : SaveResult Config) : Prop where
  /-- The snapshots are alike. -/
  snapshot : result.snapshot.Alike other.snapshot
  /-- The same was done. -/
  state : other.state = result.state

/-- Two answers that are the same but for what the server runs on and for what is said of
overrides. Either both are the answer of a load that skipped, or none is. -/
inductive StoreAnswer.Alike : StoreAnswer Config → StoreAnswer Config → Prop where
  /-- The ends of two loads. -/
  | loaded {outcome other : Outcome (Option (Snapshot Config))}
      (ends : outcome.Alike (Option.Rel Snapshot.Alike) other) :
      Alike (.loaded outcome) (.loaded other)
  /-- The ends of two writes. -/
  | written {outcome other : Outcome (Snapshot Config)} (ends : outcome.Alike Snapshot.Alike other) :
      Alike (.written outcome) (.written other)
  /-- The ends of two locked writes. -/
  | locked {outcome other : Outcome (SaveResult Config)}
      (ends : outcome.Alike SaveResult.Alike other) : Alike (.locked outcome) (.locked other)

namespace FileStore

/-- The store in another environment. -/
def within (store : FileStore) (environment : Environment) : FileStore :=
  { store with machine := { store.machine with environment } }

/-- Two calls ended alike, and left stores that are the same but for the environment. -/
structure EndsAlike (related : α → α → Prop) (environment : Environment)
    (called other : Called FileStore α) : Prop where
  /-- The outcomes are alike. -/
  outcome : called.outcome.Alike related other.outcome
  /-- The stores are the same but for the environment. -/
  state : other.state = called.state.within environment

/-- A reading of settings only fails with what is wrong with them. -/
theorem outcome_of_failed {reading : Except SettingsError α} {error : ConfigError}
    (ended : outcomeOf reading = .failed error) : ∃ detail, error = .parse detail := by
  unfold outcomeOf at ended
  split at ended
  · cases ended
  · cases ended
  · exact ⟨_, (Outcome.failed.inj ended).symm⟩

/-- A text has alike snapshots in two environments if it is read alike in them. -/
theorem snapshot_of_alike {environment other : Environment} {text : String}
    (same : Config.ReadAlike environment other text) :
    (snapshotOf environment text).Alike Snapshot.Alike (snapshotOf other text) := by
  cases edited : Config.ofYaml text with
  | error fault =>
    rw [snapshot_of_malformed edited, snapshot_of_malformed edited]
    exact .failed (.same _)
  | ok editable =>
    have ends := same editable edited
    rw [snapshot_of_editable edited, snapshot_of_editable edited]
    generalize reading : outcomeOf (Config.runtimeOfYaml environment text) = runtime at ends ⊢
    generalize reading' : outcomeOf (Config.runtimeOfYaml other text) = runtime' at ends ⊢
    cases ends with
    | ok value value' => exact .ok ⟨rfl, rfl⟩
    | failed error error' =>
      obtain ⟨detail, rfl⟩ := outcome_of_failed reading
      obtain ⟨detail', rfl⟩ := outcome_of_failed reading'
      exact .failed (.overrides edited reading reading')
    | panicked message message' => exact .panicked message message'

/-- Nothing that is read from the file is read from the environment. -/
@[simp] theorem read_text_within (store : FileStore) (environment : Environment) :
    (store.within environment).readText = store.readText := rfl

/-- A text is persisted the same way in every environment. -/
theorem persist_within (store : FileStore) (environment : Environment) (text : String) :
    (store.within environment).persist text =
      ((store.persist text).1, (store.persist text).2.within environment) := by
  simp only [persist, within, temporaryPath, Machine.system_write_text, Machine.system_rename,
    Machine.writeText]
  cases store.machine.disk.write store.machine.directory (store.path.extended ".tmp")
      text.toUTF8 with
  | error fault => rfl
  | ok written =>
    simp only [Except.map, Machine.attempt, Machine.rename, Machine.withDisk]
    cases written.rename store.machine.directory (store.path.extended ".tmp") store.path <;> rfl

/-- Persisting a text that is read alike in two environments ends alike in them. -/
theorem persist_snapshot_within {store : FileStore} {environment : Environment} {text : String}
    (same : Config.ReadAlike store.machine.environment environment text) :
    EndsAlike Snapshot.Alike environment (store.persistSnapshot text)
      ((store.within environment).persistSnapshot text) := by
  have alike : (store.parse text).Alike Snapshot.Alike ((store.within environment).parse text) :=
    snapshot_of_alike same
  unfold persistSnapshot
  rw [persist_within]
  generalize store.parse text = parsed at alike ⊢
  generalize (store.within environment).parse text = parsed' at alike ⊢
  cases alike with
  | failed errors => exact ⟨.failed errors, rfl⟩
  | panicked message message' => exact ⟨.panicked message message', rfl⟩
  | ok snapshots =>
    simp only
    obtain ⟨ended, after⟩ := store.persist text
    cases ended with
    | error error => exact ⟨.failed (.same error), rfl⟩
    | ok done =>
      refine ⟨.ok snapshots, ?_⟩
      simp only [snapshots.checksum]
      rfl

/-- The texts that a load reads for the server. -/
def loadTexts (store : FileStore) : List String :=
  match store.readText with
  | .error _ => []
  | .ok text => if store.remembered = some (checksum text) then [] else [text]

/-- The texts that a write reads for the server. -/
def writeTexts (content : String) (migrate : Bool) : List String :=
  match Config.ofYaml content with
  | .error _ => []
  | .ok editable =>
      if migrate && editable.schemaVersion < currentSchemaVersion then
        [{ editable with schemaVersion := currentSchemaVersion }.toYaml]
      else [content]

/-- The texts that persisting a configuration reads for the server. -/
def configTexts (config : Config) : List String := config.written.toOption.toList

/-- The texts that running a command reads for the server. -/
def applyTexts (command : Command Config) (base : Config) : List String :=
  match command.update base with
  | (edited, .accepted) => if edited.sameAs base then [] else configTexts edited
  | _ => []

/-- The texts that a locked write on a snapshot reads for the server. -/
def lockTextsOn (command : Command Config) (base : Snapshot Config) : List String :=
  if command.expected.all (· == base.checksum) then applyTexts command base.editable else []

/-- The texts that a locked write reads for the server. -/
def lockTexts (store : FileStore) (command : Command Config) (base : Option (Snapshot Config)) :
    List String :=
  match base, store.readText with
  | some snapshot, _ => lockTextsOn command snapshot
  | none, .error _ => []
  | none, .ok text =>
      text :: (match store.parse text with
        | .ok snapshot => lockTextsOn command snapshot
        | _ => [])

/-- A load ends alike in two environments, and reads the same texts for the server. -/
theorem load_within {store : FileStore} {environment : Environment}
    (same : ∀ text ∈ store.loadTexts,
      Config.ReadAlike store.machine.environment environment text) :
    EndsAlike (Option.Rel Snapshot.Alike) environment store.load (store.within environment).load ∧
      (store.within environment).loadTexts = store.loadTexts := by
  refine ⟨?_, rfl⟩
  unfold loadTexts at same
  unfold load
  rw [read_text_within]
  cases held : store.readText with
  | error error => exact ⟨.failed (.same error), rfl⟩
  | ok text =>
    simp only [held] at same
    have remembered : (store.within environment).remembered = store.remembered := rfl
    simp only [remembered]
    split
    case isTrue known => exact ⟨.ok .none, rfl⟩
    case isFalse unknown =>
      have alike : (store.parse text).Alike Snapshot.Alike
          ((store.within environment).parse text) :=
        snapshot_of_alike (same text (by simp [unknown]))
      generalize store.parse text = parsed at alike ⊢
      generalize (store.within environment).parse text = parsed' at alike ⊢
      cases alike with
      | ok snapshots => exact ⟨.ok (.some snapshots), rfl⟩
      | failed errors => exact ⟨.failed errors, rfl⟩
      | panicked message message' => exact ⟨.panicked message message', rfl⟩

/-- Persisting a configuration ends alike in two environments. -/
theorem persist_config_within {store : FileStore} {environment : Environment} {config : Config}
    (same : ∀ text ∈ configTexts config,
      Config.ReadAlike store.machine.environment environment text) :
    EndsAlike Snapshot.Alike environment (store.persistConfig config)
      ((store.within environment).persistConfig config) := by
  unfold configTexts at same
  unfold persistConfig
  cases written : config.written with
  | error reason => exact ⟨.failed (.same _), rfl⟩
  | ok text => exact persist_snapshot_within (same text (by simp [written, Except.toOption]))

/-- A write ends alike in two environments. -/
theorem write_within {store : FileStore} {environment : Environment} {content : String}
    {migrate : Bool} (same : ∀ text ∈ writeTexts content migrate,
      Config.ReadAlike store.machine.environment environment text) :
    EndsAlike Snapshot.Alike environment (store.write content migrate)
      ((store.within environment).write content migrate) := by
  unfold writeTexts at same
  unfold write
  cases edited : Config.ofYaml content with
  | error fault => exact ⟨.failed (.same _), rfl⟩
  | ok editable =>
    simp only [edited] at same ⊢
    split
    case isTrue old =>
      simp only [old, if_true] at same
      have written : ({ editable with schemaVersion := currentSchemaVersion } : Config).isText :=
        show editable.isText from Config.is_text_of_yaml edited
      rw [persist_config_of_text written, persist_config_of_text written]
      have ended := persist_snapshot_within (same _ (List.mem_singleton.mpr rfl))
      exact ⟨ended.outcome, ended.state⟩
    case isFalse current =>
      simp only [current] at same
      exact persist_snapshot_within (same _ (List.mem_singleton.mpr rfl))

/-- A command ends alike on alike snapshots in two environments. -/
theorem apply_within {store : FileStore} {environment : Environment} {command : Command Config}
    {base other : Snapshot Config} (bases : base.Alike other)
    (same : ∀ text ∈ applyTexts command base.editable,
      Config.ReadAlike store.machine.environment environment text) :
    EndsAlike SaveResult.Alike environment (store.applyTo command base)
      ((store.within environment).applyTo command other) := by
  unfold applyTexts at same
  unfold applyTo
  rw [bases.editable]
  generalize command.update base.editable = updated at same ⊢
  obtain ⟨edited, verdict⟩ := updated
  cases verdict with
  | refused error => exact ⟨.failed (.same error), rfl⟩
  | panicked message => exact ⟨.panicked message message, rfl⟩
  | accepted =>
    simp only at same ⊢
    split
    case isTrue unedited =>
      refine ⟨.ok ⟨bases, rfl⟩, ?_⟩
      rw [bases.checksum]
      rfl
    case isFalse edits =>
      simp only [edits] at same
      have ended := persist_config_within same
      refine ⟨ended.outcome.map ?_, ended.state⟩
      intro snapshot other snapshots
      exact ⟨snapshots, rfl⟩

/-- A locked write on a snapshot ends alike on alike snapshots in two environments. -/
theorem lock_on_within {store : FileStore} {environment : Environment}
    {command : Command Config} {base other : Snapshot Config} (bases : base.Alike other)
    (same : ∀ text ∈ lockTextsOn command base,
      Config.ReadAlike store.machine.environment environment text) :
    EndsAlike SaveResult.Alike environment (store.writeWithLock command (some base))
      ((store.within environment).writeWithLock command (some other)) := by
  rw [lock_on_snapshot, lock_on_snapshot, bases.checksum]
  unfold lockTextsOn at same
  cases expects : command.expected with
  | none =>
    simp only [expects] at same ⊢
    exact apply_within bases same
  | some expected =>
    simp only
    split
    case isTrue current =>
      simp only [expects, current] at same
      exact apply_within bases (by simpa using same)
    case isFalse stale => exact ⟨.failed (.same _), rfl⟩

/-- Alike snapshots are locked with the same texts. -/
theorem lock_texts_on_alike (command : Command Config) {base other : Snapshot Config}
    (bases : base.Alike other) : lockTextsOn command other = lockTextsOn command base := by
  simp only [lockTextsOn, bases.editable, bases.checksum]

/-- A locked write ends alike in two environments, and reads the same texts for the server. -/
theorem lock_within {store : FileStore} {environment : Environment} {command : Command Config}
    {base other : Option (Snapshot Config)} (bases : Option.Rel Snapshot.Alike base other)
    (same : ∀ text ∈ store.lockTexts command base,
      Config.ReadAlike store.machine.environment environment text) :
    EndsAlike SaveResult.Alike environment (store.writeWithLock command base)
        ((store.within environment).writeWithLock command other) ∧
      (store.within environment).lockTexts command other = store.lockTexts command base := by
  cases bases with
  | some snapshots => exact ⟨lock_on_within snapshots same, lock_texts_on_alike command snapshots⟩
  | none =>
    unfold lockTexts at same ⊢
    rw [lock_on_nothing, lock_on_nothing, read_text_within]
    cases held : store.readText with
    | error error => exact ⟨⟨.failed (.same error), rfl⟩, rfl⟩
    | ok text =>
      simp only [held] at same
      have alike : (store.parse text).Alike Snapshot.Alike
          ((store.within environment).parse text) := snapshot_of_alike (same text (by simp))
      simp only
      generalize store.parse text = parsed at alike same ⊢
      generalize (store.within environment).parse text = parsed' at alike ⊢
      cases alike with
      | failed errors => exact ⟨⟨.failed errors, rfl⟩, rfl⟩
      | panicked message message' => exact ⟨⟨.panicked message message', rfl⟩, rfl⟩
      | ok snapshots =>
        refine ⟨lock_on_within snapshots fun found member => same found (by simp [member]), ?_⟩
        simp only [lock_texts_on_alike command snapshots]

end FileStore

end LastGood
