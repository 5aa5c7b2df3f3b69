import LastGood.Proofs.Session.Drafts
import LastGood.Proofs.Session.Shortcut
import LastGood.Proofs.Store.Reading

/-!
# How locked writes are decided

A locked write of the file store goes through a fixed order of questions, and the first one that
is answered badly decides. Without a base the file is read. Then the checksum that the command
expects is compared with that of the base, the command is run, its edit is compared with what it
started from, the edit is written as a text, that text is read back, and it is put in place. Only
the last step touches the file.

This is so on every system. What a system leaves behind where the text is not put in place is a
matter of that system; and so is what is read afterwards where it is, except that on a faithful
system it is the text.

Panics have their places in that order, too: that of the command where it is run, and that of a
variable of the environment wherever a text is read for the server.
-/

namespace LastGood.FileStore

variable {μ : Type} [System μ]

/-- A locked write runs its command: the command does not expect another checksum than that of the
start, and this is what it makes of the configuration that is edited there. -/
structure Runs (store : FileStore μ) (command : Command Config) (base : Option (Snapshot Config))
    (start : Snapshot Config) (edited : Config) (verdict : Verdict) : Prop where
  /-- Where it starts from. -/
  starts : store.StartsFrom base start
  /-- The checksum that is expected is that of the start. -/
  admitted : ∀ expected, command.expected = some expected → expected = start.checksum
  /-- What the command does. -/
  update : command.update start.editable = (edited, verdict)

/-- A locked write has something to save: the command was accepted, and what it made is another
configuration. -/
structure Saves (store : FileStore μ) (command : Command Config) (base : Option (Snapshot Config))
    (start : Snapshot Config) (edited : Config) : Prop extends
    Runs store command base start edited .accepted where
  /-- The configuration is another one. -/
  changed : edited.sameAs start.editable = false

/-- A locked write has a text to put in place: what the command made can be written, and the text
has a snapshot. -/
structure Commits (store : FileStore μ) (command : Command Config)
    (base : Option (Snapshot Config)) (start : Snapshot Config) (edited : Config)
    (snapshot : Snapshot Config) : Prop extends Saves store command base start edited where
  /-- The configuration can be written. -/
  written : edited.isText
  /-- The text is read back, for editing and for the server. -/
  views : Views store.environment edited.toYaml snapshot

/-- How a locked write is decided, in the order of the questions. -/
inductive LockDecided (store : FileStore μ) (command : Command Config)
    (base : Option (Snapshot Config)) : Outcome (SaveResult Config) → FileStore μ → Prop where
  /-- The file cannot be read. -/
  | unread {fault : DiskFault} (fresh : base = none)
      (refused : System.readText store.machine store.path = .error fault) :
      LockDecided store command base (.failed (.io store.path fault.text)) store
  /-- What the file holds is faulty. -/
  | faulty {text : String} {error : ConfigError} (fresh : base = none)
      (held : store.readText = .ok text) (wrong : Faulty store.environment text error) :
      LockDecided store command base (.failed error) store
  /-- Reading what the file holds crashes. -/
  | crashed {text message : String} (fresh : base = none) (held : store.readText = .ok text)
      (crashes : Crashes store.environment text message) :
      LockDecided store command base (.panicked message) store
  /-- The command expects another checksum. -/
  | stale {start : Snapshot Config} {expected : String} (starts : store.StartsFrom base start)
      (expects : command.expected = some expected) (other : expected ≠ start.checksum) :
      LockDecided store command base (.failed (.conflict expected start.checksum)) store
  /-- The command refuses. -/
  | refused {start : Snapshot Config} {edited : Config} {error : ConfigError}
      (runs : store.Runs command base start edited (.refused error)) :
      LockDecided store command base (.failed error) store
  /-- The command panics. -/
  | panicked {start : Snapshot Config} {edited : Config} {message : String}
      (runs : store.Runs command base start edited (.panicked message)) :
      LockDecided store command base (.panicked message) store
  /-- The command leaves the configuration the same. -/
  | unchanged {start : Snapshot Config} {edited : Config}
      (runs : store.Runs command base start edited .accepted)
      (same : edited.sameAs start.editable = true) :
      LockDecided store command base (.ok ⟨start, .unchanged⟩) (store.remembering start.checksum)
  /-- The edited configuration cannot be written. -/
  | foreign {start : Snapshot Config} {edited : Config}
      (saves : store.Saves command base start edited) (unwritable : edited.isText = false) :
      LockDecided store command base (.failed (.serialize Directory.foreignText)) store
  /-- The text of the edited configuration is faulty. -/
  | faultyEdit {start : Snapshot Config} {edited : Config} {error : ConfigError}
      (saves : store.Saves command base start edited) (written : edited.isText)
      (wrong : Faulty store.environment edited.toYaml error) :
      LockDecided store command base (.failed error) store
  /-- Reading the text of the edited configuration crashes. -/
  | crashedEdit {start : Snapshot Config} {edited : Config} {message : String}
      (saves : store.Saves command base start edited) (written : edited.isText)
      (crashes : Crashes store.environment edited.toYaml message) :
      LockDecided store command base (.panicked message) store
  /-- The text cannot be written beside the file. -/
  | unwritten {start snapshot : Snapshot Config} {edited : Config} {fault : DiskFault} {left : μ}
      (commits : store.Commits command base start edited snapshot)
      (writing : System.writeText store.machine store.temporaryPath edited.toYaml =
        (.error fault, left)) :
      LockDecided store command base (.failed (.io store.temporaryPath fault.text))
        { store with machine := left }
  /-- What was written beside the file cannot be moved to it. -/
  | unmoved {start snapshot : Snapshot Config} {edited : Config} {written left : μ}
      {fault : DiskFault} (commits : store.Commits command base start edited snapshot)
      (writing : System.writeText store.machine store.temporaryPath edited.toYaml =
        (.ok (), written))
      (moving : System.rename written store.temporaryPath store.path = (.error fault, left)) :
      LockDecided store command base (.failed (.io store.path fault.text))
        { store with machine := left }
  /-- The text was put in place. -/
  | updated {start snapshot : Snapshot Config} {edited : Config} {written renamed : μ}
      (commits : store.Commits command base start edited snapshot)
      (writing : System.writeText store.machine store.temporaryPath edited.toYaml =
        (.ok (), written))
      (moving : System.rename written store.temporaryPath store.path = (.ok (), renamed)) :
      LockDecided store command base (.ok ⟨snapshot, .updated⟩)
        ({ store with machine := renamed }.remembering snapshot.checksum)

variable {store : FileStore μ} {command : Command Config} {base : Option (Snapshot Config)}
  {start : Snapshot Config}

/-- Something to save is persisted and shown as an update. -/
theorem Saves.lock {edited : Config} (saves : store.Saves command base start edited) :
    store.writeWithLock command base =
      { store.persistConfig edited with
        outcome := (store.persistConfig edited).outcome.map fun snapshot =>
          ⟨snapshot, .updated⟩ } := by
  rw [lock_of_admitted saves.starts saves.admitted]
  simp only [applyTo, saves.update, saves.changed, Bool.false_eq_true, if_false]

/-- A text that has a snapshot is put in place, and the write ends as that does. -/
theorem Commits.ended {edited : Config} {snapshot : Snapshot Config}
    (commits : store.Commits command base start edited snapshot)
    {ended : Except ConfigError Unit} {after : FileStore μ}
    (persisted : store.persist edited.toYaml = (ended, after)) :
    (∀ error, ended = .error error →
      (store.writeWithLock command base).outcome = .failed error ∧
        (store.writeWithLock command base).state = after) ∧
    (ended = .ok () →
      (store.writeWithLock command base).outcome = .ok ⟨snapshot, .updated⟩ ∧
        (store.writeWithLock command base).state = after.remembering snapshot.checksum) := by
  have parsed : store.parse edited.toYaml = .ok snapshot := parse_ok_iff.mpr commits.views
  rw [commits.lock, persist_config_of_text commits.written]
  unfold persistSnapshot
  rw [parsed, persisted]
  constructor
  · rintro error rfl
    exact ⟨rfl, rfl⟩
  · rintro rfl
    exact ⟨rfl, rfl⟩

/-- What is decided is how the call ends. -/
theorem LockDecided.called {outcome : Outcome (SaveResult Config)} {after : FileStore μ}
    (decided : LockDecided store command base outcome after) :
    outcome = (store.writeWithLock command base).outcome ∧
      after = (store.writeWithLock command base).state := by
  cases decided with
  | @unread fault fresh refused =>
    have unread : store.readText = .error (.io store.path fault.text) := by
      rw [readText, refused]
      rfl
    rw [fresh, lock_on_nothing]
    simp only [unread, and_self]
  | @faulty text error fresh held wrong =>
    have parsed : store.parse text = .failed error := parse_failed_iff.mpr wrong
    rw [fresh, lock_on_nothing]
    simp only [held, parsed, and_self]
  | @crashed text message fresh held crashes =>
    have parsed : store.parse text = .panicked message := parse_panicked_iff.mpr crashes
    rw [fresh, lock_on_nothing]
    simp only [held, parsed, and_self]
  | stale starts expects other =>
    rw [lock_of_stale starts expects other]
    exact ⟨rfl, rfl⟩
  | refused runs =>
    rw [lock_of_admitted runs.starts runs.admitted]
    simp only [applyTo, runs.update, and_self]
  | panicked runs =>
    rw [lock_of_admitted runs.starts runs.admitted]
    simp only [applyTo, runs.update, and_self]
  | unchanged runs same =>
    rw [lock_of_admitted runs.starts runs.admitted]
    simp only [applyTo, runs.update, same, if_true, and_self]
  | foreign saves unwritable =>
    rw [saves.lock, persist_config_of_foreign unwritable]
    exact ⟨rfl, rfl⟩
  | @faultyEdit start edited error saves written wrong =>
    have parsed : store.parse edited.toYaml = .failed error := parse_failed_iff.mpr wrong
    rw [saves.lock, persist_config_of_text written]
    unfold persistSnapshot
    rw [parsed]
    exact ⟨rfl, rfl⟩
  | @crashedEdit start edited message saves written crashes =>
    have parsed : store.parse edited.toYaml = .panicked message :=
      parse_panicked_iff.mpr crashes
    rw [saves.lock, persist_config_of_text written]
    unfold persistSnapshot
    rw [parsed]
    exact ⟨rfl, rfl⟩
  | unwritten commits writing =>
    obtain ⟨outcome, state⟩ := (commits.ended (persist_of_unwritten writing)).1 _ rfl
    exact ⟨outcome.symm, state.symm⟩
  | unmoved commits writing moving =>
    obtain ⟨outcome, state⟩ := (commits.ended (persist_of_unmoved writing moving)).1 _ rfl
    exact ⟨outcome.symm, state.symm⟩
  | updated commits writing moving =>
    obtain ⟨outcome, state⟩ := (commits.ended (persist_of_placed writing moving)).2 rfl
    exact ⟨outcome.symm, state.symm⟩

/-- Saving is decided by writing the configuration and reading the text back, and then by putting it
in place. -/
theorem Saves.decided {edited : Config} (saves : store.Saves command base start edited) :
    ∃ outcome after, LockDecided store command base outcome after := by
  cases written : edited.isText with
  | false => exact ⟨_, _, .foreign saves written⟩
  | true =>
    cases parsed : store.parse edited.toYaml with
    | failed error => exact ⟨_, _, .faultyEdit saves written (parse_failed_iff.mp parsed)⟩
    | panicked message => exact ⟨_, _, .crashedEdit saves written (parse_panicked_iff.mp parsed)⟩
    | ok snapshot =>
      have commits : store.Commits command base start edited snapshot :=
        ⟨saves, written, parse_ok_iff.mp parsed⟩
      have replaced := store.replaces edited.toYaml
      generalize store.persist edited.toYaml = result at replaced
      cases replaced with
      | unwritten writing => exact ⟨_, _, .unwritten commits writing⟩
      | unmoved writing moving => exact ⟨_, _, .unmoved commits writing moving⟩
      | placed writing moving => exact ⟨_, _, .updated commits writing moving⟩

/-- From a start, the checksum decides, then the command, then its edit. -/
theorem StartsFrom.decided (starts : store.StartsFrom base start) (command : Command Config) :
    ∃ outcome after, LockDecided store command base outcome after := by
  by_cases admitted : ∀ expected, command.expected = some expected → expected = start.checksum
  case neg =>
    simp only [not_forall] at admitted
    obtain ⟨expected, expects, other⟩ := admitted
    exact ⟨_, _, .stale starts expects other⟩
  case pos =>
    cases update : command.update start.editable with
    | mk edited verdict =>
      have runs : store.Runs command base start edited verdict := ⟨starts, admitted, update⟩
      cases verdict with
      | refused error => exact ⟨_, _, .refused runs⟩
      | panicked message => exact ⟨_, _, .panicked runs⟩
      | accepted =>
        cases same : edited.sameAs start.editable with
        | true => exact ⟨_, _, .unchanged runs same⟩
        | false => exact Saves.decided ⟨runs, same⟩

/-- Every locked write is decided in one of these ways. -/
theorem lock_decided (store : FileStore μ) (command : Command Config)
    (base : Option (Snapshot Config)) :
    ∃ outcome after, LockDecided store command base outcome after := by
  cases base with
  | some start => exact StartsFrom.decided (.inl rfl) command
  | none =>
    cases reading : System.readText store.machine store.path with
    | error fault => exact ⟨_, _, .unread rfl reading⟩
    | ok text =>
      have held : store.readText = .ok text := by rw [readText, reading]; rfl
      cases parsed : store.parse text with
      | failed error => exact ⟨_, _, .faulty rfl held (parse_failed_iff.mp parsed)⟩
      | panicked message => exact ⟨_, _, .crashed rfl held (parse_panicked_iff.mp parsed)⟩
      | ok start =>
        exact StartsFrom.decided (.inr ⟨rfl, text, held, parse_ok_iff.mp parsed⟩)
          command

/-- How the call ends is what is decided. -/
theorem lock_called (store : FileStore μ) (command : Command Config)
    (base : Option (Snapshot Config)) :
    LockDecided store command base (store.writeWithLock command base).outcome
      (store.writeWithLock command base).state := by
  obtain ⟨outcome, after, decided⟩ := lock_decided store command base
  obtain ⟨rfl, rfl⟩ := decided.called
  exact decided

/-- A locked write that has no text to put in place leaves the machine alone. -/
theorem LockDecided.machine {outcome : Outcome (SaveResult Config)} {after : FileStore μ}
    (decided : LockDecided store command base outcome after)
    (idle : ∀ start edited snapshot, ¬ store.Commits command base start edited snapshot) :
    after.machine = store.machine := by
  cases decided with
  | unwritten commits => exact absurd commits (idle _ _ _)
  | unmoved commits => exact absurd commits (idle _ _ _)
  | updated commits => exact absurd commits (idle _ _ _)
  | _ => rfl

/-- A text that was put in place on a faithful system is what is read there. -/
theorem read_text_of_placed {text : String} {written renamed : μ}
    (faithful : System.Faithful store.machine store.temporaryPath store.path)
    (writing : System.writeText store.machine store.temporaryPath text = (.ok (), written))
    (moving : System.rename written store.temporaryPath store.path = (.ok (), renamed)) :
    System.readText renamed store.path = .ok text :=
  (faithful.moved _ _ _ writing moving).trans (faithful.written _ _ writing)

/-- How a locked write ends is decided as described, and in no other way, for every command, every
base, every environment, and every system whatever state it is in. When it is a conflict, the
command is not run: any other one that expects the same checksum gives the same. The machine is left
alone unless there is a text to put in place: one of another configuration than before that can be
written and has a snapshot. When nothing changed, it is left alone in any case.

After an update there was such a text, and the snapshot is made up of both readings of that text and
of its checksum. On a faithful system the text is what the file holds then. If YAML gives back the
tree that was written, what is edited there is what the command made, and so another configuration
than before. -/
theorem locked_write_decided {μ : Type} [System μ] (store : FileStore μ)
    (command : Command Config) (base : Option (Snapshot Config)) :
    let called := store.writeWithLock command base
    (∀ outcome after, LockDecided store command base outcome after ↔
      outcome = called.outcome ∧ after = called.state) ∧
    (∀ start expected, store.StartsFrom base start → command.expected = some expected →
      expected ≠ start.checksum →
      ∀ other : Command Config, other.expected = some expected →
        store.writeWithLock other base = called) ∧
    ((∀ start edited snapshot, ¬ store.Commits command base start edited snapshot) →
      called.state.machine = store.machine) ∧
    (∀ result, called.outcome = .ok result → result.state = .unchanged →
      called.state.machine = store.machine) ∧
    ∀ result, called.outcome = .ok result → result.state = .updated →
      ∃ start edited, store.Commits command base start edited result.snapshot ∧
        (System.Faithful store.machine store.temporaryPath store.path →
          called.state.readText = .ok edited.toYaml) ∧
        (edited.ReadsBack → result.snapshot.editable = edited ∧
          result.snapshot.editable.sameAs start.editable = false) := by
  intro called
  have decided : LockDecided store command base called.outcome called.state :=
    lock_called store command base
  refine ⟨?_, ?_, decided.machine, ?_, ?_⟩
  · intro outcome after
    constructor
    · exact LockDecided.called
    · rintro ⟨rfl, rfl⟩
      exact decided
  · intro start expected starts expects different other same
    rw [lock_of_stale starts same different]
    exact (lock_of_stale starts expects different).symm
  · intro result ended unchanged
    rw [ended] at decided
    generalize called.state = after at decided ⊢
    cases decided with
    | unchanged => rfl
    | updated => cases unchanged
  · intro result ended updated
    rw [ended] at decided
    generalize called.state = after at decided ⊢
    cases decided with
    | unchanged => cases updated
    | @updated start snapshot edited written renamed commits writing moving =>
      refine ⟨start, edited, commits, fun faithful => ?_, fun reads => ?_⟩
      · have held := read_text_of_placed faithful writing moving
        simp only [readText, remembering, held, map_error_ok]
      · have same : snapshot.editable = edited :=
          Except.ok.inj (commits.views.editable.symm.trans (Config.of_yaml_to_yaml reads))
        exact ⟨same, same ▸ commits.changed⟩

/-- A new store of an empty file, where reading an override crashes. -/
def ofCrashing : FileStore := { path := ⟨"config.yaml"⟩, machine := Session.crashingMachine }

/-- A system on which the name of the second file is a link to the file. -/
structure Linked where
  /-- The text of the file, as long as the link is not in its place. -/
  text? : Option String

namespace Linked

/-- Why a link that leads to itself leads nowhere. -/
def loop : DiskFault := .other "Too many levels of symbolic links (os error 40)"

instance : System Linked where
  environment _ := []
  readText linked _ := linked.text?.elim (.error loop) .ok
  writeText linked _ content := linked.text?.elim (.error loop, linked) fun _ =>
    (.ok (), ⟨some content⟩)
  rename _ _ _ := (.ok (), ⟨none⟩)
  absolute _ path := path

end Linked

/-- A new store of an empty file on that system. -/
def ofLinked : FileStore Linked := { path := ⟨"config.yaml"⟩, machine := ⟨some ""⟩ }

/-- A locked write of a file that can be read and edited has three ways out that it might not be
thought to have. Where reading an override crashes, it neither succeeds nor fails with an error.
Where the command is accepted and chooses a directory without a text, it fails all the same. Where
the second file is a link to the file, it succeeds with an update, and afterwards nothing can be
read at the path. -/
theorem locked_write_departs :
    (ofCrashing.readText = .ok "" ∧ Config.ofYaml "" = .ok {} ∧
      (∀ result,
        (ofCrashing.writeWithLock (Command.setServerPort 9000) none).outcome ≠ .ok result) ∧
      ∀ error,
        (ofCrashing.writeWithLock (Command.setServerPort 9000) none).outcome ≠ .failed error) ∧
    (ofEmptyFile.readText = .ok "" ∧ (Command.estranging.update {}).2 = .accepted ∧
      (ofEmptyFile.writeWithLock .estranging none).outcome =
        .failed (.serialize Directory.foreignText)) ∧
    ofLinked.readText = .ok "" ∧
      let called :=
        ofLinked.writeWithLock (Command.setServerPort 9000) (some ⟨{}, {}, checksum ""⟩)
      (∃ snapshot, called.outcome = .ok ⟨snapshot, .updated⟩) ∧
        ∀ text, called.state.readText ≠ .ok text := by
  refine ⟨⟨rfl, rfl, ?crashes⟩, ⟨rfl, rfl, by decide +kernel⟩, rfl, ?linked⟩
  case crashes =>
    obtain ⟨message, crashed⟩ : ∃ message,
        Config.runtimeOfYaml ofCrashing.machine.environment "" = .error (.crash message) :=
      ⟨_, rfl⟩
    have decided : LockDecided ofCrashing (Command.setServerPort 9000) none (.panicked message)
        ofCrashing := .crashed rfl rfl ⟨⟨{}, rfl⟩, crashed⟩
    rw [← decided.called.1]
    exact ⟨nofun, nofun⟩
  case linked =>
    have commits : ofLinked.Commits (Command.setServerPort 9000) (some ⟨{}, {}, checksum ""⟩)
        ⟨{}, {}, checksum ""⟩ Session.otherPort
        ⟨Session.otherPort, Session.otherPort, checksum Session.otherPort.toYaml⟩ :=
      { starts := .inl rfl
        admitted := nofun
        update := rfl
        changed := rfl
        written := rfl
        views := ⟨Config.of_yaml_to_yaml Session.other_port_reads_back, Session.other_port_runs,
          rfl⟩ }
    have writing : System.writeText ofLinked.machine ofLinked.temporaryPath
        Session.otherPort.toYaml = (.ok (), ⟨some Session.otherPort.toYaml⟩) := rfl
    have moving : System.rename (⟨some Session.otherPort.toYaml⟩ : Linked) ofLinked.temporaryPath
        ofLinked.path = (.ok (), ⟨none⟩) := rfl
    obtain ⟨outcome, state⟩ := (LockDecided.updated commits writing moving).called
    simp only [← outcome, ← state]
    exact ⟨⟨_, rfl⟩, nofun⟩

end LastGood.FileStore
