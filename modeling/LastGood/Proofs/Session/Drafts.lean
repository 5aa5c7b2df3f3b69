import LastGood.Proofs.Config.ReadBack
import LastGood.Proofs.Session.Provenance

/-!
# Locked writes as edits in memory

A draft is a configuration that is edited in memory, with the text that it was read from or
would be saved as. A command edits it or does not: what a refused or a panicking command left
behind is dropped, and a command that leaves the configuration the same keeps draft and text.

A session over a file goes about an edit in another way. It reads and parses the file, runs
the command on a copy, writes the text of the result, parses it again, puts it in place, and
later skips it or reads it once more. As long as texts can be read back and files replaced,
no difference can be noticed: whatever was done, what is edited is the draft, the file holds
its text, and every locked write returns what the edit of the draft does.
-/

namespace LastGood

/-- A configuration that is edited in memory. -/
structure Draft where
  /-- The configuration. -/
  config : Config
  /-- The text that it was read from, or is saved as. -/
  text : String

namespace Draft

/-- Runs a command on a draft. Two configurations that are the same as paths and values are
the same, however their directories are spelled. One that cannot be written is refused. -/
def run (draft : Draft) (command : Command Config) : Outcome SaveState × Draft :=
  match command.update draft.config with
  | (_, .refused error) => (.failed error, draft)
  | (_, .panicked message) => (.panicked message, draft)
  | (edited, .accepted) =>
      if edited.sameAs draft.config then (.ok .unchanged, draft)
      else
        match edited.written with
        | .error reason => (.failed (.serialize reason), draft)
        | .ok text => (.ok .updated, ⟨edited, text⟩)

/-- Runs a command on a draft, unless it expects another revision. -/
def edit (draft : Draft) (command : Command Config) : Outcome SaveState × Draft :=
  match command.expected with
  | some expected =>
      if expected = checksum draft.text then draft.run command
      else (.failed (.conflict expected (checksum draft.text)), draft)
  | none => draft.run command

/-- A draft after a happening. Only locked writes edit it. -/
def after (draft : Draft) : Happening → Draft
  | .operation (.writeWithLock command) => (draft.edit command).2
  | _ => draft

/-- A draft after a history. -/
def course (draft : Draft) (history : List Happening) : Draft := history.foldl after draft

/-- One happening more edits what the others made of the draft. -/
theorem course_snoc (draft : Draft) (history : List Happening) (happening : Happening) :
    draft.course (history ++ [happening]) = (draft.course history).after happening := by
  simp [course]

end Draft

namespace Session

/-- A configuration that a command made can be saved where a session is: its text is read back,
also for the server, and can be put in the place of the file. -/
structure CanSave (session : Session) (edited : Config) : Prop where
  /-- The text is read back as the tree that was written. -/
  readsBack : edited.ReadsBack
  /-- The text can be read for the server. -/
  runs : ∃ runtime,
    Config.runtimeOfYaml session.store.machine.environment edited.toYaml = .ok runtime
  /-- The text can be put in place. -/
  replaces : (session.store.persist edited.toYaml).1 = .ok ()

/-- The text of a configuration that can be saved has a snapshot, in which that configuration
is edited. -/
theorem CanSave.parsed {session : Session} {edited : Config} (saves : session.CanSave edited) :
    ∃ snapshot, session.store.parse edited.toYaml = .ok snapshot ∧ snapshot.editable = edited := by
  obtain ⟨runtime, runs⟩ := saves.runs
  have editable := Config.of_yaml_to_yaml saves.readsBack
  exact ⟨⟨runtime, edited, checksum edited.toYaml⟩,
    (FileStore.snapshot_of_ok_iff _ _ _).mpr ⟨editable, runs, rfl⟩, rfl⟩

/-- A session has a draft in its file, and shows nothing or the snapshot of that file. -/
structure Mirrors (session : Session) (draft : Draft) (snapshot : Snapshot Config) : Prop where
  /-- The file holds the text of the draft. -/
  held : session.store.readText = .ok draft.text
  /-- The snapshot is that of the text. -/
  parsed : session.store.parse draft.text = .ok snapshot
  /-- What is edited is the draft. -/
  editable : snapshot.editable = draft.config
  /-- Readers see nothing, or the snapshot and no error. -/
  shown : session.cache.state = {} ∨ session.cache.state = ⟨some snapshot, none⟩
  /-- What the store remembers is the checksum of what readers see. -/
  stepping : session.InStep

/-- How a call to the store of a session compares with an edit of its draft: it ends as the
edit does, and the file holds the edited draft and has its snapshot. -/
structure Edits (session : Session) (edited : Outcome SaveState × Draft)
    (called : Called FileStore (SaveResult Config)) (before after : Snapshot Config) : Prop where
  /-- The call ends as the edit does, with the snapshot of the file. -/
  outcome : called.outcome = edited.1.map fun state => ⟨after, state⟩
  /-- The file holds the text of the edited draft. -/
  held : called.state.readText = .ok edited.2.text
  /-- The snapshot is that of the text. -/
  parsed : session.store.parse edited.2.text = .ok after
  /-- What is edited is the edited draft. -/
  editable : after.editable = edited.2.config
  /-- An edit that does not succeed brings no other snapshot. -/
  kept : edited.1.value? = none → after = before

namespace Mirrors

variable {session : Session} {draft : Draft} {snapshot : Snapshot Config}

/-- Running a command on the snapshot of the file is running it on the draft. -/
theorem run (mirrors : session.Mirrors draft snapshot) (command : Command Config)
    (saves : (draft.run command).1 = .ok .updated →
      session.CanSave (draft.run command).2.config) :
    ∃ after, session.Edits (draft.run command) (session.store.applyTo command snapshot)
      snapshot after := by
  unfold Draft.run at saves ⊢
  unfold FileStore.applyTo
  rw [mirrors.editable]
  generalize command.update draft.config = updated at saves ⊢
  obtain ⟨edited, verdict⟩ := updated
  cases verdict with
  | refused error =>
    exact ⟨snapshot, rfl, mirrors.held, mirrors.parsed, mirrors.editable, fun _ => rfl⟩
  | panicked message =>
    exact ⟨snapshot, rfl, mirrors.held, mirrors.parsed, mirrors.editable, fun _ => rfl⟩
  | accepted =>
    simp only at saves ⊢
    by_cases same : edited.sameAs draft.config
    · simp only [same, if_true]
      exact ⟨snapshot, rfl, mirrors.held, mirrors.parsed, mirrors.editable, fun _ => rfl⟩
    · simp only [same] at saves ⊢
      unfold FileStore.persistConfig
      cases written : edited.written with
      | error reason =>
        exact ⟨snapshot, rfl, mirrors.held, mirrors.parsed, mirrors.editable, fun _ => rfl⟩
      | ok text =>
        simp only [written] at saves
        have able : session.CanSave edited := saves rfl
        have same : text = edited.toYaml :=
          Except.ok.inj (written.symm.trans (Config.written_by_of_text able.readsBack.written _))
        obtain ⟨after, parsed, editable⟩ := able.parsed
        rw [← same] at parsed
        obtain ⟨outcome, held⟩ := FileStore.persist_snapshot_ok parsed (same ▸ able.replaces)
        exact ⟨after, by simp [outcome], held, parsed, editable, fun failed => by cases failed⟩

/-- A locked write is an edit of the draft, whether a snapshot is installed or not. -/
theorem edit (mirrors : session.Mirrors draft snapshot) (command : Command Config)
    (saves : (draft.edit command).1 = .ok .updated →
      session.CanSave (draft.edit command).2.config) :
    ∃ after, session.Edits (draft.edit command)
      (fileStore.writeWithLock session.store command session.cache.state.snapshot)
      snapshot after := by
  have based : fileStore.writeWithLock session.store command session.cache.state.snapshot =
      session.store.writeWithLock command (some snapshot) := by
    rcases mirrors.shown with shown | shown
    · rw [shown]
      refine (FileStore.lock_on_nothing session.store command).trans ?_
      simp only [mirrors.held, mirrors.parsed]
    · rw [shown]
      rfl
  have sum : snapshot.checksum = checksum draft.text :=
    ((FileStore.snapshot_of_ok_iff _ _ _).mp mirrors.parsed).2.2
  rw [based, FileStore.lock_on_snapshot, sum]
  unfold Draft.edit at saves ⊢
  cases expects : command.expected with
  | none =>
    simp only [expects] at saves ⊢
    exact mirrors.run command saves
  | some expected =>
    simp only [expects] at saves ⊢
    by_cases current : expected = checksum draft.text
    · simp only [current, if_true] at saves ⊢
      exact mirrors.run command saves
    · simp only [current, if_false]
      exact ⟨snapshot, rfl, mirrors.held, mirrors.parsed, mirrors.editable, fun _ => rfl⟩

/-- A load always succeeds, and readers see the snapshot of the file after it: a skipped text
is the one behind what they see. -/
theorem load (mirrors : session.Mirrors draft snapshot) :
    session.cache.state.taking (.loaded session.store.load.outcome) = ⟨some snapshot, none⟩ ∧
      ∃ found, session.store.load.outcome = .ok found := by
  rcases FileStore.load_skips_or_reads session.store with
    ⟨text, held, remembered, skipped, _⟩ | ⟨ended, _⟩
  · rw [skipped]
    refine ⟨?_, none, rfl⟩
    obtain ⟨installed, seen, _⟩ := mirrors.stepping _ remembered
    rcases mirrors.shown with empty | shown
    · rw [empty] at seen
      cases seen
    · exact shown
  · have reading : session.store.reading = .ok snapshot := by
      simp only [FileStore.reading, mirrors.held, mirrors.parsed]
    rw [ended, reading]
    exact ⟨rfl, some snapshot, rfl⟩

/-- What is given out for editing is the draft. -/
theorem for_editing (mirrors : session.Mirrors draft snapshot) :
    (session.perform .forEditing).1 = .ok (.config draft.config) := by
  obtain ⟨seen, found, loaded⟩ := mirrors.load
  have ends : (session.cache.ensureLoaded fileStore session.store).outcome = .ok () := by
    rw [Cache.ensure_loaded_outcome, Cache.reload_outcome,
      show (fileStore.load session.store).outcome = .ok found from loaded]
    split <;> rfl
  have shown : (session.cache.ensureLoaded fileStore session.store).cache.state =
      ⟨some snapshot, none⟩ := by
    rw [Cache.ensure_loaded_state]
    unfold Cache.answers
    rcases mirrors.shown with empty | shown
    · simp only [empty, Option.isSome_none, Bool.false_eq_true, if_false]
      rw [empty] at seen
      exact seen
    · simp only [shown, Option.isSome_some, if_true, List.foldl_nil]
  simp only [perform, Cache.perform, Step.map, Cache.for_editing_outcome, ends, shown,
    Outcome.andThen, CacheState.editing, mirrors.editable, Outcome.map_ok]

/-- An operation other than a save takes a session that has a draft in its file to one that has
the draft after that operation. -/
theorem performed (mirrors : session.Mirrors draft snapshot) (operation : Operation Config)
    (unsaved : ∀ content migrate, operation ≠ .save content migrate)
    (saves : ∀ command, operation = .writeWithLock command →
      (draft.edit command).1 = .ok .updated → session.CanSave (draft.edit command).2.config) :
    ∃ after, (session.performed fileStore operation).Mirrors
      (draft.after (.operation operation)) after := by
  have turned := turn session operation
  have stepping := turned.in_step mirrors.stepping
  have parsing : ∀ text, (session.performed fileStore operation).store.parse text =
      session.store.parse text := fun text => by
    simp only [FileStore.parse_eq, turned.surroundings.environment]
  have shown := session.cache.perform_state fileStore operation session.store
  have store := session.cache.perform_store fileStore operation session.store
  -- Without an edit, it is enough that the file still holds the text of the draft.
  have unedited : (session.performed fileStore operation).store.readText =
        session.store.readText →
      ((session.performed fileStore operation).cache.state = session.cache.state ∨
        (session.performed fileStore operation).cache.state = ⟨some snapshot, none⟩) →
      (session.performed fileStore operation).Mirrors draft snapshot := by
    intro held seen
    refine ⟨held.trans mirrors.held, (parsing _).trans mirrors.parsed, mirrors.editable, ?_,
      stepping⟩
    rcases seen with same | installed
    · rw [same]
      exact mirrors.shown
    · exact .inr installed
  cases operation with
  | reload =>
    refine ⟨snapshot, unedited ?_ (.inr (shown.trans mirrors.load.1))⟩
    exact (congrArg FileStore.readText store).trans (FileStore.load_read_text session.store)
  | ensureLoaded | forEditing =>
    refine ⟨snapshot, ?_⟩
    by_cases populated : session.cache.state.snapshot.isSome
    · simp only [Cache.answers, populated, if_true] at shown store
      exact unedited (congrArg FileStore.readText store) (.inl shown)
    · simp only [Cache.answers, populated] at shown store
      exact unedited
        ((congrArg FileStore.readText store).trans (FileStore.load_read_text session.store))
        (.inr (shown.trans mirrors.load.1))
  | writeWithLock command =>
    obtain ⟨after, edits⟩ := mirrors.edit command (saves command rfl)
    refine ⟨after, (congrArg FileStore.readText store).trans edits.held,
      (parsing _).trans edits.parsed, edits.editable, ?_, stepping⟩
    have seen : (session.performed fileStore (.writeWithLock command)).cache.state =
        session.cache.state.taking
          (.locked ((draft.edit command).1.map fun state => ⟨after, state⟩)) := by
      rw [← edits.outcome]
      exact shown
    rw [seen]
    have kept := edits.kept
    generalize (draft.edit command).1 = ended at kept ⊢
    cases ended with
    | ok state => exact .inr rfl
    | failed error =>
      rw [kept rfl]
      exact mirrors.shown
    | panicked message =>
      rw [kept rfl]
      exact mirrors.shown
  | save content migrate => exact absurd rfl (unsaved content migrate)
  | register _ | renotify | clearListeners =>
    exact ⟨snapshot, unedited (congrArg FileStore.readText store) (.inl shown)⟩

/-- A locked write returns what the edit of the draft does. -/
theorem lock_outcome (mirrors : session.Mirrors draft snapshot) (command : Command Config)
    (saves : (draft.edit command).1 = .ok .updated →
      session.CanSave (draft.edit command).2.config) :
    (session.perform (.writeWithLock command)).1 = (draft.edit command).1.map .saved := by
  obtain ⟨after, edits⟩ := mirrors.edit command saves
  simp only [perform, Cache.perform, Step.map, Cache.write_with_lock_outcome, edits.outcome,
    Outcome.map_map]

end Mirrors

/-- A session whose file is loadable has what the file writes as its draft. -/
theorem mirrors_of_loadable {machine : Machine} {path : Path} {text : String}
    {config runtime : Config} (held : (ofPath machine path).store.readText = .ok text)
    (edited : Config.ofYaml text = .ok config)
    (runs : Config.runtimeOfYaml machine.environment text = .ok runtime) :
    (ofPath machine path).Mirrors ⟨config, text⟩ ⟨runtime, config, checksum text⟩ where
  held := held
  parsed := (FileStore.snapshot_of_ok_iff _ _ _).mpr ⟨edited, runs, rfl⟩
  editable := rfl
  shown := .inl rfl
  stepping sum impossible := by cases impossible

/-- A history in which nothing but locked writes changes the file or the environment, and in
which everything that commands make can be saved. -/
structure Undisturbed (start : Session) (draft : Draft) (history : List Happening) : Prop where
  /-- The environment stays the same. -/
  steady : ∀ environment, Happening.environment environment ∉ history
  /-- Nothing is saved in the place of the configuration. -/
  unsaved : ∀ content migrate, Happening.operation (.save content migrate) ∉ history
  /-- Others leave the text of the file alone. -/
  untouched : start.Untouched [] history
  /-- What a command makes of the draft can be saved. -/
  saves : ∀ (before rest : List Happening) (command : Command Config),
    history = before ++ .operation (.writeWithLock command) :: rest →
    ((draft.course before).edit command).1 = .ok .updated →
    (start.course fileStore before).CanSave ((draft.course before).edit command).2.config

/-- What is undisturbed is undisturbed up to any of its moments. -/
theorem Undisturbed.before {start : Session} {draft : Draft} {before rest : List Happening}
    (undisturbed : start.Undisturbed draft (before ++ rest)) :
    start.Undisturbed draft before where
  steady environment member := undisturbed.steady environment (List.mem_append_left _ member)
  unsaved content migrate member :=
    undisturbed.unsaved content migrate (List.mem_append_left _ member)
  untouched passed change later split :=
    undisturbed.untouched passed change (later ++ rest) (by rw [split]; simp)
  saves earlier later command split :=
    undisturbed.saves earlier (later ++ rest) command (by rw [split]; simp)

/-- Over an undisturbed history a session goes on having the draft in its file. -/
theorem course_mirrors {start : Session} {draft : Draft} {snapshot : Snapshot Config}
    (mirrors : start.Mirrors draft snapshot) (history : List Happening)
    (undisturbed : start.Undisturbed draft history) :
    ∃ after, (start.course fileStore history).Mirrors (draft.course history) after := by
  induction history using List.reverseRecOn with
  | nil => exact ⟨snapshot, mirrors⟩
  | append_singleton before happening ih =>
    obtain ⟨reached, mirrored⟩ := ih undisturbed.before
    rw [course_snoc, Draft.course_snoc]
    cases happening with
    | operation operation =>
      refine mirrored.performed operation ?_ ?_
      · rintro content migrate rfl
        exact undisturbed.unsaved content migrate (by simp)
      · rintro command rfl
        exact undisturbed.saves before [] command rfl
    | disk change =>
      have held := undisturbed.untouched before change [] rfl
      simp only [List.nil_append, course_snoc] at held
      exact ⟨reached, held.trans mirrored.held, mirrored.parsed, mirrored.editable,
        mirrored.shown, mirrored.stepping⟩
    | environment environment => exact absurd (by simp) (undisturbed.steady environment)

/-- Locked writes are edits in memory. A session starts on a file whose text can be read, for
editing and for the server. Over a history in which nothing but locked writes changes the file,
and everything that commands make can be saved, it is as if the commands had been run in
memory, one after another: at every moment what is given out for editing is the draft, an
installed snapshot is that of the draft, no error is pending, and the file holds the text of the
draft, which is read back as the draft. A locked write returns what the edit of the draft does:
that it changed the configuration, that it did not, or the error or panic of its command, or
the conflict, after which the draft is what it was before.

Proof: one operation keeps the draft in the file (`Mirrors.performed`), hence so does a history
(`course_mirrors`). -/
theorem locked_writes_edit_draft (machine : Machine) (path : Path) (text : String)
    (config : Config) (history : List Happening)
    (held : (ofPath machine path).store.readText = .ok text)
    (edited : Config.ofYaml text = .ok config)
    (runs : ∃ runtime, Config.runtimeOfYaml machine.environment text = .ok runtime)
    (undisturbed : (ofPath machine path).Undisturbed ⟨config, text⟩ history) :
    ∀ before rest : List Happening, history = before ++ rest →
      let session := (ofPath machine path).course fileStore before
      let draft := (⟨config, text⟩ : Draft).course before
      (session.perform .forEditing).1 = .ok (.config draft.config) ∧
      (∀ snapshot, session.cache.state.snapshot = some snapshot →
        snapshot.editable = draft.config ∧ snapshot.checksum = checksum draft.text) ∧
      session.cache.state.lastError = none ∧
      session.store.readText = .ok draft.text ∧
      Config.ofYaml draft.text = .ok draft.config ∧
      ∀ (command : Command Config) (later : List Happening),
        rest = .operation (.writeWithLock command) :: later →
        (session.perform (.writeWithLock command)).1 = (draft.edit command).1.map .saved := by
  intro before rest split session draft
  obtain ⟨runtime, runs⟩ := runs
  obtain ⟨snapshot, mirrors⟩ : ∃ snapshot, session.Mirrors draft snapshot :=
    course_mirrors (mirrors_of_loadable held edited runs) before (split ▸ undisturbed).before
  obtain ⟨editable, _, sum⟩ := (FileStore.snapshot_of_ok_iff _ _ _).mp mirrors.parsed
  refine ⟨mirrors.for_editing, ?_, ?_, mirrors.held, mirrors.editable ▸ editable, ?_⟩
  · intro installed shows
    rcases mirrors.shown with empty | shown
    · rw [empty] at shows
      cases shows
    · rw [shown] at shows
      cases shows
      exact ⟨mirrors.editable, sum⟩
  · rcases mirrors.shown with empty | shown
    · rw [empty]
    · rw [shown]
  · intro command later next
    exact mirrors.lock_outcome command (undisturbed.saves before later command (by
      rw [split, next]))

/-- A configuration with another port than the default one. -/
def otherPort : Config := { server := { port := 9000 } }

/-- The text of that configuration. -/
theorem other_port_text : otherPort.toYaml =
    "schema_version: 3\nserver:\n  host: 0.0.0.0\n  port: 9000\n" ++
      "  artifacts_dir: artifacts\n  job_timeout_secs: null\npipelines: []\n" := by
  simp only [Config.toYaml, Config.toTree, ServerConfig.toTree, otherPort, Yaml.textOf,
    Yaml.mapItemChars, Yaml.entriesChars, Yaml.valueChars, List.map_nil]
  decide +kernel

/-- That configuration is read back from its text. -/
theorem other_port_reads_back : otherPort.ReadsBack :=
  Config.reads_back_of_read rfl other_port_text (by decide +kernel)

/-- Its text has another checksum than the empty text. -/
theorem other_port_checksum : checksum "" ≠ checksum otherPort.toYaml := by
  rw [other_port_text]
  decide +kernel

/-- Without overrides it is so for the server as well. -/
theorem other_port_runs : Config.runtimeOfYaml [] otherPort.toYaml = .ok otherPort :=
  (Config.runtime_of_yaml_plain rfl _).trans (Config.of_yaml_to_yaml other_port_reads_back)

/-- That configuration can be saved on any machine without overrides whose file can be replaced
by its text. -/
theorem can_save_other_port {session : Session}
    (plain : session.store.machine.environment = [])
    (replaces : (session.store.persist otherPort.toYaml).1 = .ok ()) :
    session.CanSave otherPort :=
  ⟨other_port_reads_back, ⟨otherPort, plain ▸ other_port_runs⟩, replaces⟩

/-- The session of an empty file has the defaults as its draft. -/
theorem mirrors_empty_file :
    (ofPath Machine.ofEmptyFile ⟨"config.yaml"⟩).Mirrors ⟨{}, ""⟩ ⟨{}, {}, checksum ""⟩ :=
  mirrors_of_loadable rfl rfl rfl

/-- A change of the port of an empty file that was loaded updates it, in whatever checksums it is
wrapped, as long as the one that decides is that of the file. -/
theorem port_changed {command : Command Config}
    (same : command.update = (Command.setServerPort 9000).update)
    (expects : command.expected = some (checksum "")) :
    (((ofPath Machine.ofEmptyFile ⟨"config.yaml"⟩).course fileStore
        [.operation .reload]).perform (.writeWithLock command)).1 = .ok (.saved .updated) ∧
      ∃ snapshot, (((ofPath Machine.ofEmptyFile ⟨"config.yaml"⟩).course fileStore
        [.operation .reload]).performed fileStore (.writeWithLock command)).Mirrors
          ⟨otherPort, otherPort.toYaml⟩ snapshot := by
  have edits : (⟨{}, ""⟩ : Draft).edit command =
      (.ok .updated, ⟨otherPort, otherPort.toYaml⟩) := by
    simp only [Draft.edit, expects, if_true, Draft.run, same]
    rfl
  have saves : ((ofPath Machine.ofEmptyFile ⟨"config.yaml"⟩).course fileStore
      [.operation .reload]).CanSave otherPort := can_save_other_port rfl rfl
  obtain ⟨snapshot, mirrors⟩ : ∃ snapshot, ((ofPath Machine.ofEmptyFile ⟨"config.yaml"⟩).course
      fileStore [.operation .reload]).Mirrors ⟨{}, ""⟩ snapshot :=
    mirrors_empty_file.performed .reload (by simp) (by simp)
  obtain ⟨after, mirrored⟩ := mirrors.performed (.writeWithLock command) (by simp) (by
    rintro other same -
    cases same
    rw [edits]
    exact saves)
  have changed : (⟨{}, ""⟩ : Draft).after (.operation (.writeWithLock command)) =
      ⟨otherPort, otherPort.toYaml⟩ := congrArg Prod.snd edits
  refine ⟨(mirrors.lock_outcome command fun _ => edits ▸ saves).trans ?_, after,
    changed ▸ mirrored⟩
  rw [edits]
  rfl

/-- A reload of an empty file, a command that changes the port, and what is edited then. -/
def portHistory : List Happening :=
  [.operation .reload, .operation (.writeWithLock (Command.setServerPort 9000)),
    .operation .forEditing]

/-- The same of one accepted command on an empty file, with a reload before it. -/
theorem locked_writes_edit_draft_empty_file :
    let session := (ofPath Machine.ofEmptyFile ⟨"config.yaml"⟩).course fileStore portHistory
    (session.perform .forEditing).1 = .ok (.config otherPort) ∧
      session.store.readText = .ok otherPort.toYaml := by
  have undisturbed : (ofPath Machine.ofEmptyFile ⟨"config.yaml"⟩).Undisturbed ⟨{}, ""⟩
      portHistory := by
    refine ⟨by simp [portHistory], by simp [portHistory],
      untouched_of_no_disk (by simp [portHistory]), ?_⟩
    intro before rest command split updated
    unfold portHistory at split
    rcases before with _ | ⟨first, _ | ⟨second, _ | ⟨third, before⟩⟩⟩
    · cases split
    · cases split
      exact can_save_other_port rfl rfl
    · cases split
    · cases before <;> cases split
  obtain ⟨editing, _, _, held, _⟩ := locked_writes_edit_draft Machine.ofEmptyFile ⟨"config.yaml"⟩
    "" {} portHistory rfl rfl ⟨{}, rfl⟩ undisturbed portHistory [] (List.append_nil _).symm
  exact ⟨editing, held⟩

/-- A command that spells the directory of the artifacts in another way. -/
def respelling : Command Config where
  update config :=
    ({ config with server := { config.server with artifactsDir := ⟨"artifacts/"⟩ } }, .accepted)

/-- A command that changes the port if the directory is spelled in that way. -/
def noticing : Command Config where
  update config :=
    (if config.server.artifactsDir.text = "artifacts/" then
      { config with server := { config.server with port := 9000 } } else config, .accepted)

/-- A command that succeeds is dropped when all it does is to spell a directory in another way.
The call returns that nothing has changed, though the configuration is another one then, and a
later command that notices is run on the old spelling: what is edited is not what the two
commands make of it in memory, not even up to spelling. A command that succeeds in choosing a
directory without a text is dropped as well, and the call returns an error. -/
theorem respelling_dropped :
    let start := ofPath Machine.ofEmptyFile ⟨"config.yaml"⟩
    let history : List Happening :=
      [.operation (.writeWithLock respelling), .operation (.writeWithLock noticing)]
    let inMemory := (noticing.update (respelling.update {}).1).1
    (start.store.readText = .ok "" ∧ Config.ofYaml "" = .ok {} ∧
      Config.runtimeOfYaml [] "" = .ok {} ∧ start.Undisturbed ⟨{}, ""⟩ history) ∧
    (start.perform (.writeWithLock respelling)).1 = .ok (.saved .unchanged) ∧
    respelling.update {} ≠ ({}, .accepted) ∧ (respelling.update {}).2 = .accepted ∧
    ((start.course fileStore history).perform .forEditing).1 = .ok (.config {}) ∧
    inMemory.sameAs {} = false ∧
    (Command.estranging.update {}).2 = .accepted ∧
    (start.perform (.writeWithLock .estranging)).1 =
      .failed (.serialize Directory.foreignText) := by
  refine ⟨⟨rfl, rfl, rfl, ?_⟩, by decide +kernel, by decide, rfl, by decide +kernel,
    by decide +kernel, rfl, by decide +kernel⟩
  refine ⟨by simp, by simp, untouched_of_no_disk (by simp), ?_⟩
  -- Neither command updates anything, so there is nothing to save.
  intro before rest command split updated
  rcases before with _ | ⟨first, _ | ⟨second, before⟩⟩
  · cases split
    cases updated
  · cases split
    cases updated
  · cases before <;> cases split

end Session

end LastGood
