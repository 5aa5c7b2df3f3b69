import LastGood.Proofs.Session.Course
import LastGood.Proofs.Store.Environment

/-!
# What the environment can reach

Two sessions start on the same file and go through the same operations and the same changes
of the disk, each in an environment of its own, which may change as well. As long as every
text that is read for the server is read to the same end in both environments, the two differ
in what the server runs on and in what is said of overrides, and in nothing else: the disks
are the same byte for byte, the same configuration is edited, and what an operation returns is
the same. So an override is never saved.

The relation between the two sessions is kept by one operation, hence by every history.
-/

namespace LastGood

/-- Two caches show the same but for what the server runs on and for what is said of
overrides. -/
structure CacheState.Alike (state other : CacheState Config) : Prop where
  /-- The installed snapshots are alike, if there are any. -/
  snapshot : Option.Rel Snapshot.Alike state.snapshot other.snapshot
  /-- The pending errors are alike, if there are any. -/
  lastError : Option.Rel ConfigError.Alike state.lastError other.lastError

namespace CacheState.Alike

variable {state other : CacheState Config}

/-- A snapshot is installed in both or in neither. -/
theorem populated (alike : state.Alike other) :
    other.snapshot.isSome = state.snapshot.isSome := by
  obtain ⟨snapshots, _⟩ := alike
  generalize state.snapshot = snapshot at snapshots ⊢
  generalize other.snapshot = snapshot' at snapshots ⊢
  cases snapshots <;> rfl

/-- Both are valid or neither is. -/
theorem valid (alike : state.Alike other) : other.validity.isValid = state.validity.isValid := by
  obtain ⟨_, errors⟩ := alike
  unfold validity
  generalize state.lastError = error at errors ⊢
  generalize other.lastError = error' at errors ⊢
  cases errors <;> rfl

/-- Alike answers leave alike caches. -/
theorem taking (alike : state.Alike other) {answer given : StoreAnswer Config}
    (answers : answer.Alike given) : (state.taking answer).Alike (other.taking given) := by
  cases answers with
  | loaded ends =>
    cases ends with
    | ok found =>
      cases found with
      | some snapshots => exact ⟨.some snapshots, .none⟩
      | none => exact alike
    | failed errors => exact ⟨alike.snapshot, .some errors⟩
    | panicked message message' => exact alike
  | written ends =>
    cases ends with
    | ok snapshots => exact ⟨.some snapshots, .none⟩
    | failed errors => exact alike
    | panicked message message' => exact alike
  | locked ends =>
    cases ends with
    | ok results => exact ⟨.some results.snapshot, .none⟩
    | failed errors => exact alike
    | panicked message message' => exact alike

/-- Answers that are alike one by one leave alike caches. -/
theorem foldl_taking (alike : state.Alike other) {answers given : List (StoreAnswer Config)}
    (same : List.Forall₂ StoreAnswer.Alike answers given) :
    (answers.foldl CacheState.taking state).Alike (given.foldl CacheState.taking other) := by
  induction same generalizing state other with
  | nil => exact alike
  | cons first rest ih => exact ih (alike.taking first)

/-- The same is given out for editing, or both are empty and fail alike. -/
theorem editing (alike : state.Alike other) : state.editing.Alike Eq other.editing := by
  obtain ⟨snapshots, errors⟩ := alike
  unfold CacheState.editing
  generalize state.snapshot = snapshot at snapshots ⊢
  generalize other.snapshot = snapshot' at snapshots ⊢
  cases snapshots with
  | some same => exact .ok same.editable.symm
  | none =>
    generalize state.lastError = error at errors ⊢
    generalize other.lastError = error' at errors ⊢
    cases errors with
    | some causes => exact .failed (.after causes)
    | none => exact .failed (.same _)

end CacheState.Alike

namespace Session

/-- What happens to two sessions side by side: the same to both, but for their environments. -/
inductive SharedHappening where
  /-- An operation of both caches. -/
  | operation (operation : Operation Config)
  /-- Others change both disks, in the same way. -/
  | disk (change : Disk → Disk)
  /-- The environments become other ones. -/
  | environments (first second : Environment)

/-- What happens to the first of two sessions. -/
def SharedHappening.first : SharedHappening → Happening
  | .operation performed => .operation performed
  | .disk change => .disk change
  | .environments first _ => .environment first

/-- What happens to the second of two sessions. -/
def SharedHappening.second : SharedHappening → Happening
  | .operation performed => .operation performed
  | .disk change => .disk change
  | .environments _ second => .environment second

/-- The texts that an operation of a session reads for the server. -/
def texts (session : Session) : Operation Config → List String
  | .reload => session.store.loadTexts
  | .ensureLoaded | .forEditing =>
      if session.cache.state.snapshot.isSome then [] else session.store.loadTexts
  | .writeWithLock command => session.store.lockTexts command session.cache.state.snapshot
  | .save content migrate => FileStore.writeTexts content migrate
  | .register _ | .renotify | .clearListeners => []

/-- Two sessions are the same but for their environments and for what comes of those. -/
structure Confined (session other : Session) : Prop where
  /-- The stores are the same but for the environment. -/
  store : other.store = session.store.within other.store.machine.environment
  /-- Readers see the same but for what the server runs on. -/
  shown : session.cache.state.Alike other.cache.state

/-- What an operation reads for the server is read alike in the environments of two sessions. -/
def ReadsAlike (session other : Session) (operation : Operation Config) : Prop :=
  ∀ text ∈ session.texts operation,
    Config.ReadAlike session.store.machine.environment other.store.machine.environment text

namespace Confined

variable {session other : Session} {operation : Operation Config}

/-- An operation of two sessions asks their stores for alike answers, leaves stores that are
the same but for the environment, and reads the same texts for the server. -/
theorem answers (confined : session.Confined other)
    (same : session.ReadsAlike other operation) :
    List.Forall₂ StoreAnswer.Alike
        (session.cache.answers fileStore operation session.store)
        (other.cache.answers fileStore operation other.store) ∧
      (other.performed fileStore operation).store =
        (session.performed fileStore operation).store.within
          other.store.machine.environment ∧
      other.texts operation = session.texts operation := by
  obtain ⟨store, shown⟩ := confined
  unfold ReadsAlike at same
  have after := session.cache.perform_store fileStore operation session.store
  have after' := other.cache.perform_store fileStore operation other.store
  generalize other.store.machine.environment = environment at *
  simp only [performed, after, after']
  simp only [store, Cache.answers, texts, shown.populated]
  cases operation with
  | reload =>
    obtain ⟨ends, read⟩ := FileStore.load_within same
    exact ⟨.cons (.loaded ends.outcome) .nil, ends.state, read⟩
  | ensureLoaded | forEditing =>
    by_cases populated : session.cache.state.snapshot.isSome
    · simp only [populated, if_true]
      exact ⟨.nil, trivial, trivial⟩
    · simp only [texts, populated] at same ⊢
      obtain ⟨ends, read⟩ := FileStore.load_within same
      exact ⟨.cons (.loaded ends.outcome) .nil, ends.state, read⟩
  | writeWithLock command =>
    obtain ⟨ends, read⟩ := FileStore.lock_within shown.snapshot same
    exact ⟨.cons (.locked ends.outcome) .nil, ends.state, read⟩
  | save content migrate =>
    have ends := FileStore.write_within same
    exact ⟨.cons (.written ends.outcome) .nil, ends.state, rfl⟩
  | register _ | renotify | clearListeners => exact ⟨.nil, rfl, rfl⟩

/-- An operation keeps two sessions the same but for their environments. -/
theorem performed (confined : session.Confined other)
    (same : session.ReadsAlike other operation) :
    (session.performed fileStore operation).Confined (other.performed fileStore operation) := by
  obtain ⟨asked, store, _⟩ := confined.answers same
  constructor
  · rw [store]
    rfl
  · have shown := session.cache.perform_state fileStore operation session.store
    have shown' := other.cache.perform_state fileStore operation other.store
    simp only [Session.performed, shown, shown']
    exact confined.shown.foldl_taking asked

/-- A reload ends alike: only a panic of the store is an end of its own. -/
theorem reload_outcome (confined : session.Confined other)
    (same : session.ReadsAlike other .reload) :
    (session.cache.reload fileStore session.store).outcome.Alike Eq
      (other.cache.reload fileStore other.store).outcome := by
  have ends := (FileStore.load_within same).1.outcome
  rw [← confined.store] at ends
  rw [Cache.reload_outcome, Cache.reload_outcome]
  simp only [fileStore]
  generalize session.store.load.outcome = loaded at ends ⊢
  generalize other.store.load.outcome = loaded' at ends ⊢
  cases ends with
  | ok found => exact .ok rfl
  | failed errors => exact .ok rfl
  | panicked message message' => exact .panicked message message'

/-- So does a load into an empty cache. -/
theorem ensure_loaded_outcome (confined : session.Confined other)
    (same : session.ReadsAlike other .ensureLoaded) :
    (session.cache.ensureLoaded fileStore session.store).outcome.Alike Eq
      (other.cache.ensureLoaded fileStore other.store).outcome := by
  unfold Cache.ensureLoaded
  rw [confined.shown.populated]
  by_cases populated : session.cache.state.snapshot.isSome
  · simp only [populated, if_true]
    exact .ok rfl
  · have loads : session.ReadsAlike other .reload := by
      simpa only [ReadsAlike, texts, populated, Bool.false_eq_true, if_false] using same
    simp only [populated]
    exact confined.reload_outcome loads

/-- What an operation returns is the same in two sessions, and so is the error that it fails
with, but for what that says of overrides. -/
theorem outcome (confined : session.Confined other)
    (same : session.ReadsAlike other operation) :
    (session.perform operation).1.Alike Eq (other.perform operation).1 := by
  cases operation with
  | reload => exact (confined.reload_outcome same).map fun _ _ _ => rfl
  | ensureLoaded => exact (confined.ensure_loaded_outcome same).map fun _ _ _ => rfl
  | forEditing =>
    have shown : (session.cache.ensureLoaded fileStore session.store).cache.state.Alike
        (other.cache.ensureLoaded fileStore other.store).cache.state :=
      (confined.performed same).shown
    simp only [perform, Cache.perform, Step.map, Cache.for_editing_outcome]
    refine Outcome.Alike.map ?_ fun _ _ => congrArg Answer.config
    exact (confined.ensure_loaded_outcome same).andThen fun _ _ _ => shown.editing
  | writeWithLock command =>
    have ends := (FileStore.lock_within confined.shown.snapshot same).1.outcome
    rw [← confined.store] at ends
    simp only [perform, Cache.perform, Step.map, Cache.write_with_lock_outcome, Outcome.map_map]
    exact ends.map fun _ _ results => congrArg Answer.saved results.state.symm
  | save content migrate =>
    have ends := (FileStore.write_within same).outcome
    rw [← confined.store] at ends
    simp only [perform, Cache.perform, Step.map, Cache.save_outcome, Outcome.map_map]
    exact ends.map fun _ _ _ => rfl
  | register listener =>
    simp only [perform, Cache.perform, Step.map, Cache.register_outcome]
    exact .ok rfl
  | renotify =>
    simp only [perform, Cache.perform, Step.map, Cache.renotify_outcome]
    exact .ok rfl
  | clearListeners => exact .ok rfl

/-- What happens to two sessions side by side keeps them the same but for their
environments. -/
theorem after (confined : session.Confined other) (happening : SharedHappening)
    (same : ∀ operation, happening = .operation operation → session.ReadsAlike other operation) :
    (session.after fileStore happening.first).Confined
      (other.after fileStore happening.second) := by
  cases happening with
  | operation operation => exact confined.performed (same operation rfl)
  | disk change =>
    refine ⟨?_, confined.shown⟩
    have disk : other.store.machine.disk = session.store.machine.disk :=
      congrArg (fun store => store.machine.disk) confined.store
    simp only [SharedHappening.first, SharedHappening.second, Session.after, onDisk, disk]
    exact congrArg (fun store : FileStore =>
      { store with machine := store.machine.withDisk (change session.store.machine.disk) })
      confined.store
  | environments first second =>
    refine ⟨?_, confined.shown⟩
    exact congrArg (fun store => store.within second) confined.store

end Confined

/-- Two sessions of one file after what has happened to them side by side, each in an
environment of its own. -/
def sideBySide (machine : Machine) (path : Path) (first second : Environment)
    (history : List SharedHappening) : Session × Session :=
  (((ofPath machine path).inEnvironment first).course fileStore (history.map SharedHappening.first),
    ((ofPath machine path).inEnvironment second).course fileStore (history.map SharedHappening.second))

/-- Sessions side by side stay the same but for their environments, as long as what they read
for the server is read alike in both. -/
theorem side_by_side_confined {machine : Machine} {path : Path} {first second : Environment}
    {history : List SharedHappening}
    (same : ∀ (before rest : List SharedHappening) (operation : Operation Config),
      history = before ++ .operation operation :: rest →
      let sessions := sideBySide machine path first second before
      sessions.1.ReadsAlike sessions.2 operation) :
    let sessions := sideBySide machine path first second history
    sessions.1.Confined sessions.2 := by
  induction history using List.reverseRecOn with
  | nil => exact ⟨rfl, ⟨.none, .none⟩⟩
  | append_singleton history happening ih =>
    have earlier := ih fun before rest operation split =>
      same before (rest ++ [happening]) operation (by rw [split]; simp)
    simp only [sideBySide, List.map_append, List.map_cons, List.map_nil, course_snoc]
    refine earlier.after happening fun operation performed => ?_
    exact same history [] operation (by rw [performed])

/-- Overrides never leak. Two sessions of one file go through the same operations and the same
changes of the disk, in two environments that may change. Suppose that of each text that an
operation reads for the server both readings succeed, or both fail, or both crash. Then after
every part of the history the stores are the same but for the environment, so that all files
hold the same bytes and the same checksum is remembered; the installed snapshots have the same
editable form and the same checksum, or there are none; and both sessions are valid or neither
is. The next operation returns the same, so the same save state and the same configuration to
edit, or fails with an error of the same kind; it asks the two stores for answers that are
alike, so that a load skips in both or in neither; and it reads the same texts for the server.

Proof: one operation keeps the two sessions alike (`Confined.performed`), hence so does a
history, and what alike sessions return is alike (`Confined.outcome`). -/
theorem overrides_confined (machine : Machine) (path : Path) (first second : Environment)
    (history : List SharedHappening)
    (same : ∀ (before rest : List SharedHappening) (operation : Operation Config),
      history = before ++ .operation operation :: rest →
      let sessions := sideBySide machine path first second before
      ∀ text ∈ sessions.1.texts operation, ∀ editable, Config.ofYaml text = .ok editable →
        (FileStore.outcomeOf (Config.runtimeOfYaml
          sessions.1.store.machine.environment text)).SameEnd
          (FileStore.outcomeOf (Config.runtimeOfYaml
            sessions.2.store.machine.environment text))) :
    ∀ before rest : List SharedHappening, history = before ++ rest →
      let sessions := sideBySide machine path first second before
      sessions.2.store = sessions.1.store.within sessions.2.store.machine.environment ∧
      sessions.2.store.machine.disk = sessions.1.store.machine.disk ∧
      Option.Rel Snapshot.Alike sessions.1.cache.state.snapshot
        sessions.2.cache.state.snapshot ∧
      Option.Rel ConfigError.Alike sessions.1.cache.state.lastError
        sessions.2.cache.state.lastError ∧
      sessions.2.cache.state.validity.isValid = sessions.1.cache.state.validity.isValid ∧
      ∀ (operation : Operation Config) (later : List SharedHappening),
        rest = .operation operation :: later →
        (sessions.1.perform operation).1.Alike Eq (sessions.2.perform operation).1 ∧
        List.Forall₂ StoreAnswer.Alike
          (sessions.1.cache.answers fileStore operation sessions.1.store)
          (sessions.2.cache.answers fileStore operation sessions.2.store) ∧
        sessions.2.texts operation = sessions.1.texts operation := by
  intro before rest split sessions
  have confined : sessions.1.Confined sessions.2 := by
    refine side_by_side_confined fun earlier others operation inner => ?_
    exact same earlier (others ++ rest) operation (by rw [split, inner]; simp)
  have disk : sessions.2.store.machine.disk = sessions.1.store.machine.disk :=
    congrArg (fun store => store.machine.disk) confined.store
  refine ⟨confined.store, disk, confined.shown.snapshot, confined.shown.lastError,
    confined.shown.valid, ?_⟩
  intro operation later next
  have reads : sessions.1.ReadsAlike sessions.2 operation :=
    same before later operation (by rw [split, next])
  obtain ⟨answers, _, texts⟩ := confined.answers reads
  exact ⟨confined.outcome reads, answers, texts⟩

/-- An environment that overrides the port. -/
def overridingPort : Environment := [("CONFCACHE_SERVER__PORT", "9000")]

/-- A reload of an empty file reads it alike with and without another port. -/
theorem reload_reads_alike :
    let sessions := sideBySide Machine.ofEmptyFile ⟨"config.yaml"⟩ [] overridingPort []
    sessions.1.ReadsAlike sessions.2 .reload := by
  have succeeds : ∀ {environment : Environment},
      (Config.runtimeOfYaml environment "").isOk →
      ∃ runtime, FileStore.outcomeOf (Config.runtimeOfYaml environment "") = .ok runtime := by
    intro environment read
    cases ended : Config.runtimeOfYaml environment "" with
    | ok runtime => exact ⟨runtime, rfl⟩
    | error fault => simp [ended, Except.isOk, Except.toBool] at read
  obtain ⟨runtime, plain⟩ := @succeeds [] (by decide +kernel)
  obtain ⟨runtime', overridden⟩ := @succeeds overridingPort (by decide +kernel)
  have only : (sideBySide Machine.ofEmptyFile ⟨"config.yaml"⟩ [] overridingPort []).1.texts
      .reload = [""] := rfl
  intro sessions text read editable edited
  obtain rfl : text = "" := List.mem_singleton.mp (only ▸ read)
  have first : sessions.1.store.machine.environment = [] := rfl
  have second : sessions.2.store.machine.environment = overridingPort := rfl
  rw [first, second, plain, overridden]
  exact .ok runtime runtime'

/-- The same of one reload of an empty file, without overrides and with another port: the
servers run on different ports, and what is edited is the same. -/
theorem overrides_confined_empty_file :
    let sessions := sideBySide Machine.ofEmptyFile ⟨"config.yaml"⟩ [] overridingPort
      [.operation .reload]
    ((sessions.1.cache.state.current {}).server.port = 8153 ∧
      (sessions.2.cache.state.current {}).server.port = 9000) ∧
      sessions.2.store.machine.disk = sessions.1.store.machine.disk ∧
      Option.Rel Snapshot.Alike sessions.1.cache.state.snapshot
        sessions.2.cache.state.snapshot := by
  refine ⟨by decide +kernel, ?_⟩
  have same : ∀ (before rest : List SharedHappening) (operation : Operation Config),
      [.operation .reload] = before ++ .operation operation :: rest →
      let sessions := sideBySide Machine.ofEmptyFile ⟨"config.yaml"⟩ [] overridingPort before
      sessions.1.ReadsAlike sessions.2 operation := by
    intro before rest operation split
    cases before with
    | cons happening before => simp at split
    | nil =>
      obtain ⟨performed, _⟩ := List.cons.inj split
      cases performed
      exact reload_reads_alike
  obtain ⟨_, disk, snapshot, _⟩ := overrides_confined Machine.ofEmptyFile ⟨"config.yaml"⟩ []
    overridingPort [.operation .reload] same [.operation .reload] [] rfl
  exact ⟨disk, snapshot⟩

end Session

end LastGood
