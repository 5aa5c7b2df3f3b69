import LastGood.Proofs.Session.Provenance

/-!
# Loads that skip

The file store skips a text whose checksum it remembers. That cannot be noticed as long as
no two texts of a course share a checksum and the environment stays the same: what the
store remembers is the checksum of the installed snapshot, so the text that is skipped is
the text behind that snapshot, and reading it again would install the same snapshot again.

So the file store and the one that reads and parses every time take every session through
the same course, and a reload always shows what the file holds at the time.
-/

namespace LastGood.Session

/-- The text that a load of a session would skip is the one behind the installed snapshot,
and no error is pending. -/
def Knows (session : Session) : Prop :=
  ∀ text : String, session.store.readText = .ok text →
    session.store.remembered = some (checksum text) →
    ∃ snapshot : Snapshot Config, session.cache.state = ⟨some snapshot, none⟩ ∧
      session.store.parse text = .ok snapshot

/-- A load that may skip shows what reading and parsing the file would show. -/
theorem Knows.load {session : Session} (knows : session.Knows) :
    session.cache.state.taking (.loaded session.store.load.outcome) =
        session.cache.state.taking (.loaded (session.store.reading.map some)) ∧
      session.store.load.state.forgetting = session.store.forgetting := by
  rcases FileStore.load_skips_or_reads session.store with
    ⟨text, held, remembered, skipped, unmoved⟩ | ⟨ended, unmoved⟩
  · obtain ⟨snapshot, shown, parsed⟩ := knows text held remembered
    have reading : session.store.reading = .ok snapshot := by
      simp only [FileStore.reading, held]
      exact parsed
    refine ⟨?_, by rw [unmoved]⟩
    rw [skipped, reading, shown]
    rfl
  · exact ⟨by rw [ended], unmoved⟩

/-- Two sessions that show the same, on the same file of the same machine. What their stores
remember may differ. -/
structure Alike (session other : Session) : Prop where
  /-- Readers see the same. -/
  shown : session.cache.state = other.cache.state
  /-- The stores are the same but for their memories. -/
  store : session.store.forgetting = other.store.forgetting

/-- An operation takes a session over the file store and one over the store that reads every
time from what is alike to what is alike. -/
theorem Alike.performed {session other : Session} (alike : session.Alike other)
    (knows : session.Knows) (operation : Operation Config) :
    (session.performed fileStore operation).Alike
      (other.performed rereadingStore operation) := by
  have reading : other.store.reading = session.store.reading := by
    rw [← FileStore.reading_forgetting other.store, ← alike.store,
      FileStore.reading_forgetting]
  have loaded : session.cache.state.taking (.loaded session.store.load.outcome) =
      other.cache.state.taking (.loaded (rereadingStore.load other.store).outcome) := by
    rw [(rereading_load other.store).1, reading, knows.load.1, alike.shown]
  have unmoved : session.store.load.state.forgetting =
      other.store.forgetting.load.state.forgetting := by
    rw [(FileStore.load_forgetting other.store).2, knows.load.2, alike.store]
  have shown := session.cache.perform_state fileStore operation session.store
  have shown' := other.cache.perform_state rereadingStore operation other.store
  have store := session.cache.perform_store fileStore operation session.store
  have store' := other.cache.perform_store rereadingStore operation other.store
  cases operation with
  | reload =>
    constructor
    · exact shown.trans (loaded.trans shown'.symm)
    · simp only [Session.performed, store, store']
      exact unmoved
  | ensureLoaded | forEditing =>
    by_cases populated : session.cache.state.snapshot.isSome
    · have populated' := alike.shown ▸ populated
      simp only [Cache.answers, populated, populated', if_true] at shown shown' store store'
      constructor
      · exact shown.trans (alike.shown.trans shown'.symm)
      · simp only [Session.performed, store, store', alike.store]
    · have populated' := alike.shown ▸ populated
      simp only [Cache.answers, populated, populated'] at shown shown' store store'
      constructor
      · exact shown.trans (loaded.trans shown'.symm)
      · simp only [Session.performed, store, store']
        exact unmoved
  | writeWithLock command =>
    obtain ⟨outcome, after⟩ := FileStore.lock_alike alike.store command other.cache.state.snapshot
    constructor
    · refine shown.trans (Eq.trans ?_ shown'.symm)
      simp only [Cache.answers, List.foldl_cons, List.foldl_nil, alike.shown]
      exact congrArg (fun outcome => other.cache.state.taking (.locked outcome)) outcome
    · simp only [Session.performed, store, store', alike.shown]
      exact after
  | save content migrate =>
    obtain ⟨outcome, after⟩ := FileStore.write_alike alike.store content migrate
    constructor
    · refine shown.trans (Eq.trans ?_ shown'.symm)
      simp only [Cache.answers, List.foldl_cons, List.foldl_nil, alike.shown]
      exact congrArg (fun outcome => other.cache.state.taking (.written outcome)) outcome
    · simp only [Session.performed, store, store']
      exact after
  | register _ | renotify | clearListeners =>
    constructor
    · exact shown.trans (alike.shown.trans shown'.symm)
    · simp only [Session.performed, store, store', alike.store]

/-- A happening takes alike sessions to alike sessions. -/
theorem Alike.after {session other : Session} (alike : session.Alike other)
    (knows : session.Knows) (happening : Happening) :
    (session.after fileStore happening).Alike (other.after rereadingStore happening) := by
  obtain ⟨path, machine⟩ := FileStore.forgetting_inj alike.store
  cases happening with
  | operation operation => exact alike.performed knows operation
  | disk change =>
    refine ⟨alike.shown, ?_⟩
    simp only [Session.after, onDisk, FileStore.forgetting, path, machine]
  | environment environment =>
    refine ⟨alike.shown, ?_⟩
    simp only [Session.after, inEnvironment, FileStore.forgetting, path, machine]

/-- In one environment, and if checksums tell the texts of a course apart, a load only skips
the text behind the installed snapshot. -/
theorem course_knows (machine : Machine) (path : Path) (history : List Happening)
    (steady : ∀ environment, Happening.environment environment ∉ history)
    (distinct : CollisionFree ((ofPath machine path).HeldDuring history)) :
    ((ofPath machine path).course fileStore history).Knows := by
  intro text held remembered
  have stepping : (ofPath machine path).InStep := by
    intro sum impossible
    cases impossible
  obtain ⟨snapshot, shown, sum⟩ := course_in_step _ history stepping _ remembered
  obtain ⟨before, later, operation, found, split, source⟩ :=
    source_of_installed rfl history snapshot (congrArg CacheState.snapshot shown)
  have parsed := source.parsed
  have found_sum := ((FileStore.snapshot_of_ok_iff _ _ _).mp parsed).2.2
  have same : found = text :=
    distinct found text (held_at split source.held)
      (held_at (List.append_nil history).symm held) (found_sum.symm.trans sum)
  have earlier : ∀ environment,
      Happening.environment environment ∉ before ++ [.operation operation] := by
    intro environment member
    exact steady environment (split ▸ List.mem_append_left later member)
  rw [same, course_environment _ _ earlier, ← course_environment _ history steady] at parsed
  exact ⟨snapshot, shown, parsed⟩

/-- The file store and the one that reads every time take a session through the same course,
in one environment and if checksums tell the texts of the course apart. -/
theorem course_alike (machine : Machine) (path : Path) (history : List Happening)
    (steady : ∀ environment, Happening.environment environment ∉ history)
    (distinct : CollisionFree ((ofPath machine path).HeldDuring history)) :
    ((ofPath machine path).course fileStore history).Alike
      ((ofPath machine path).course rereadingStore history) := by
  induction history using List.reverseRecOn with
  | nil =>
    have same : (ofPath machine path).Alike (ofPath machine path) := ⟨rfl, rfl⟩
    exact same
  | append_singleton before happening ih =>
    have earlier : ∀ environment, Happening.environment environment ∉ before := by
      intro environment member
      exact steady environment (List.mem_append_left _ member)
    have apart : CollisionFree ((ofPath machine path).HeldDuring before) := by
      intro text other held held'
      exact distinct text other (held_longer _ held) (held_longer _ held')
    rw [course_snoc, course_snoc]
    exact (ih earlier apart).after (course_knows machine path before earlier apart) happening

/-- A load panics when reading and parsing the file does. -/
theorem Knows.load_panics {session : Session} {message : String} (knows : session.Knows)
    (crashed : session.store.reading = .panicked message) :
    session.store.load.outcome = .panicked message := by
  rcases FileStore.load_skips_or_reads session.store with
    ⟨text, held, remembered, _, _⟩ | ⟨ended, _⟩
  · obtain ⟨snapshot, _, parsed⟩ := knows text held remembered
    simp only [FileStore.reading, held, parsed] at crashed
    cases crashed
  · rw [ended, crashed]
    rfl

/-- A reload shows what reading and parsing the file gives, and panics only when that does. -/
theorem Knows.reload {session : Session} (knows : session.Knows) :
    (session.performed fileStore .reload).cache.state =
        session.cache.state.taking (.loaded (session.store.reading.map some)) ∧
      ∀ message, session.store.reading = .panicked message →
        (session.perform .reload).1 = .panicked message := by
  refine ⟨(Cache.reload_state fileStore session.store session.cache).trans knows.load.1, ?_⟩
  intro message crashed
  have outcome := Cache.reload_outcome fileStore session.store session.cache
  have loaded : (fileStore.load session.store).outcome = .panicked message :=
    knows.load_panics crashed
  rw [loaded] at outcome
  exact congrArg (Outcome.map fun _ => Answer.done) outcome

/-- Skipping cannot be noticed. In one environment, and if checksums tell the texts of a course
apart, every history leads to what it leads to over the store that reads and parses the file
each time: readers see the same, the health is the same, and so are disk and machine.

In particular a reload shows what the file holds then. If both readings of its text succeed,
they are installed with its checksum, and no error is left. If the file has no text, or one of
the readings is an error, that error is shown and the snapshot stays. If the overrides of the
environment make the second reading crash, the reload panics and readers see what they saw. -/
theorem shortcut_invisible (machine : Machine) (path : Path) (history : List Happening)
    (steady : ∀ environment, Happening.environment environment ∉ history)
    (distinct : CollisionFree ((ofPath machine path).HeldDuring history)) :
    let skipping := (ofPath machine path).course fileStore history
    let rereading := (ofPath machine path).course rereadingStore history
    let shown := skipping.cache.state
    let reloaded := (skipping.performed fileStore .reload).cache.state
    (shown = rereading.cache.state ∧ skipping.health = rereading.health ∧
      skipping.store.machine = rereading.store.machine) ∧
    (∀ error, skipping.store.readText = .error error →
      reloaded = { shown with lastError := some error }) ∧
    ∀ text, skipping.store.readText = .ok text →
      (∀ fault, Config.ofYaml text = .error fault →
        reloaded = { shown with lastError := some (.parse fault.message) }) ∧
      ∀ editable, Config.ofYaml text = .ok editable →
        (∀ runtime, Config.runtimeOfYaml machine.environment text = .ok runtime →
          reloaded = ⟨some ⟨runtime, editable, checksum text⟩, none⟩) ∧
        (∀ fault, Config.runtimeOfYaml machine.environment text = .error fault →
          (∀ message, fault ≠ .crash message) →
          reloaded = { shown with lastError := some (.parse fault.message) }) ∧
        ∀ message, Config.runtimeOfYaml machine.environment text = .error (.crash message) →
          (skipping.perform .reload).1 = .panicked message ∧ reloaded = shown := by
  intro skipping rereading shown reloaded
  have alike := course_alike machine path history steady distinct
  have environment : skipping.store.machine.environment = machine.environment :=
    course_environment (ofPath machine path) history steady
  obtain ⟨seen, panics⟩ := (course_knows machine path history steady distinct).reload
  have seen : reloaded = shown.taking (.loaded (skipping.store.reading.map some)) := seen
  refine ⟨⟨alike.shown, ?_, (FileStore.forgetting_inj alike.store).2⟩, ?_, ?_⟩
  · calc
      skipping.health = shown.health := course_health fileStore (ofPath machine path) history rfl
      _ = rereading.cache.state.health := congrArg CacheState.health alike.shown
      _ = rereading.health :=
        (course_health rereadingStore (ofPath machine path) history rfl).symm
  · intro error unread
    rw [seen, show skipping.store.reading = .failed error by
      simp only [FileStore.reading, unread]]
    rfl
  intro text held
  refine ⟨?_, ?_⟩
  · intro fault refused
    rw [seen, FileStore.reading_of_malformed held refused]
    rfl
  intro editable edited
  have reading := FileStore.reading_of_editable held edited
  rw [environment] at reading
  refine ⟨?_, ?_, ?_⟩
  · intro runtime read
    rw [seen, reading, read]
    rfl
  · intro fault refused uncrashed
    rw [seen, reading, refused, FileStore.outcome_of_error uncrashed]
    rfl
  · intro message crashed
    rw [crashed] at reading
    refine ⟨panics message reading, ?_⟩
    rw [seen, reading]
    rfl

/-- An empty file is loaded; then another text takes its place, and is loaded as well. -/
def replaced : List Happening :=
  [.operation .reload,
    .disk fun _ => ⟨[(["config.yaml"], .file "schema_version: 7\n".toUTF8)]⟩,
    .operation .reload]

/-- After that history the file holds the other text. -/
theorem replaced_read_text : ((ofPath Machine.ofEmptyFile ⟨"config.yaml"⟩).course fileStore
    replaced).store.readText = .ok "schema_version: 7\n" := by
  decide +kernel

/-- During that history and another reload the file holds these two texts. -/
theorem texts_of_replaced {text : String}
    (held : (ofPath Machine.ofEmptyFile ⟨"config.yaml"⟩).HeldDuring
      (replaced ++ [.operation .reload]) text) :
    text = "" ∨ text = "schema_version: 7\n" := by
  have first : (ofPath Machine.ofEmptyFile ⟨"config.yaml"⟩).store.readText = .ok "" := rfl
  rcases held_append held with held | held
  · rcases held_cons held with now | held
    · exact .inl (Except.ok.inj (now.symm.trans first))
    rcases held_cons held with now | held
    · exact .inl (Except.ok.inj (now.symm.trans ((reload_read_text _).trans first)))
    have second := (reload_read_text _).symm.trans replaced_read_text
    rcases held_cons held with now | held
    · exact .inr (Except.ok.inj (now.symm.trans second))
    · exact .inr (Except.ok.inj ((held_nil held).symm.trans replaced_read_text))
  · rcases held_cons held with now | held
    · exact .inr (Except.ok.inj (now.symm.trans replaced_read_text))
    · exact .inr (Except.ok.inj
        ((held_nil held).symm.trans ((reload_read_text _).trans replaced_read_text)))

/-- A text takes the place of another one, and is loaded twice. The second load skips it where the
other store reads it again, and still they show the same; so does one more reload. -/
theorem shortcut_invisible_replaced :
    let shown : Snapshot Config :=
      ⟨{ schemaVersion := 7 }, { schemaVersion := 7 }, checksum "schema_version: 7\n"⟩
    ((ofPath Machine.ofEmptyFile ⟨"config.yaml"⟩).course fileStore replaced).store.load.outcome =
        .ok none ∧
      (rereadingStore.load ((ofPath Machine.ofEmptyFile ⟨"config.yaml"⟩).course rereadingStore
        replaced).store).outcome = .ok (some shown) ∧
      ((ofPath Machine.ofEmptyFile ⟨"config.yaml"⟩).course fileStore
          (replaced ++ [.operation .reload])).cache.state =
        ((ofPath Machine.ofEmptyFile ⟨"config.yaml"⟩).course rereadingStore
          (replaced ++ [.operation .reload])).cache.state ∧
      (((ofPath Machine.ofEmptyFile ⟨"config.yaml"⟩).course fileStore
        (replaced ++ [.operation .reload])).performed fileStore .reload).cache.state =
          ⟨some shown, none⟩ := by
  have distinct : CollisionFree ((ofPath Machine.ofEmptyFile ⟨"config.yaml"⟩).HeldDuring
      (replaced ++ [.operation .reload])) :=
    collision_free_of_two (by decide +kernel) texts_of_replaced
  have edited : Config.ofYaml "schema_version: 7\n" = .ok { schemaVersion := 7 } := by
    decide +kernel
  have runs : Config.runtimeOfYaml Machine.ofEmptyFile.environment "schema_version: 7\n" =
      .ok { schemaVersion := 7 } := by decide +kernel
  have held : ((ofPath Machine.ofEmptyFile ⟨"config.yaml"⟩).course fileStore
      (replaced ++ [.operation .reload])).store.readText = .ok "schema_version: 7\n" := by
    rw [course_snoc]
    exact (reload_read_text _).trans replaced_read_text
  obtain ⟨seen, _, reloaded⟩ := shortcut_invisible Machine.ofEmptyFile ⟨"config.yaml"⟩
    (replaced ++ [.operation .reload]) (by simp [replaced]) distinct
  exact ⟨by decide +kernel, by decide +kernel, seen.1, ((reloaded _ held).2 _ edited).1 _ runs⟩

/-- A machine with an empty file, where reading an override crashes. -/
def crashingMachine : Machine :=
  { Machine.ofEmptyFile with environment := [("CONFCACHE_X", "\"é\\n\"")] }

/-- A reload that crashes leaves a session valid, though its file does not hold a text both
readings of which succeed. There is one text only, so no checksum is at fault. -/
theorem crash_leaves_valid :
    CollisionFree ((ofPath crashingMachine ⟨"config.yaml"⟩).HeldDuring [.operation .reload]) ∧
      (ofPath crashingMachine ⟨"config.yaml"⟩).store.readText = .ok "" ∧
      (∀ runtime, Config.runtimeOfYaml crashingMachine.environment "" ≠ .ok runtime) ∧
      ((ofPath crashingMachine ⟨"config.yaml"⟩).performed fileStore
        .reload).cache.state.validity = .valid := by
  obtain ⟨message, crashed⟩ : ∃ message,
      Config.runtimeOfYaml crashingMachine.environment "" = .error (.crash message) := ⟨_, rfl⟩
  have held : (ofPath crashingMachine ⟨"config.yaml"⟩).store.readText = .ok "" := rfl
  have edited : Config.ofYaml "" = .ok {} := rfl
  refine ⟨reload_distinct _, held, ?_, ?_⟩
  · intro runtime read
    cases crashed.symm.trans read
  · have reading := FileStore.reading_of_editable held edited
    have environment : (ofPath crashingMachine ⟨"config.yaml"⟩).store.machine.environment =
        crashingMachine.environment := rfl
    rw [environment, crashed] at reading
    rw [reload_afresh, reading]
    rfl

end LastGood.Session
