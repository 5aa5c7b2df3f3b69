import LastGood.Proofs.Json.Forms
import LastGood.Proofs.Session.Editing
import LastGood.Proofs.Store.LockedWrites

/-!
# What the commands agree on

The command that checks the file, those that print it, and the one that changes the port each take
a way of their own through a new cache. All of them end as reading the file does: with code 0 if it
has a snapshot, with code 1 if there is an error, and with code 101 in a crash. What is printed is
read back as what was read, and only the command that changes the port touches the disk.

The host can make a command crash before anything is read and after all is done: when the runtime
is not set up, and when the line that is left to print is not printed.
-/

namespace LastGood

namespace Report

/-- The texts among the lines of output. -/
def texts (report : Report) : List String :=
  report.lines.filterMap fun
    | .text text => some text
    | .record _ => none

end Report

namespace Program

/-- The exit code of a command that ends as some call does. -/
def codeOf {α : Type} : Outcome α → Nat
  | .ok _ => 0
  | .failed _ => 1
  | .panicked _ => 101

/-- There are three codes. -/
theorem code_cases {α : Type} (outcome : Outcome α) :
    codeOf outcome = 0 ∨ codeOf outcome = 1 ∨ codeOf outcome = 101 := by
  cases outcome with
  | ok value => exact .inl rfl
  | failed error => exact .inr (.inl rfl)
  | panicked message => exact .inr (.inr rfl)

/-- The code of a call that returned a value. -/
theorem code_eq_zero_iff {α : Type} (outcome : Outcome α) :
    codeOf outcome = 0 ↔ ∃ value, outcome = .ok value := by
  cases outcome <;> simp [codeOf]

/-- The code of a call that failed. -/
theorem code_eq_one_iff {α : Type} (outcome : Outcome α) :
    codeOf outcome = 1 ↔ ∃ error, outcome = .failed error := by
  cases outcome <;> simp [codeOf]

/-- How printing a line ends. -/
def printing (host : Host) (line : String) : Outcome Unit :=
  match host.blocked line with
  | none => .ok ()
  | some reason => .panicked (Host.printFault reason)

/-- A line is printed unless it is blocked. -/
theorem printing_ok_iff {host : Host} {line : String} :
    (∃ done, printing host line = .ok done) ↔ host.blocked line = none := by
  unfold printing
  cases host.blocked line <;> simp

/-- Printing a line does not fail with an error. -/
theorem printing_not_failed (host : Host) (line : String) (error : ConfigError) :
    printing host line ≠ .failed error := by
  unfold printing
  cases host.blocked line <;> simp

/-- Nothing but records is shown of what happened in a cache. -/
theorem texts_of_shown (machine : Machine) (events : List (CacheEvent Config)) :
    ((linesOf machine events).filterMap fun
      | .text text => some text
      | .record _ => none : List String) = [] := by
  unfold linesOf shown
  cases filterOf machine with
  | error message => rfl
  | ok filter => simp [List.filterMap_map]

/-- A success ends as printing its line does, and shows that line if it is printed. -/
theorem success_ends (host : Host) (session : Session) (machine : Machine)
    (events : List (CacheEvent Config)) (line : String) :
    let report := success host session (linesOf machine events) line
    report.code = codeOf (printing host line) ∧ report.machine = session.store.machine ∧
      (host.blocked line = none → report.texts = [line]) := by
  unfold success printing
  cases host.blocked line with
  | some reason => exact ⟨rfl, rfl, nofun⟩
  | none =>
    refine ⟨rfl, rfl, fun _ => ?_⟩
    rw [Report.texts, List.filterMap_append, texts_of_shown]
    rfl

end Program

namespace Session

variable (machine : Machine) (path : Path)

/-- A new session reads its file when it loads, and is left as it is but for what it remembers. -/
theorem load_of_new :
    (ofPath machine path).store.load.outcome = (ofPath machine path).store.reading.map some ∧
      (ofPath machine path).store.load.state.forgetting = (ofPath machine path).store :=
  FileStore.load_forgetting (ofPath machine path).store

/-- A reload of a new session shows what reading its file comes to. -/
theorem reload_of_new :
    ∃ outcome session events,
      (ofPath machine path).perform .reload = (outcome, session, events) ∧
      session.store.forgetting = (ofPath machine path).store ∧
      match (ofPath machine path).store.reading with
      | .ok snapshot => outcome = .ok .done ∧ session.cache.state = ⟨some snapshot, none⟩
      | .failed error => outcome = .ok .done ∧ session.cache.state = ⟨none, some error⟩
      | .panicked message => outcome = .panicked message := by
  obtain ⟨loaded, left⟩ := load_of_new machine path
  have call : fileStore.load (ofPath machine path).store = (ofPath machine path).store.load := rfl
  have store : ((ofPath machine path).perform .reload).2.1.store =
      (ofPath machine path).store.load.state := Cache.reload_store fileStore _ _
  have outcome : ((ofPath machine path).perform .reload).1 = _ :=
    congrArg (Outcome.map fun _ => Answer.done) (Cache.reload_outcome fileStore _ _)
  have shown : ((ofPath machine path).perform .reload).2.1.cache.state = _ :=
    Cache.reload_state fileStore _ _
  rw [call, loaded] at outcome shown
  generalize (ofPath machine path).perform .reload = reloaded at store outcome shown ⊢
  obtain ⟨ended, session, events⟩ := reloaded
  refine ⟨ended, session, events, rfl, (congrArg FileStore.forgetting store).trans left, ?_⟩
  cases reading : (ofPath machine path).store.reading with
  | ok snapshot =>
    rw [reading] at outcome shown
    exact ⟨outcome, shown⟩
  | failed error =>
    rw [reading] at outcome shown
    exact ⟨outcome, shown⟩
  | panicked message =>
    rw [reading] at outcome
    exact outcome

end Session

/-- What is read from a file can be written. -/
theorem FileStore.is_text_of_reading {store : FileStore} {snapshot : Snapshot Config}
    (read : store.reading = .ok snapshot) :
    snapshot.editable.isText ∧ snapshot.runtime.isText := by
  obtain ⟨text, _, views⟩ := reading_ok_iff.mp read
  exact ⟨Config.is_text_of_yaml views.editable, Config.is_text_of_runtime views.runtime⟩

namespace Program

/-- What is printed of a configuration is read back. -/
theorem read_config_text {config : Config} (written : config.isText) :
    Json.Form.config.ofText? (configText config) = some config :=
  (Json.Form.config.encodes_of_encode (Config.written_by_of_text written _)).of_layout .lines

/-- What is left of a snapshot is to print a line of it. -/
def printed (host : Host) (outcome : Outcome (Snapshot Config)) (line : Snapshot Config → String) :
    Outcome Unit :=
  outcome.andThen fun snapshot => printing host (line snapshot)

/-- A command comes to its end when there is a snapshot and its line is printed. -/
theorem code_printed_eq_zero_iff (host : Host) (outcome : Outcome (Snapshot Config))
    (line : Snapshot Config → String) :
    codeOf (printed host outcome line) = 0 ↔
      ∃ snapshot, outcome = .ok snapshot ∧ host.blocked (line snapshot) = none := by
  rw [code_eq_zero_iff]
  cases outcome with
  | ok snapshot => simpa [printed, Outcome.andThen] using printing_ok_iff
  | failed error => simp [printed, Outcome.andThen]
  | panicked message => simp [printed, Outcome.andThen]

/-- A command fails when there is an error in the place of a snapshot. -/
theorem code_printed_eq_one_iff (host : Host) (outcome : Outcome (Snapshot Config))
    (line : Snapshot Config → String) :
    codeOf (printed host outcome line) = 1 ↔ ∃ error, outcome = .failed error := by
  rw [code_eq_one_iff]
  cases outcome with
  | ok snapshot => simp [printed, Outcome.andThen, printing_not_failed]
  | failed error => simp [printed, Outcome.andThen]
  | panicked message => simp [printed, Outcome.andThen]

/-- How a command ends that prints a line of a snapshot, when that is what it comes to. It leaves
the machine alone. -/
structure Ends (host : Host) (machine : Machine) (report : Report)
    (outcome : Outcome (Snapshot Config)) (line : Snapshot Config → String) : Prop where
  /-- The code says what it comes to. -/
  code : report.code = codeOf (printed host outcome line)
  /-- The machine is the same. -/
  unmoved : report.machine = machine
  /-- The line of the snapshot is what is shown, if it is printed. -/
  texts : ∀ snapshot, outcome = .ok snapshot → host.blocked (line snapshot) = none →
    report.texts = [line snapshot]

/-- A command that succeeds comes to printing its line. -/
theorem Ends.of_success (host : Host) {machine : Machine} {session : Session}
    (unmoved : session.store.machine = machine) (events : List (CacheEvent Config))
    (snapshot : Snapshot Config) (line : Snapshot Config → String) :
    Ends host machine (success host session (linesOf machine events) (line snapshot))
      (.ok snapshot) line := by
  obtain ⟨code, left, texts⟩ := success_ends host session machine events (line snapshot)
  refine ⟨code, left.trans unmoved, ?_⟩
  rintro _ ⟨⟩
  exact texts

/-- So does one that prints a configuration that can be written. -/
theorem Ends.of_print (host : Host) {machine : Machine} {session : Session}
    (unmoved : session.store.machine = machine) (events : List (CacheEvent Config))
    (snapshot : Snapshot Config) (shown : Snapshot Config → Config)
    (written : (shown snapshot).isText) :
    Ends host machine (printConfig host session (linesOf machine events) (shown snapshot))
      (.ok snapshot) fun snapshot => configText (shown snapshot) := by
  unfold printConfig
  rw [Config.written_by_of_text written]
  exact .of_success host unmoved events snapshot fun snapshot => configText (shown snapshot)

variable (host : Host) (machine : Machine) (path : Path)

/-- Checking the file comes to what reading it does. -/
theorem check_ends :
    Ends host machine (check host machine path) (Session.ofPath machine path).store.reading fun _ =>
      (Session.ofPath machine path).location.text ++ ": valid" := by
  obtain ⟨outcome, session, events, reloaded, left, ended⟩ :=
    Session.reload_of_new machine path
  have unmoved : session.store.machine = machine := congrArg FileStore.machine left
  have place : session.location = (Session.ofPath machine path).location :=
    (show session.location = session.store.forgetting.location from rfl).trans
      (congrArg FileStore.location left)
  unfold check
  rw [reloaded]
  cases reading : (Session.ofPath machine path).store.reading with
  | ok snapshot =>
    rw [reading] at ended
    obtain ⟨rfl, shown⟩ := ended
    simp only [shown, CacheState.validity, place]
    exact .of_success host unmoved events snapshot fun _ =>
      (Session.ofPath machine path).location.text ++ ": valid"
  | failed error =>
    rw [reading] at ended
    obtain ⟨rfl, shown⟩ := ended
    simp only [shown, CacheState.validity]
    exact ⟨rfl, unmoved, nofun⟩
  | panicked message =>
    rw [reading] at ended
    cases ended
    exact ⟨rfl, unmoved, nofun⟩

/-- So does printing what the server runs on, which is shown then. -/
theorem print_runtime_ends :
    Ends host machine (printRuntime host machine path) (Session.ofPath machine path).store.reading
      fun snapshot => configText snapshot.runtime := by
  obtain ⟨outcome, session, events, reloaded, left, ended⟩ :=
    Session.reload_of_new machine path
  have unmoved : session.store.machine = machine := congrArg FileStore.machine left
  unfold printRuntime
  rw [reloaded]
  cases reading : (Session.ofPath machine path).store.reading with
  | ok snapshot =>
    rw [reading] at ended
    obtain ⟨rfl, shown⟩ := ended
    simp only [shown, CacheState.validity, CacheState.current]
    exact .of_print host unmoved events snapshot Snapshot.runtime
      (FileStore.is_text_of_reading reading).2
  | failed error =>
    rw [reading] at ended
    obtain ⟨rfl, shown⟩ := ended
    simp only [shown, CacheState.validity]
    exact ⟨rfl, unmoved, nofun⟩
  | panicked message =>
    rw [reading] at ended
    cases ended
    exact ⟨rfl, unmoved, nofun⟩

/-- So does printing what is edited, which is shown then. -/
theorem print_editable_ends :
    Ends host machine (printEditable host machine path) (Session.ofPath machine path).store.reading
      fun snapshot => configText snapshot.editable := by
  obtain ⟨loaded, left⟩ := Session.load_of_new machine path
  have ended := Session.for_editing_of_empty (show
    (Session.ofPath machine path).cache.state.snapshot = none from rfl)
  have unmoved : ((Session.ofPath machine path).perform .forEditing).2.1.store.machine = machine :=
    (congrArg FileStore.machine
      (Cache.perform_store fileStore .forEditing (Session.ofPath machine path).store {})).trans
      (congrArg FileStore.machine left)
  rw [loaded] at ended
  unfold printEditable
  generalize (Session.ofPath machine path).perform .forEditing = edited at ended unmoved ⊢
  obtain ⟨outcome, session, events⟩ := edited
  cases reading : (Session.ofPath machine path).store.reading with
  | ok snapshot =>
    rw [reading] at ended
    cases ended
    exact .of_print host unmoved events snapshot Snapshot.editable
      (FileStore.is_text_of_reading reading).1
  | failed error =>
    rw [reading] at ended
    cases ended
    exact ⟨rfl, unmoved, nofun⟩
  | panicked message =>
    rw [reading] at ended
    cases ended
    exact ⟨rfl, unmoved, nofun⟩

/-- What is printed of a port that was changed or left. -/
def portLine (port : UInt16) (state : SaveState) : String :=
  "port " ++ toString port.toNat ++ ": " ++ state.name

/-- Changing the port ends as the locked write of the file without a base does and then as printing
its line, and leaves the machine to the write. -/
theorem set_port_ends (port : UInt16) :
    let called :=
      (Session.ofPath machine path).store.writeWithLock (Command.setServerPort port) none
    (setPort host machine path port).code =
        codeOf (called.outcome.andThen fun result => printing host (portLine port result.state)) ∧
      (setPort host machine path port).machine = called.state.machine ∧
      ∀ result, called.outcome = .ok result → host.blocked (portLine port result.state) = none →
        (setPort host machine path port).texts = [portLine port result.state] := by
  intro called
  have ended : ((Session.ofPath machine path).perform
      (.writeWithLock (Command.setServerPort port))).1 =
        (called.outcome.map SaveResult.state).map .saved :=
    congrArg (Outcome.map Answer.saved)
      (Cache.write_with_lock_outcome fileStore (Command.setServerPort port) _ {})
  have left : ((Session.ofPath machine path).perform
      (.writeWithLock (Command.setServerPort port))).2.1.store = called.state :=
    Cache.perform_store fileStore (.writeWithLock (Command.setServerPort port)) _ {}
  unfold setPort
  generalize (Session.ofPath machine path).perform (.writeWithLock _) = saved at ended left ⊢
  obtain ⟨outcome, session, events⟩ := saved
  cases written : called.outcome with
  | ok result =>
    rw [written] at ended
    cases ended
    obtain ⟨code, unmoved, texts⟩ :=
      success_ends host session machine events (portLine port result.state)
    exact ⟨code, unmoved.trans (congrArg FileStore.machine left), by rintro _ ⟨⟩; exact texts⟩
  | failed error =>
    rw [written] at ended
    cases ended
    exact ⟨rfl, congrArg FileStore.machine left, nofun⟩
  | panicked message =>
    rw [written] at ended
    cases ended
    exact ⟨rfl, congrArg FileStore.machine left, nofun⟩

end Program

namespace FileStore

/-- The command that changes the port accepts any port but zero, and changes nothing else. -/
theorem set_port_accepts {port : UInt16} {config edited : Config}
    (accepted : (Command.setServerPort port).update config = (edited, .accepted)) :
    port ≠ 0 ∧ edited = { config with server := { config.server with port } } := by
  simp only [Command.setServerPort] at accepted
  split at accepted
  case isTrue => cases accepted
  case isFalse given => exact ⟨given, (Prod.mk.inj accepted).1.symm⟩

/-- A configuration is the same with another port only if that is the port it has. -/
theorem port_of_same {config : Config} {port : UInt16}
    (same : ({ config with server := { config.server with port } } : Config).sameAs config = true) :
    port = config.server.port := by
  simp only [Config.sameAs, ServerConfig.sameAs, Bool.and_eq_true, beq_iff_eq] at same
  exact same.1.2.1.1.2

/-- On a machine, a text that was put in place is read from there again, in the same environment. -/
theorem Commits.reading {store : FileStore} {command : Command Config}
    {base : Option (Snapshot Config)} {start snapshot : Snapshot Config} {edited : Config}
    {written renamed : Machine} (commits : store.Commits command base start edited snapshot)
    (writing : System.writeText store.machine store.temporaryPath edited.toYaml =
      (.ok (), written))
    (moving : System.rename written store.temporaryPath store.path = (.ok (), renamed)) :
    renamed.environment = store.machine.environment ∧
      ({ store with machine := renamed }.remembering snapshot.checksum).reading =
        .ok snapshot := by
  have environment : renamed.environment = store.machine.environment := by
    obtain ⟨_, _, rfl⟩ := Machine.renamed_of_attempt moving
    obtain ⟨_, _, rfl⟩ := Machine.written_of_attempt writing
    rfl
  have held := read_text_of_placed (Machine.faithful ..) writing moving
  refine ⟨environment, reading_ok_iff.mpr ⟨edited.toYaml, ?_, ?_⟩⟩
  · simp only [readText, remembering, held, map_error_ok]
  · simp only [remembering, environment]
    exact commits.views

/-- A port that is changed with success is not zero. The file could be read, and it can be read
afterwards: what is edited then is what was edited before, with that port, if YAML gives back the
tree of what had to be written. -/
theorem LockDecided.set_port {store after : FileStore} {port : UInt16} {result : SaveResult Config}
    (decided : LockDecided store (Command.setServerPort port) none (.ok result) after) :
    port ≠ 0 ∧ after.path = store.path ∧
      after.machine.environment = store.machine.environment ∧
      ∃ base, store.reading = .ok base ∧
        let moved := { base.editable with server := { base.editable.server with port } }
        ((base.editable.server.port ≠ port → moved.ReadsBack) →
          ∃ snapshot, after.reading = .ok snapshot ∧ snapshot.editable = moved) := by
  cases decided with
  | @unchanged start edited runs same =>
    obtain ⟨nonzero, rfl⟩ := set_port_accepts runs.update
    obtain given | ⟨_, starts⟩ := runs.starts
    · cases given
    · have reading : store.reading = .ok start := reading_ok_iff.mpr starts
      refine ⟨nonzero, rfl, rfl, start, reading, fun _ => ⟨start, reading, ?_⟩⟩
      rw [port_of_same same]
  | @updated start snapshot edited written renamed commits writing moving =>
    obtain ⟨nonzero, rfl⟩ := set_port_accepts commits.update
    obtain given | ⟨_, starts⟩ := commits.starts
    · cases given
    · have other : start.editable.server.port ≠ port := by
        rintro rfl
        cases (Config.sameAs_refl start.editable).symm.trans commits.changed
      obtain ⟨environment, read⟩ := commits.reading writing moving
      refine ⟨nonzero, rfl, environment, start, reading_ok_iff.mpr starts, fun reads => ?_⟩
      have saved := Config.of_yaml_to_yaml (reads other)
      exact ⟨snapshot, read, Except.ok.inj (commits.views.editable.symm.trans saved)⟩

end FileStore

namespace Program

/-- All is set up that has to be before anything is done. -/
def Ready (host : Host) (machine : Machine) : Prop :=
  host.unready machine.environment = none ∧ ∃ filter, filterOf machine = .ok filter

/-- Setting up succeeds exactly where the runtime and the filter are in order. -/
theorem set_up_ok_iff {host : Host} {machine : Machine} :
    setUp host machine = .ok () ↔ Ready host machine := by
  unfold setUp Ready
  cases host.unready machine.environment with
  | some message => simp
  | none => cases filterOf machine <;> simp [Except.map]

/-- What the commands come to that read the file: a crash of setting up comes first. -/
def verdict (host : Host) (machine : Machine) (path : Path) : Outcome (Snapshot Config) :=
  match setUp host machine with
  | .error message => .panicked message
  | .ok () => (Session.ofPath machine path).store.reading

/-- They give a snapshot when all is set up and the file holds a text that has one. -/
theorem verdict_ok_iff {host : Host} {machine : Machine} {path : Path}
    {snapshot : Snapshot Config} :
    verdict host machine path = .ok snapshot ↔
      Ready host machine ∧ ∃ text, (Session.ofPath machine path).store.readText = .ok text ∧
        Views machine.environment text snapshot := by
  rw [← set_up_ok_iff]
  unfold verdict
  cases setUp host machine with
  | error message => simp
  | ok done => exact FileStore.reading_ok_iff.trans (by simp [Session.ofPath])

/-- They fail when all is set up and the file cannot be read or holds a text that is faulty. -/
theorem verdict_failed_iff {host : Host} {machine : Machine} {path : Path} :
    (∃ error, verdict host machine path = .failed error) ↔
      Ready host machine ∧
        ((∃ error, (Session.ofPath machine path).store.readText = .error error) ∨
          ∃ text error, (Session.ofPath machine path).store.readText = .ok text ∧
            Faulty machine.environment text error) := by
  rw [← set_up_ok_iff]
  unfold verdict
  cases setUp host machine with
  | error message => simp
  | ok done =>
    simp only [FileStore.reading, true_and]
    cases (Session.ofPath machine path).store.readText with
    | error error => simp
    | ok text => simp [FileStore.parse_failed_iff, Session.ofPath]

/-- A command that comes to what reading the file does comes to the verdict when it is run. -/
theorem Ends.run {host : Host} {machine : Machine} {path : Path} {request : Request}
    {line : Snapshot Config → String}
    (ended : Ends host machine (perform host machine request)
      (Session.ofPath machine path).store.reading line) :
    Ends host machine (run host machine request) (verdict host machine path) line := by
  unfold Program.run verdict
  cases setUp host machine with
  | error message => exact ⟨rfl, rfl, nofun⟩
  | ok done => exact ended

namespace Ends

variable {host : Host} {machine : Machine} {report : Report} {path : Path}
  {line : Snapshot Config → String}

/-- A command that comes to the verdict succeeds when all is set up, the file holds a text that has
a snapshot, and the line is printed. -/
theorem code_eq_zero (ended : Ends host machine report (verdict host machine path) line) :
    report.code = 0 ↔ Ready host machine ∧
      ∃ text snapshot, (Session.ofPath machine path).store.readText = .ok text ∧
        Views machine.environment text snapshot ∧ host.blocked (line snapshot) = none := by
  rw [ended.code, code_printed_eq_zero_iff]
  constructor
  · rintro ⟨snapshot, given, shows⟩
    obtain ⟨ready, text, held, views⟩ := verdict_ok_iff.mp given
    exact ⟨ready, text, snapshot, held, views, shows⟩
  · rintro ⟨ready, text, snapshot, held, views, shows⟩
    exact ⟨snapshot, verdict_ok_iff.mpr ⟨ready, text, held, views⟩, shows⟩

/-- It fails when all is set up and the file cannot be read or is faulty, and crashes if it neither
fails nor succeeds. -/
theorem code_eq_one (ended : Ends host machine report (verdict host machine path) line) :
    (report.code = 0 ∨ report.code = 1 ∨ report.code = 101) ∧
      (report.code = 1 ↔ Ready host machine ∧
        ((∃ error, (Session.ofPath machine path).store.readText = .error error) ∨
          ∃ text error, (Session.ofPath machine path).store.readText = .ok text ∧
            Faulty machine.environment text error)) := by
  constructor
  · rw [ended.code]
    exact code_cases _
  · rw [ended.code, code_printed_eq_one_iff, verdict_failed_iff]

/-- When it succeeds, it has shown the line of the snapshot of what the file holds. -/
theorem shown (ended : Ends host machine report (verdict host machine path) line)
    (succeeded : report.code = 0) {text : String}
    (held : (Session.ofPath machine path).store.readText = .ok text) :
    ∃ snapshot, Views machine.environment text snapshot ∧ report.texts = [line snapshot] := by
  obtain ⟨ready, found, snapshot, holds, views, shows⟩ := ended.code_eq_zero.mp succeeded
  cases held.symm.trans holds
  exact ⟨snapshot, views,
    ended.texts snapshot (verdict_ok_iff.mpr ⟨ready, text, held, views⟩) shows⟩

end Ends

/-- A change of the port is made by a locked write if all is set up, and crashes otherwise. -/
theorem run_set_port {host : Host} {machine : Machine} {path : Path} {port : UInt16}
    (ready : Ready host machine) :
    run host machine (.setPort path port) = setPort host machine path port := by
  simp only [run, set_up_ok_iff.mpr ready, perform]

/-- Where setting up crashes, so does a change of the port, and nothing else happens. -/
theorem run_unready {host : Host} {machine : Machine} {path : Path} {port : UInt16}
    (unready : ¬ Ready host machine) :
    (run host machine (.setPort path port)).code = 101 ∧
      (run host machine (.setPort path port)).machine = machine := by
  rw [← set_up_ok_iff] at unready
  unfold run
  cases ended : setUp host machine with
  | error message => exact ⟨rfl, rfl⟩
  | ok done => exact absurd ended unready

/-- A change of the port that succeeds is one of a file that can be read, before and afterwards:
what is edited then is what was edited before, with that port, if YAML gives back the tree of what
had to be written. The environment is the same afterwards. -/
theorem set_port_ok {host : Host} {machine : Machine} {path : Path} {port : UInt16}
    (succeeded : (run host machine (.setPort path port)).code = 0) :
    let after := (run host machine (.setPort path port)).machine
    Ready host machine ∧ after.environment = machine.environment ∧ port ≠ 0 ∧
      ∃ base, (Session.ofPath machine path).store.reading = .ok base ∧
        let moved := { base.editable with server := { base.editable.server with port } }
        ((base.editable.server.port ≠ port → moved.ReadsBack) →
          ∃ snapshot, (Session.ofPath after path).store.reading = .ok snapshot ∧
            snapshot.editable = moved) := by
  intro reached
  have ready : Ready host machine := by
    by_contra unready
    rw [(run_unready unready).1] at succeeded
    cases succeeded
  obtain ⟨code, left, _⟩ := set_port_ends host machine path port
  obtain ⟨outcome, after, decided⟩ := FileStore.lock_decided
    (Session.ofPath machine path).store (Command.setServerPort port) none
  obtain ⟨ended, state⟩ := decided.called
  rw [run_set_port ready, code, ← ended] at succeeded
  have same : reached = after.machine := by
    rw [state, ← left, ← run_set_port ready]
  cases outcome with
  | failed error => cases succeeded
  | panicked message => cases succeeded
  | ok result =>
    obtain ⟨nonzero, place, environment, base, reading, moves⟩ := decided.set_port
    have later : (Session.ofPath after.machine path).store = after.forgetting :=
      congrArg (FileStore.mk · none after.machine) place.symm
    refine ⟨ready, same ▸ environment, nonzero, base, reading, fun reads => ?_⟩
    obtain ⟨snapshot, read, edited⟩ := moves reads
    refine ⟨snapshot, ?_, edited⟩
    rw [same, later]
    exact read

/-- A port that is there already is not changed, and then nothing is. -/
theorem set_port_repeated {host : Host} {machine : Machine} {path : Path}
    {snapshot : Snapshot Config} (ready : Ready host machine)
    (given : (Session.ofPath machine path).store.reading = .ok snapshot)
    (nonzero : snapshot.editable.server.port ≠ 0) :
    let port := snapshot.editable.server.port
    let report := run host machine (.setPort path port)
    report.machine = machine ∧ (host.blocked (portLine port .unchanged) = none →
      report.code = 0 ∧ report.texts = [portLine port .unchanged]) := by
  intro port report
  have starts := FileStore.reading_ok_iff.mp given
  obtain ⟨code, left, texts⟩ := set_port_ends host machine path port
  have runs : (Session.ofPath machine path).store.Runs (Command.setServerPort port) none snapshot
      snapshot.editable .accepted := by
    refine ⟨.inr ⟨rfl, starts⟩, ?_, ?_⟩
    · rintro expected ⟨⟩
    · simp only [Command.setServerPort, port, nonzero, if_false]
  obtain ⟨ended, state⟩ := (FileStore.LockDecided.unchanged runs (Config.sameAs_refl _)).called
  rw [← ended] at code
  rw [← state] at left
  simp only [report, run_set_port ready]
  refine ⟨left, fun shows => ⟨?_, texts _ ended.symm shows⟩⟩
  rw [code, code_eq_zero_iff]
  exact printing_ok_iff.mpr shows

/-- A change of the port that does not succeed leaves what stands at the path, unless all that did
not succeed is to print that the file was updated; that is a crash. -/
theorem set_port_failed {host : Host} {machine : Machine} {path : Path} {port : UInt16}
    (failed : (run host machine (.setPort path port)).code ≠ 0) :
    let after := (run host machine (.setPort path port)).machine
    after.disk.lookup after.directory path = machine.disk.lookup machine.directory path ∨
      (run host machine (.setPort path port)).code = 101 ∧
        host.blocked (portLine port .updated) ≠ none := by
  intro reached
  by_cases ready : Ready host machine
  case neg =>
    have same : reached = machine := (run_unready ready).2
    rw [same]
    exact .inl rfl
  case pos =>
    obtain ⟨code, left, _⟩ := set_port_ends host machine path port
    have same : reached = _ := (congrArg Report.machine (run_set_port ready)).trans left
    rw [run_set_port ready, code] at failed
    rw [run_set_port ready, code, same]
    cases ended : ((Session.ofPath machine path).store.writeWithLock
        (Command.setServerPort port) none).outcome with
    | ok result =>
      have stuck : host.blocked (portLine port result.state) ≠ none := fun shows => failed
        ((code_eq_zero_iff _).mpr (by rw [ended]; exact printing_ok_iff.mpr shows))
      obtain ⟨snapshot, state⟩ := result
      cases state with
      | updated =>
        refine .inr ⟨?_, stuck⟩
        rw [ended] at failed
        obtain ⟨reason, blocked⟩ := Option.ne_none_iff_exists'.mp stuck
        simp only [Outcome.andThen, printing, blocked, codeOf]
      | unchanged =>
        have decided := FileStore.lock_called (Session.ofPath machine path).store
          (Command.setServerPort port) none
        rw [ended] at decided
        generalize ((Session.ofPath machine path).store.writeWithLock _ none).state = after
          at decided ⊢
        cases decided with
        | unchanged => exact .inl rfl
    | failed error =>
      have leaves : FileStore.Leaves _ _ := FileStore.lock_leaves fun result other => by
        rw [ended] at other
        cases other
      have kept := leaves.lookup
      rw [leaves.path] at kept
      exact .inl kept
    | panicked message =>
      have leaves : FileStore.Leaves _ _ := FileStore.lock_leaves fun result other => by
        rw [ended] at other
        cases other
      have kept := leaves.lookup
      rw [leaves.path] at kept
      exact .inl kept

/-- The commands agree on every host, every machine and every path. Checking the file and printing
either configuration leave the machine alone and end with code 0, 1 or 101. The code is 0 exactly if
all is set up (the runtime and the filter of log records), the file holds a text, both readings of
that succeed, and the line that the command prints is taken by the output. It is 1 exactly if all is
set up and the file cannot be read or its text is faulty; so it is the same for all of them, and if
the output takes every line, so is every code. Otherwise it is 101. What is printed is read back as
JSON, and is what was read.

A change of the port that fails with code 1 leaves what stands at the path, and so does one that
crashes, unless all that is left is to print that the file was updated. One that succeeds is of a
file that can be read, to a port that is not zero. Then, if YAML gives back the tree of what had to
be written, what is edited is printed afterwards as it was before, with that port in it, and the
same change is unchanged the next time and leaves the machine alone, on any host that is ready and
whose output takes the lines. -/
theorem commands_agree (host : Host) (machine : Machine) (path : Path) :
    let store := (Session.ofPath machine path).store
    let checked := run host machine (.check path)
    let served := run host machine (.print path false)
    let edited := run host machine (.print path true)
    let succeeds (line : Snapshot Config → String) := Ready host machine ∧
      ∃ text snapshot, store.readText = .ok text ∧ Views machine.environment text snapshot ∧
        host.blocked (line snapshot) = none
    let fails := Ready host machine ∧ ((∃ error, store.readText = .error error) ∨
      ∃ text error, store.readText = .ok text ∧ Faulty machine.environment text error)
    (checked.machine = machine ∧ served.machine = machine ∧ edited.machine = machine) ∧
    (∀ report ∈ [checked, served, edited],
      (report.code = 0 ∨ report.code = 1 ∨ report.code = 101) ∧ (report.code = 1 ↔ fails)) ∧
    (checked.code = 0 ↔ succeeds fun _ => store.location.text ++ ": valid") ∧
    (served.code = 0 ↔ succeeds fun snapshot => configText snapshot.runtime) ∧
    (edited.code = 0 ↔ succeeds fun snapshot => configText snapshot.editable) ∧
    ((∀ line, host.blocked line = none) →
      served.code = checked.code ∧ edited.code = checked.code) ∧
    (∀ text, store.readText = .ok text →
      (served.code = 0 → ∃ runtime, Config.runtimeOfYaml machine.environment text = .ok runtime ∧
        served.texts = [configText runtime] ∧
        Json.Form.config.ofText? (configText runtime) = some runtime) ∧
      (edited.code = 0 → ∃ editable, Config.ofYaml text = .ok editable ∧
        edited.texts = [configText editable] ∧
        Json.Form.config.ofText? (configText editable) = some editable)) ∧
    ∀ port,
      let setting := run host machine (.setPort path port)
      let kept := setting.machine.disk.lookup setting.machine.directory path =
        machine.disk.lookup machine.directory path
      (setting.code = 1 → kept) ∧
      (setting.code ≠ 0 → host.blocked (portLine port .updated) = none → kept) ∧
      (setting.code = 0 → port ≠ 0 ∧
        ∃ text editable, store.readText = .ok text ∧ Config.ofYaml text = .ok editable ∧
          let moved := { editable with server := { editable.server with port } }
          ((editable.server.port ≠ port → moved.ReadsBack) →
            ∀ other : Host, other.unready machine.environment = none →
              let later := run other setting.machine (.print path true)
              let again := run other setting.machine (.setPort path port)
              (other.blocked (configText moved) = none →
                later.code = 0 ∧ later.texts = [configText moved]) ∧
              (other.blocked (portLine port .unchanged) = none →
                again.code = 0 ∧ again.texts = [portLine port .unchanged]) ∧
              again.machine = setting.machine)) := by
  intro store checked served edited succeeds fails
  have checks : Ends host machine checked (verdict host machine path) _ :=
    Ends.run (check_ends host machine path)
  have serves : Ends host machine served (verdict host machine path) _ :=
    Ends.run (print_runtime_ends host machine path)
  have edits : Ends host machine edited (verdict host machine path) _ :=
    Ends.run (print_editable_ends host machine path)
  refine ⟨⟨checks.unmoved, serves.unmoved, edits.unmoved⟩, ?codes, checks.code_eq_zero,
    serves.code_eq_zero, edits.code_eq_zero, ?same, ?printed, ?changed⟩
  case codes =>
    simp only [List.forall_mem_cons, List.not_mem_nil, false_imp_iff, implies_true, and_true]
    exact ⟨checks.code_eq_one, serves.code_eq_one, edits.code_eq_one⟩
  case same =>
    intro takes
    have plain : ∀ line : Snapshot Config → String,
        codeOf (printed host (verdict host machine path) line) =
          codeOf (verdict host machine path) := by
      intro line
      cases verdict host machine path with
      | ok snapshot => simp only [printed, Outcome.andThen, printing, takes, codeOf]
      | failed error => rfl
      | panicked message => rfl
    rw [serves.code, edits.code, checks.code, plain, plain, plain]
    exact ⟨rfl, rfl⟩
  case printed =>
    intro text held
    constructor
    · intro succeeded
      obtain ⟨snapshot, views, shown⟩ := serves.shown succeeded held
      exact ⟨snapshot.runtime, views.runtime, shown,
        read_config_text (Config.is_text_of_runtime views.runtime)⟩
    · intro succeeded
      obtain ⟨snapshot, views, shown⟩ := edits.shown succeeded held
      exact ⟨snapshot.editable, views.editable, shown,
        read_config_text (Config.is_text_of_yaml views.editable)⟩
  case changed =>
    intro port setting kept
    refine ⟨fun failed => ?_, fun failed takes => ?_, fun succeeded => ?_⟩
    · rcases set_port_failed (show setting.code ≠ 0 from failed ▸ by decide) with
        same | ⟨crashed, _⟩
      · exact same
      · cases failed.symm.trans crashed
    · rcases set_port_failed failed with same | ⟨_, stuck⟩
      · exact same
      · exact absurd takes stuck
    obtain ⟨⟨_, filter, filtered⟩, environment, nonzero, base, reading, moves⟩ :=
      set_port_ok succeeded
    obtain ⟨text, held, views⟩ := FileStore.reading_ok_iff.mp reading
    refine ⟨nonzero, text, base.editable, held, views.editable, fun reads other sets => ?_⟩
    obtain ⟨after, later_reading, same⟩ := moves reads
    have ready : Ready other setting.machine := by
      refine ⟨(congrArg other.unready environment).trans sets, filter, ?_⟩
      rw [filterOf, environment]
      exact filtered
    have later : Ends other setting.machine (run other setting.machine (.print path true))
        (verdict other setting.machine path) _ :=
      Ends.run (print_editable_ends other setting.machine path)
    have given : verdict other setting.machine path = .ok after := by
      rw [verdict, set_up_ok_iff.mpr ready]
      exact later_reading
    have there : after.editable.server.port = port := congrArg (·.server.port) same
    obtain ⟨left, unchanged⟩ := set_port_repeated ready later_reading (there ▸ nonzero)
    rw [there] at left unchanged
    refine ⟨fun shows => ?_, unchanged, left⟩
    rw [← same] at shows ⊢
    refine ⟨?_, later.texts after given shows⟩
    rw [later.code, code_printed_eq_zero_iff]
    exact ⟨after, given, shows⟩

/-- Where reading an override crashes, a file that can be read and edited neither passes a check nor
fails it, and so it is with printing it. -/
theorem commands_crash :
    (Session.ofPath Session.crashingMachine ⟨"config.yaml"⟩).store.readText = .ok "" ∧
      Config.ofYaml "" = .ok {} ∧
      (run .ordinary Session.crashingMachine (.check ⟨"config.yaml"⟩)).code = 101 ∧
      (run .ordinary Session.crashingMachine (.print ⟨"config.yaml"⟩ false)).code = 101 ∧
      (run .ordinary Session.crashingMachine (.print ⟨"config.yaml"⟩ true)).code = 101 := by
  obtain ⟨message, crashed⟩ : ∃ message,
      Config.runtimeOfYaml Session.crashingMachine.environment "" = .error (.crash message) :=
    ⟨_, rfl⟩
  have held : (Session.ofPath Session.crashingMachine ⟨"config.yaml"⟩).store.readText = .ok "" :=
    rfl
  have edited : Config.ofYaml "" = .ok {} := rfl
  have reading : (Session.ofPath Session.crashingMachine ⟨"config.yaml"⟩).store.reading =
      .panicked message :=
    FileStore.reading_panicked_iff.mpr ⟨"", held, ⟨⟨{}, edited⟩, crashed⟩⟩
  have ready : Ready .ordinary Session.crashingMachine := ⟨rfl, _, rfl⟩
  have code : ∀ line, codeOf (printed .ordinary
      (verdict .ordinary Session.crashingMachine ⟨"config.yaml"⟩) line) = 101 := fun line => by
    rw [verdict, set_up_ok_iff.mpr ready, printed, reading]
    rfl
  have checks : Ends .ordinary Session.crashingMachine (run _ _ (.check ⟨"config.yaml"⟩)) _ _ :=
    Ends.run (check_ends .ordinary Session.crashingMachine ⟨"config.yaml"⟩)
  have serves : Ends .ordinary Session.crashingMachine
      (run _ _ (.print ⟨"config.yaml"⟩ false)) _ _ :=
    Ends.run (print_runtime_ends .ordinary Session.crashingMachine ⟨"config.yaml"⟩)
  have edits : Ends .ordinary Session.crashingMachine
      (run _ _ (.print ⟨"config.yaml"⟩ true)) _ _ :=
    Ends.run (print_editable_ends .ordinary Session.crashingMachine ⟨"config.yaml"⟩)
  exact ⟨held, edited, checks.code.trans (code _), serves.code.trans (code _),
    edits.code.trans (code _)⟩

end Program

end LastGood
