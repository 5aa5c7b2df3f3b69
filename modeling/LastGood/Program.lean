import LastGood.Cache.Operation
import LastGood.CommandLine
import LastGood.Host
import LastGood.Json
import LastGood.Log.Filter
import LastGood.Scheduler
import LastGood.Store.File
import LastGood.Watcher

/-!
# The program

Four commands work on one configuration file: one keeps its configuration fresh until it
is interrupted, one says whether it is valid, one prints it as JSON, and one changes the
port. A command ends with an exit code, with lines of output among which log records may
stand, and with the text of an error, if there is one. Only the last command changes the
disk.

Before anything is done the runtime and the filter of log records are set up. Where that fails,
where a reading of the environment does, or where the last line cannot be printed, the program
crashes.
-/

namespace LastGood

/-- The configuration file of a run: the cache in front of it and the health of both. -/
structure Session where
  /-- The file. -/
  store : FileStore
  /-- The cache. -/
  cache : Cache Config := {}
  /-- The health. -/
  health : HealthService := {}

namespace Session

/-- The session of a file. -/
def ofPath (machine : Machine) (path : Path) : Session := { store := { path, machine } }

/-- The session after an operation of the cache, with what happened during it. -/
def perform (session : Session) (operation : Operation Config) :
    Outcome (Answer Config) × Session × List (CacheEvent Config) :=
  let step := session.cache.perform fileStore operation session.store
  let (health, events) := session.health.follow step.events
  (step.outcome, { store := step.store, cache := step.cache, health }, events)

/-- Where the file is. -/
def location (session : Session) : Path := fileStore.location session.store

end Session

/-- A line of output. -/
inductive OutputLine where
  /-- A log record. -/
  | record (record : LogRecord)
  /-- A text. -/
  | text (text : String)
  deriving DecidableEq, Repr

/-- How a command ended. -/
structure Report where
  /-- The exit code. -/
  code : Nat
  /-- The output. -/
  lines : List OutputLine
  /-- The text of the error. -/
  errorText : Option String := none
  /-- The machine after it. -/
  machine : Machine

namespace Program

/-- Who writes the log records of the program itself. -/
def logTarget : String := "confcache"

/-- Indents the further lines of a text. -/
def indented (column : Nat) (text : String) : String :=
  String.ofList (text.toList.flatMap fun c =>
    if c == '\n' then '\n' :: List.replicate column ' ' else [c])

/-- One of several causes, with its number. -/
def numbered (number : Nat) (cause : String) : String :=
  let digits := toString number
  String.ofList (List.replicate (5 - digits.length) ' ') ++ digits ++ ": " ++ indented 7 cause

/-- Causes with their numbers, each on a new line. -/
def numberedCauses (number : Nat) : List String → String
  | [] => ""
  | cause :: rest => "\n" ++ numbered number cause ++ numberedCauses (number + 1) rest

/-- The text of an error with what caused it. -/
def errorText (message : String) (sources : List String) : String :=
  "Error: " ++ message ++
    (match sources with
     | [] => ""
     | [cause] => "\n\nCaused by:\n    " ++ indented 4 cause
     | causes => "\n\nCaused by:" ++ numberedCauses 0 causes) ++ "\n"

/-- The listener that logs every configuration. -/
def loggingListener : Listener Config := ⟨"logging", "logging", fun _ => .applied⟩

/-- The record of a configuration that was applied. -/
def appliedLog (config : Config) : LogRecord :=
  ⟨.info, logTarget, "configuration applied",
    [("host", .text config.server.host), ("port", .nat config.server.port.toNat),
      ("pipelines", .nat config.pipelines.length)]⟩

/-- What the program logs when something happens in its cache. -/
def recordOf? : CacheEvent Config → Option LogRecord
  | .logged record => some record
  | .delivered _ delivery => some (appliedLog delivery.config)
  | .called _ | .reported _ => none

/-- The filter of log records that a machine asks for, or the message of a crash. -/
def filterOf (machine : Machine) : Except String Log.Filter :=
  Log.filterOf (machine.environment.get? "RUST_LOG")

/-- Sets up the runtime and the filter, or gives the message of the crash. -/
def setUp (host : Host) (machine : Machine) : Except String Unit :=
  match host.unready machine.environment with
  | some message => .error message
  | none => (filterOf machine).map fun _ => ()

/-- The lines that a machine shows of some records. -/
def shown (machine : Machine) (records : List LogRecord) : List OutputLine :=
  match filterOf machine with
  | .ok filter => (Log.through filter records).map .record
  | .error _ => []

/-- The lines of what happened in a cache. -/
def linesOf (machine : Machine) (events : List (CacheEvent Config)) : List OutputLine :=
  shown machine (events.filterMap recordOf?)

/-- The report of a command that failed. -/
def failure (session : Session) (lines : List OutputLine) (message : String)
    (sources : List String := []) : Report :=
  { code := 1, lines, errorText := some (errorText message sources)
    machine := session.store.machine }

/-- The report of a command that failed with an error. -/
def failureOf (session : Session) (lines : List OutputLine) (error : ConfigError) : Report :=
  failure session lines error.message error.sources

/-- The report of a run that crashed on a machine. -/
def crashOn (machine : Machine) (lines : List OutputLine) (message : String) : Report :=
  { code := 101, lines, errorText := some message, machine }

/-- The report of a command that panicked. -/
def crash (session : Session) (lines : List OutputLine) (message : String) : Report :=
  crashOn session.store.machine lines message

/-- The report of a command that succeeded with a line of text, unless that line cannot be
    printed. -/
def success (host : Host) (session : Session) (lines : List OutputLine) (text : String) : Report :=
  match host.blocked text with
  | none => { code := 0, lines := lines ++ [.text text], machine := session.store.machine }
  | some reason => crash session lines (Host.printFault reason)

/-- Says whether a configuration is valid. -/
def check (host : Host) (machine : Machine) (path : Path) : Report :=
  let (outcome, session, events) := (Session.ofPath machine path).perform .reload
  let lines := linesOf machine events
  match outcome, session.cache.state.validity with
  | .panicked message, _ => crash session lines message
  | _, .valid => success host session lines (session.location.text ++ ": valid")
  | _, .invalid message =>
      failure session lines (session.location.text ++ ": invalid: " ++ message)

/-- The JSON text of a configuration. -/
def configText (config : Config) : String := Json.spread (config.toTree ())

/-- Prints a configuration, if it can be written down. -/
def printConfig (host : Host) (session : Session) (lines : List OutputLine) (config : Config) :
    Report :=
  match config.writtenBy configText with
  | .ok text => success host session lines text
  | .error reason => failure session lines reason

/-- Prints the configuration that is edited. -/
def printEditable (host : Host) (machine : Machine) (path : Path) : Report :=
  let (outcome, session, events) := (Session.ofPath machine path).perform .forEditing
  let lines := linesOf machine events
  match outcome with
  | .ok (.config config) => printConfig host session lines config
  | .ok _ => success host session lines ""
  | .failed error => failureOf session lines error
  | .panicked message => crash session lines message

/-- Prints the configuration that the server runs on. -/
def printRuntime (host : Host) (machine : Machine) (path : Path) : Report :=
  let (outcome, session, events) := (Session.ofPath machine path).perform .reload
  let lines := linesOf machine events
  match outcome, session.cache.state.validity with
  | .panicked message, _ => crash session lines message
  | _, .valid =>
      printConfig host session lines (session.cache.state.current fileStore.fallback)
  | _, .invalid message => failure session lines ("config error: " ++ message)

/-- Changes the port of a configuration. -/
def setPort (host : Host) (machine : Machine) (path : Path) (port : UInt16) : Report :=
  let (outcome, session, events) :=
    (Session.ofPath machine path).perform (.writeWithLock (Command.setServerPort port))
  let lines := linesOf machine events
  match outcome with
  | .ok (.saved state) =>
      success host session lines ("port " ++ toString port.toNat ++ ": " ++ state.name)
  | .ok _ => success host session lines ""
  | .failed error => failureOf session lines error
  | .panicked message => crash session lines message

/-- What keeps a configuration fresh. -/
structure Service where
  /-- The scheduler, with the file and its cache. -/
  scheduler : Scheduler FileStore Config
  /-- The health. -/
  health : HealthService
  /-- The watcher, if there is one that still reloads. -/
  watcher : Option Watcher

namespace Service

/-- The record of a start with a broken file. -/
def brokenStartLog (message : String) : LogRecord :=
  ⟨.warn, logTarget, "starting with an invalid configuration file", [("error", .text message)]⟩

/-- The record of a start. -/
def servingLog (location : Path) : LogRecord :=
  ⟨.info, logTarget, "confcache serving configuration", [("location", .text location.text)]⟩

/-- The record of an interrupt. -/
def shuttingDownLog : LogRecord := ⟨.info, logTarget, "shutting down", []⟩

/-- The session in front of which the service stands. -/
def session (service : Service) : Session :=
  ⟨service.scheduler.store, service.scheduler.cache, service.health⟩

/-- Starts to keep a loaded configuration fresh; `before` is what has happened so far.
    Nothing is kept fresh when the directory of the file cannot be watched, though that was
    asked for. -/
def startOn (machine : Machine) (loaded : Session) (interval : Interval) (watch : Bool)
    (before : List (CacheEvent Config)) : Except Report (Service × List OutputLine) :=
  let broken :=
    match loaded.cache.state.validity with
    | .valid => []
    | .invalid message => [CacheEvent.logged (brokenStartLog message)]
  let (scheduler, starting) := Scheduler.start fileStore interval loaded.cache loaded.store
  let (health, started) := loaded.health.follow starting
  let watcher := if watch then some (Watcher.ofStore fileStore loaded.store) else none
  let service : Service := { scheduler, health, watcher }
  let events := before ++ broken ++ started
  match watcher.bind fun watcher => watcher.refusal? machine with
  | some reason => .error (failure service.session (linesOf machine events) reason)
  | none =>
      let watching := watcher.toList.map fun watcher => CacheEvent.logged watcher.startedLog
      .ok (service, linesOf machine
        (events ++ watching ++ [.logged (servingLog service.session.location)]))

/-- Loads a configuration and starts to keep it fresh, unless the first load panics. -/
def startFrom (machine : Machine) (path : Path) (interval : Interval) (watch : Bool) :
    Except Report (Service × List OutputLine) :=
  let (_, joined, joining) :=
    (Session.ofPath machine path).perform (.register loggingListener)
  let (outcome, loaded, loading) := joined.perform .ensureLoaded
  match outcome with
  | .panicked message => .error (crash loaded (linesOf machine (joining ++ loading)) message)
  | _ => startOn machine loaded interval watch (joining ++ loading)

/-- Starts to keep a configuration fresh, unless that crashes. -/
def start (host : Host) (machine : Machine) (path : Path) (interval : Interval) (watch : Bool) :
    Except Report (Service × List OutputLine) :=
  match setUp host machine with
  | .error message => .error (crashOn machine [] message)
  | .ok () => startFrom machine path interval watch

/-- The service after some time on a machine on which others have worked. What they made
    known is seen to before reloads that are due. A reload that panics ends the watcher. -/
def pass (machine : Machine) (notices : List Notice) (nanos : Nat) (service : Service) :
    Service × List OutputLine :=
  let store := { service.scheduler.store with machine }
  let (cache, store, watcher, noticed) :=
    match service.watcher with
    | some watcher =>
        let watched : Watched FileStore Config :=
          { watcher, cache := service.scheduler.cache, store }
        let (settled, events) := watched.settle fileStore notices
        (settled.cache, settled.store, if settled.alive then some watcher else none, events)
    | none => (service.scheduler.cache, store, none, [])
  let (scheduler, due) :=
    { service.scheduler with cache, store }.receive fileStore (.pass nanos)
  let (health, events) := service.health.follow (noticed ++ due)
  ({ scheduler, health, watcher }, linesOf machine events)

/-- Ends a service. -/
def interrupt (service : Service) : Report :=
  let machine := service.scheduler.store.machine
  let (told, _) := service.scheduler.receive fileStore (.signal true)
  let (_, stopping) := told.receive fileStore .turn
  { code := 0, lines := linesOf machine (.logged shuttingDownLog :: stopping), machine }

end Service

/-- Keeps a configuration fresh and is interrupted at once. -/
def serve (host : Host) (machine : Machine) (path : Path) (interval : Interval) (watch : Bool) :
    Report :=
  match Service.start host machine path interval watch with
  | .ok (service, lines) =>
      let ended := service.interrupt
      { ended with lines := lines ++ ended.lines }
  | .error report => report

/-- Does what is asked for where all is set up. A service is interrupted as soon as it has
    started. -/
def perform (host : Host) (machine : Machine) : Request → Report
  | .serve path interval watch => serve host machine path interval watch
  | .check path => check host machine path
  | .print path true => printEditable host machine path
  | .print path false => printRuntime host machine path
  | .setPort path port => setPort host machine path port

/-- Does what is asked for, unless setting up crashes. -/
def run (host : Host) (machine : Machine) (request : Request) : Report :=
  match setUp host machine with
  | .error message => crashOn machine [] message
  | .ok () => perform host machine request

/-- The report of a call that is a misuse. That is found out once the runtime is set up. -/
def misuse (host : Host) (machine : Machine) : Report :=
  match host.unready machine.environment with
  | some message => crashOn machine [] message
  | none => { code := 2, lines := [], machine }

/-- Does what arguments ask for. -/
def call (machine : Machine) (arguments : List String) (host : Host := .ordinary) : Report :=
  match CommandLine.read arguments with
  | some invocation => run host machine invocation.request
  | none => misuse host machine

end Program

end LastGood
