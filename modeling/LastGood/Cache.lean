import LastGood.Health
import LastGood.Store

/-!
# The cache

The cache serves the last configuration that a store handed out, and keeps apart from it
how the latest load ended: a configuration may well be served while its file is broken.
Whenever a snapshot is installed, every listener gets the configuration that the server
runs on; a listener that fails or panics is logged and changes nothing else. A load that
fails is reported and logged, and never takes a configuration away.

What a panic leaves behind is dropped once it was logged, and nothing catches a panic of that
drop: the operation ends with it, and the listeners behind are not told.

Each operation gives an outcome, the cache and the store after it, and what happened
during it, in order: calls to the store, log records, health reports, and deliveries.
-/

namespace LastGood

variable {σ C π α β : Type}

/-- What a reader of the cache can see. It is replaced as a whole. -/
structure CacheState (C : Type) where
  /-- The installed snapshot. -/
  snapshot : Option (Snapshot C) := none
  /-- How the latest load failed, unless a snapshot was installed since. -/
  lastError : Option ConfigError := none
  deriving DecidableEq, Repr

namespace CacheState

/-- The configuration that is served, given the one that is served by an empty cache. -/
def current (state : CacheState C) (fallback : C) : C :=
  match state.snapshot with
  | some snapshot => snapshot.runtime
  | none => fallback

/-- Whether the latest load failed. -/
def validity (state : CacheState C) : ConfigValidity :=
  match state.lastError with
  | some error => .invalid error.message
  | none => .valid

end CacheState

/-- A configuration on its way to a listener. -/
structure Delivery (C : Type) where
  /-- How many deliveries the cache has made before. -/
  ordinal : Nat
  /-- The configuration. -/
  config : C
  /-- What the cache shows at the time. -/
  shown : CacheState C
  deriving DecidableEq, Repr

/-- What a panic leaves behind can be told in the log, and is dropped then. -/
class Payload (π : Type) where
  /-- The message that is logged of it. -/
  message : π → String
  /-- The message of the panic of dropping it, if that panics. -/
  relapse? : π → Option String

/-- What a panic leaves behind that can be dropped without another one. -/
inductive PanicPayload where
  /-- A message. -/
  | text (message : String)
  /-- Anything else. -/
  | otherValue
  deriving DecidableEq, Repr

/-- The message of a panic. -/
def PanicPayload.message : PanicPayload → String
  | text message => message
  | otherValue => "non-string panic payload"

instance : Payload PanicPayload where
  message := PanicPayload.message
  relapse? _ := none

/-- How a listener took a delivery. -/
inductive Reaction (π : Type := PanicPayload) where
  /-- It applied the configuration. -/
  | applied
  /-- It failed. -/
  | failed (error : ConfigError)
  /-- It panicked. -/
  | panicked (payload : π)
  deriving DecidableEq, Repr

/-- The message of a panic of what a reaction leaves behind, once that is dropped. -/
def Reaction.relapse? [Payload π] : Reaction π → Option String
  | .panicked payload => Payload.relapse? payload
  | .applied | .failed _ => none

/-- Someone who wants to know of every configuration that is installed. -/
structure Listener (C : Type) (π : Type := PanicPayload) where
  /-- What tells it from other listeners. -/
  id : String
  /-- What it is called in the log. -/
  name : String
  /-- How it takes a delivery. -/
  react : Delivery C → Reaction π

/-- A call to a store, without its outcome. -/
inductive StoreCall where
  /-- A load. -/
  | load
  /-- A write. -/
  | write (content : String) (migrate : Bool)
  /-- A locked write on the snapshot with this checksum, if on one. -/
  | lock (base : Option String)
  deriving DecidableEq, Repr

/-- What happens while the cache works. -/
inductive CacheEvent (C : Type) where
  /-- The store is called. -/
  | called (call : StoreCall)
  /-- A record is logged. -/
  | logged (record : LogRecord)
  /-- The health of the configuration is reported. -/
  | reported (state : HealthState)
  /-- A listener gets a configuration. -/
  | delivered (listener : String) (delivery : Delivery C)
  deriving Repr

/-- The cache of a configuration. -/
structure Cache (C : Type) (π : Type := PanicPayload) where
  /-- What readers see. -/
  state : CacheState C := {}
  /-- The listeners, in the order of their registration. -/
  listeners : List (Listener C π) := []
  /-- How many deliveries were made. -/
  deliveries : Nat := 0

/-- What telling listeners amounts to. -/
structure Told (C : Type) (π : Type := PanicPayload) where
  /-- The cache after it. -/
  cache : Cache C π
  /-- What happened, in order. -/
  events : List (CacheEvent C) := []
  /-- The message of the panic that cut it off, if one did. -/
  escaped : Option String := none

/-- A value, unless telling listeners was cut off. -/
def Told.ending (told : Told C π) (value : α) : Outcome α :=
  match told.escaped with
  | none => .ok value
  | some message => .panicked message

/-- What an operation of the cache amounts to. -/
structure Step (σ C α : Type) (π : Type := PanicPayload) where
  /-- How it ended. -/
  outcome : Outcome α
  /-- The cache after it. -/
  cache : Cache C π
  /-- The state of the store after it. -/
  store : σ
  /-- What happened during it. -/
  events : List (CacheEvent C) := []

namespace Cache

variable [Payload π]

/-- Who writes the log records of the cache. -/
def logTarget : String := "confcache_core::cache"

/-- The record of a reaction that went wrong. -/
def reactionLog (name : String) : Reaction π → List LogRecord
  | .applied => []
  | .failed error =>
      [⟨.error, logTarget, "failed to fire config changed event for listener",
        [("listener", .text name), ("error", .text error.message)]⟩]
  | .panicked payload =>
      [⟨.error, logTarget, "config changed listener panicked",
        [("listener", .text name), ("panic", .text (Payload.message payload))]⟩]

/-- Delivers a configuration to one listener. -/
def deliver (cache : Cache C π) (config : C) (listener : Listener C π) : Told C π :=
  let delivery : Delivery C := ⟨cache.deliveries, config, cache.state⟩
  let reaction := listener.react delivery
  { cache := { cache with deliveries := cache.deliveries + 1 }
    events := .delivered listener.id delivery :: (reactionLog listener.name reaction).map .logged
    escaped := reaction.relapse? }

/-- Delivers a configuration to some listeners, one after another. -/
def notify (cache : Cache C π) (config : C) : List (Listener C π) → Told C π
  | [] => { cache }
  | listener :: rest =>
      let told := cache.deliver config listener
      match told.escaped with
      | some _ => told
      | none =>
          let others := told.cache.notify config rest
          { others with events := told.events ++ others.events }

/-- The record before listeners are notified. -/
def notifyingLog (checksum : String) (count : Nat) : LogRecord :=
  ⟨.info, logTarget, "about to notify config listeners",
    [("checksum", .text checksum), ("listeners", .nat count)]⟩

/-- The record after listeners were notified. -/
def notifiedLog : LogRecord := ⟨.info, logTarget, "finished notifying all listeners", []⟩

/-- Installs a snapshot and tells all listeners. -/
def install (cache : Cache C π) (snapshot : Snapshot C) : Told C π :=
  let shown := { cache with state := { snapshot := some snapshot, lastError := none } }
  let told := shown.notify snapshot.runtime shown.listeners
  let finished :=
    match told.escaped with
    | none => [.logged notifiedLog]
    | some _ => []
  { told with
    events := .reported (.success .invalidConfig) ::
      .logged (notifyingLog snapshot.checksum cache.listeners.length) :: told.events ++ finished }

/-- The record of a load that failed. -/
def failureLog (location : Path) (error : ConfigError) (servesPrevious : Bool) : LogRecord :=
  ⟨.warn, logTarget, "error loading configuration, keeping previous one",
    [("location", .text location.text), ("error", .text error.message),
      ("serving_previous", .bool servesPrevious)]⟩

/-- Records that a load failed. -/
def recordError (cache : Cache C π) (location : Path) (error : ConfigError) :
    Cache C π × List (CacheEvent C) :=
  ({ cache with state := { cache.state with lastError := some error } },
    [.logged (failureLog location error cache.state.snapshot.isSome),
      .reported (.error .invalidConfig invalidConfiguration error.message)])

/-- The record of a load that gave nothing new. -/
def nothingNewLog : LogRecord := ⟨.debug, logTarget, "store reported no new configuration", []⟩

/-- Loads the configuration. Only a panic is an outcome of its own. -/
def reload (store : Store σ C) (state : σ) (cache : Cache C π) : Step σ C Unit π :=
  let called := store.load state
  let before := .called .load :: called.logs.map .logged
  match called.outcome with
  | .ok (some snapshot) =>
      let told := cache.install snapshot
      ⟨told.ending (), told.cache, called.state, before ++ told.events⟩
  | .ok none => ⟨.ok (), cache, called.state, before ++ [.logged nothingNewLog]⟩
  | .failed error =>
      let (recorded, events) := cache.recordError (store.location called.state) error
      ⟨.ok (), recorded, called.state, before ++ events⟩
  | .panicked message => ⟨.panicked message, cache, called.state, before⟩

/-- Loads the configuration if none was ever installed. -/
def ensureLoaded (store : Store σ C) (state : σ) (cache : Cache C π) : Step σ C Unit π :=
  if cache.state.snapshot.isSome then ⟨.ok (), cache, state, []⟩ else cache.reload store state

/-- The configuration to edit. It is loaded if none was ever installed. -/
def forEditing (store : Store σ C) (state : σ) (cache : Cache C π) : Step σ C C π :=
  let loaded := cache.ensureLoaded store state
  { loaded with
    outcome :=
      match loaded.outcome with
      | .panicked message => .panicked message
      | _ =>
          match loaded.cache.state.snapshot with
          | some snapshot => .ok snapshot.editable
          | none => .failed (.ofEmptyCache loaded.cache.state.lastError) }

/-- The record of a configuration that was persisted. -/
def savingLog (fields : List (String × FieldValue)) : LogRecord :=
  ⟨.debug, logTarget, "[config save] saving config to the cache", fields⟩

/-- Installs the snapshot that a call to the store gave, if it gave one. -/
def installCalled (cache : Cache C π) (call : StoreCall) (called : Called σ α)
    (fields : α → List (String × FieldValue)) (snapshot : α → Snapshot C) (answer : α → β) :
    Step σ C β π :=
  let before := .called call :: called.logs.map .logged
  match called.outcome with
  | .ok value =>
      let told := cache.install (snapshot value)
      ⟨told.ending (answer value), told.cache, called.state,
        before ++ .logged (savingLog (fields value)) :: told.events⟩
  | .failed error => ⟨.failed error, cache, called.state, before⟩
  | .panicked message => ⟨.panicked message, cache, called.state, before⟩

/-- Runs a command on the installed snapshot and installs the result. -/
def writeWithLock (store : Store σ C) (command : Command C) (state : σ) (cache : Cache C π) :
    Step σ C SaveState π :=
  let base := cache.state.snapshot
  cache.installCalled (.lock (base.map Snapshot.checksum)) (store.writeWithLock state command base)
    (fun result => [("state", .text result.state.name)]) SaveResult.snapshot SaveResult.state

/-- Replaces the persisted configuration by a text and installs it. -/
def save (store : Store σ C) (content : String) (migrate : Bool) (state : σ)
    (cache : Cache C π) : Step σ C Unit π :=
  cache.installCalled (.write content migrate) (store.write state content migrate)
    (fun _ => []) id (fun _ => ())

/-- Adds a listener, and tells it the configuration that is served, if one was ever
    installed. -/
def register (listener : Listener C π) (state : σ) (cache : Cache C π) : Step σ C Unit π :=
  let joined := { cache with listeners := cache.listeners ++ [listener] }
  match cache.state.snapshot with
  | some snapshot =>
      let told := joined.deliver snapshot.runtime listener
      ⟨told.ending (), told.cache, state, told.events⟩
  | none => ⟨.ok (), joined, state, []⟩

/-- Tells all listeners the configuration that is served. -/
def renotify (store : Store σ C) (state : σ) (cache : Cache C π) : Step σ C Unit π :=
  let told := cache.notify (cache.state.current store.fallback) cache.listeners
  ⟨told.ending (), told.cache, state, told.events⟩

/-- Drops all listeners. -/
def clearListeners (state : σ) (cache : Cache C π) : Step σ C Unit π :=
  ⟨.ok (), { cache with listeners := [] }, state, []⟩

end Cache

end LastGood
