import LastGood.Cache
import LastGood.Machine.Change
import LastGood.Text.Quoted

/-!
# The watcher

The watcher reloads a cache when the file behind it is made known to have been created or
modified. What is watched is the directory of the file, so that a file that takes its
place is noticed, too. Of several notices that have arrived one reload takes care, and a
notice that arrives during a reload causes another one.
-/

namespace LastGood

variable {σ C : Type}

/-- A watcher of a file. -/
structure Watcher where
  /-- The path of the file, from the root. -/
  path : Path
  deriving DecidableEq, Repr

namespace Watcher

/-- Who writes the log records of the watcher. -/
def logTarget : String := "confcache_core::watcher"

/-- The watcher of the file where a store keeps its configuration. -/
def ofStore (store : Store σ C) (state : σ) : Watcher := ⟨store.location state⟩

/-- The directory that is watched. -/
def directory (watcher : Watcher) : Path :=
  match watcher.path.parent? with
  | some parent => if parent.text == "" then ⟨"."⟩ else parent
  | none => ⟨"."⟩

/-- Why the directory cannot be watched, if it cannot. -/
def refusal? (watcher : Watcher) (machine : Machine) : Option String :=
  match machine.disk.lookup machine.directory watcher.directory with
  | .ok _ => none
  | .error fault =>
      let reason := if fault = .missing then "No path was found." else fault.text
      some (reason ++ " about [" ++ Text.quoted watcher.directory.text ++ "]")

/-- Whether a notice asks for a reload: something was created or modified, and one of its
    paths has the name of the file. -/
def isRelevant (watcher : Watcher) (notice : Notice) : Bool :=
  (notice.kind == .created || notice.kind == .modified) &&
    notice.paths.any fun path => path.fileName? == watcher.path.fileName?

/-- Whether a notice is about an entry of the directory that is watched. -/
def reaches (watcher : Watcher) (machine : Machine) (notice : Notice) : Bool :=
  let place (path : Path) := (machine.disk.locate machine.directory path).toOption
  notice.paths.any fun path =>
    match path.parent? with
    | some parent => (place parent).isSome && place parent == place watcher.directory
    | none => false

/-- The record of the start. -/
def startedLog (watcher : Watcher) : LogRecord :=
  ⟨.info, logTarget, "config watcher started", [("path", .text watcher.path.text)]⟩

/-- The record of a reload. -/
def reloadingLog : LogRecord :=
  ⟨.info, logTarget, "config file change detected, reloading", []⟩

end Watcher

/-- What the loop of a watcher is doing. -/
inductive WatchPhase (σ C : Type) where
  /-- It waits for a notice that asks for a reload. -/
  | waiting
  /-- It has taken such a notice, and takes the others that have arrived. -/
  | draining
  /-- It reloads, and has not called the store yet. -/
  | reloading
  /-- It reloads, and the store has answered. -/
  | answered (called : Called σ (Option (Snapshot C)))

/-- A cache with a watcher that reloads it. -/
structure Watched (σ C : Type) where
  /-- The watcher. -/
  watcher : Watcher
  /-- How many notices that ask for a reload have arrived and were not taken. -/
  pending : Nat := 0
  /-- What the loop is doing. -/
  phase : WatchPhase σ C := .waiting
  /-- Whether the watcher still reloads; a panic ends that. -/
  alive : Bool := true
  /-- The cache. -/
  cache : Cache C
  /-- The state of the store behind it. -/
  store : σ

namespace Watched

/-- A notice arrives. -/
def notice (watched : Watched σ C) (notice : Notice) : Watched σ C :=
  if watched.watcher.isRelevant notice then { watched with pending := watched.pending + 1 }
  else watched

/-- The loop takes the first notice of a burst, if it waits for one. -/
def receive (watched : Watched σ C) : Watched σ C :=
  match watched.alive, watched.phase, watched.pending with
  | true, .waiting, count + 1 => { watched with pending := count, phase := .draining }
  | _, _, _ => watched

/-- The loop takes another notice of a burst. -/
def drain (watched : Watched σ C) : Watched σ C :=
  match watched.phase, watched.pending with
  | .draining, count + 1 => { watched with pending := count }
  | _, _ => watched

/-- The loop starts to reload, once it has taken all notices that have arrived. -/
def startReload (watched : Watched σ C) : Watched σ C × List (CacheEvent C) :=
  match watched.phase, watched.pending with
  | .draining, 0 => ({ watched with phase := .reloading }, [.logged Watcher.reloadingLog])
  | _, _ => (watched, [])

/-- The reload calls the store. -/
def callStore (store : Store σ C) (watched : Watched σ C) : Watched σ C :=
  match watched.phase with
  | .reloading =>
      let called := store.load watched.store
      { watched with store := called.state, phase := .answered called }
  | _ => watched

/-- The reload ends with what the store has answered, whatever has happened to its state since.
    The loop waits again, unless the reload panicked. -/
def endReload (store : Store σ C) (watched : Watched σ C) : Watched σ C × List (CacheEvent C) :=
  match watched.phase with
  | .answered called =>
      let step := watched.cache.reload { store with load := fun _ => called } watched.store
      let alive :=
        match step.outcome with
        | .panicked _ => false
        | _ => watched.alive
      ({ watched with cache := step.cache, phase := .waiting, alive }, step.events)
  | _ => (watched, [])

/-- Notices arrive and the loop takes care of them before anything else happens. -/
def settle (store : Store σ C) (watched : Watched σ C) (notices : List Notice) :
    Watched σ C × List (CacheEvent C) :=
  let noticed := notices.foldl Watched.notice watched
  let (started, starting) := (Nat.repeat drain noticed.pending noticed.receive).startReload
  let (ended, events) := (started.callStore store).endReload store
  (ended, starting ++ events)

end Watched

end LastGood
