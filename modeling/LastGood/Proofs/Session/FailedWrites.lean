import LastGood.Proofs.Cache.Delivery
import LastGood.Proofs.Cache.HealthLog
import LastGood.Proofs.Session.Course
import LastGood.Proofs.Store.Leftover

/-!
# Writes that failed

A save or a locked write that does not succeed leaves the session as it was, except that the
second file may be another one. No operation tells the two apart, and no change from outside does
that spares the location of the second file. So whatever happens afterwards goes on as if the
write had never been tried.
-/

namespace LastGood

/-- A machine with a directory in the place of the file. -/
def Machine.ofDirectory : Machine where
  disk := ⟨[(["config.yaml"], .directory)]⟩

/-- An operation that writes. -/
inductive Operation.Writes {C : Type} : Operation C → Prop where
  /-- A save. -/
  | save (content : String) (migrate : Bool) : Writes (.save content migrate)
  /-- A locked write. -/
  | lock (command : Command C) : Writes (.writeWithLock command)

namespace Cache

variable {σ C α β : Type}

/-- A call that brings nothing leaves the cache as it is, and nothing happens but the call. -/
theorem install_called_failed {called : Called σ α}
    (failed : ∀ value, called.outcome ≠ .ok value) (cache : Cache C) (call : StoreCall)
    (fields : α → List (String × FieldValue)) (snapshot : α → Snapshot C) (answer : α → β) :
    cache.installCalled call called fields snapshot answer =
      ⟨called.outcome.map answer, cache, called.state,
        .called call :: called.logs.map .logged⟩ := by
  unfold installCalled
  cases ended : called.outcome with
  | ok value => exact absurd ended (failed value)
  | failed error => rfl
  | panicked message => rfl

variable {store : Store σ C} {state : σ} {cache : Cache C}

/-- A save that does not succeed calls the store in vain. -/
theorem write_of_failed_save {content : String} {migrate : Bool}
    (failed : ∀ answer, (cache.perform store (.save content migrate) state).outcome ≠ .ok answer)
    (snapshot : Snapshot C) : (store.write state content migrate).outcome ≠ .ok snapshot := by
  intro ended
  refine failed .done ?_
  simp only [perform, Step.map, save_outcome, ended, Outcome.map]

/-- A locked write that does not succeed calls the store in vain. -/
theorem lock_of_failed_write {command : Command C}
    (failed : ∀ answer, (cache.perform store (.writeWithLock command) state).outcome ≠ .ok answer)
    (result : SaveResult C) :
    (store.writeWithLock state command cache.state.snapshot).outcome ≠ .ok result := by
  intro ended
  refine failed (.saved result.state) ?_
  simp only [perform, Step.map, write_with_lock_outcome, ended, Outcome.map]

/-- A write that does not succeed leaves the cache as it is, and nothing happens but the call. -/
theorem perform_failed_write {operation : Operation C} (writes : operation.Writes)
    (failed : ∀ answer, (cache.perform store operation state).outcome ≠ .ok answer) :
    (cache.perform store operation state).cache = cache ∧
      ∃ (call : StoreCall) (records : List LogRecord),
        (cache.perform store operation state).events = .called call :: records.map .logged := by
  cases writes with
  | save content migrate =>
    simp only [perform, Step.map, save, install_called_failed (write_of_failed_save failed)]
    exact ⟨trivial, _, _, rfl⟩
  | lock command =>
    simp only [perform, Step.map, writeWithLock,
      install_called_failed (lock_of_failed_write failed)]
    exact ⟨trivial, _, _, rfl⟩

end Cache

namespace Session

/-- What stands at the path of the file. -/
def entry (session : Session) : Except DiskFault Item :=
  session.store.machine.disk.lookup session.store.machine.directory session.store.path

/-- Two sessions that show the same, and of which every operation gives the same answer while the
same happens. -/
structure Indistinct (session other : Session) : Prop where
  /-- The snapshot, the error and the listeners are the same. -/
  cache : session.cache = other.cache
  /-- The health is the same. -/
  health : session.health = other.health
  /-- The same checksum is remembered, if one is. -/
  remembered : session.store.remembered = other.store.remembered
  /-- The same stands at the path. -/
  entry : session.entry = other.entry
  /-- Operations end the same way. -/
  answer : ∀ operation, (session.perform operation).1 = (other.perform operation).1
  /-- The same happens during them. -/
  events : ∀ operation, (session.perform operation).2.2 = (other.perform operation).2.2

/-- Two sessions that differ at the location of the second file at most. -/
structure SameBeside (location : Location) (session other : Session) : Prop where
  /-- The cache is the same. -/
  cache : session.cache = other.cache
  /-- The health is the same. -/
  health : session.health = other.health
  /-- The stores differ there at most. -/
  store : session.store.SameBeside location other.store

/-- No session can be told from itself. -/
theorem Indistinct.refl (session : Session) : session.Indistinct session :=
  ⟨rfl, rfl, rfl, rfl, fun _ => rfl, fun _ => rfl⟩

namespace SameBeside

variable {location : Location} {session other : Session}

/-- An operation does not tell the sessions apart. -/
theorem step (beside : session.SameBeside location other) (operation : Operation Config) :
    (session.cache.perform fileStore operation session.store).Alike
      (FileStore.SameBeside location) (other.cache.perform fileStore operation other.store) := by
  rw [beside.cache]
  exact Cache.perform_alike (file_store_bisimulation location) beside.store operation other.cache

/-- The sessions cannot be told apart. -/
theorem indistinct (beside : session.SameBeside location other) : session.Indistinct other where
  cache := beside.cache
  health := beside.health
  remembered := beside.store.remembered.symm
  entry := beside.store.lookup.symm
  answer operation := (beside.step operation).outcome
  events operation := by
    have followed := congrArg (session.health.follow ·) (beside.step operation).events
    simp only [perform, ← beside.health]
    exact congrArg Prod.snd followed

/-- A happening that spares the location leaves the sessions as they are to each other. -/
theorem after (beside : session.SameBeside location other) {happening : Happening}
    (spared : ∀ change, happening = .disk change → Disk.Spares location change) :
    (session.after fileStore happening).SameBeside location (other.after fileStore happening) := by
  obtain ⟨cache, health, path, remembered, ⟨disks, directory, environment⟩, second⟩ := beside
  cases happening with
  | operation operation =>
    have step := step ⟨cache, health, path, remembered, ⟨disks, directory, environment⟩, second⟩
      operation
    refine ⟨step.cache, ?_, step.store⟩
    simp only [Session.after, performed, ← health]
    exact congrArg (fun events => (session.health.follow events).1) step.events
  | disk change =>
    exact ⟨cache, health, path, remembered, ⟨spared change rfl _ _ disks, directory, environment⟩,
      second⟩
  | environment environment =>
    exact ⟨cache, health, path, remembered, ⟨disks, directory, rfl⟩, second⟩

/-- So does a history all of whose changes of the disk spare the location. -/
theorem course (beside : session.SameBeside location other) {history : List Happening}
    (spared : ∀ change, .disk change ∈ history → Disk.Spares location change) :
    (session.course fileStore history).SameBeside location (other.course fileStore history) := by
  induction history using List.reverseRecOn with
  | nil => exact beside
  | append_singleton before happening ih =>
    rw [course_snoc, course_snoc]
    refine (ih fun change member => spared change (List.mem_append_left _ member)).after ?_
    rintro change rfl
    exact spared change (List.mem_append_right _ (List.mem_singleton_self _))

end SameBeside

/-- A write that does not succeed leaves the store as it was, or with another second file. -/
theorem failed_write_leaves {session : Session} {operation : Operation Config}
    (writes : operation.Writes)
    (failed : ∀ answer, (session.perform operation).1 ≠ .ok answer) :
    session.store.Leaves (session.performed fileStore operation).store := by
  have store : (session.performed fileStore operation).store = _ :=
    session.cache.perform_store fileStore operation session.store
  rw [store]
  cases writes with
  | save content migrate => exact FileStore.write_leaves (Cache.write_of_failed_save failed)
  | lock command => exact FileStore.lock_leaves (Cache.lock_of_failed_write failed)

/-- A failed write never happened. Whatever the history of a session, a save or a locked write
that fails or panics leaves the cache as it was, with its snapshot, its error and its listeners,
and the health, the remembered checksum and what stands at the path. Nothing is delivered during
it.

And nothing shows later that it was tried. From there on any operations, changes of the disk that
spare the location of the second file, and changes of the environment lead to a session that
cannot be told from the one they lead to without the failed write. -/
theorem failed_write_never_happened (machine : Machine) (path : Path) (history : List Happening)
    (operation : Operation Config) (writes : operation.Writes)
    (failed : ∀ answer,
      (((ofPath machine path).course fileStore history).perform operation).1 ≠ .ok answer) :
    let session := (ofPath machine path).course fileStore history
    let tried := session.performed fileStore operation
    (tried.cache = session.cache ∧ tried.health = session.health ∧
      tried.store.remembered = session.store.remembered ∧ tried.entry = session.entry ∧
      deliveriesOf (session.perform operation).2.2 = []) ∧
    ∀ later : List Happening,
      (∀ location, session.store.machine.disk.locate session.store.machine.directory
          session.store.temporaryPath = .ok location →
        ∀ change, .disk change ∈ later → Disk.Spares location change) →
      (tried.course fileStore later).Indistinct (session.course fileStore later) := by
  intro session tried
  obtain ⟨left, call, records, events⟩ := Cache.perform_failed_write writes failed
  have cache : tried.cache = session.cache := left
  have leaves := failed_write_leaves writes failed
  have unreported : reportsOf (session.cache.perform fileStore operation session.store).events =
      [] := by
    rw [events]
    exact reports_logged records
  have followed : session.health.follow
      (session.cache.perform fileStore operation session.store).events =
        (session.health, (session.cache.perform fileStore operation session.store).events) :=
    HealthService.follow_silent unreported
  have health : tried.health = session.health := congrArg Prod.fst followed
  have happened : (session.perform operation).2.2 = .called call :: records.map .logged :=
    (congrArg Prod.snd followed).trans events
  -- Either nothing at all has changed, or the two sessions differ at the second file.
  rcases leaves with same | ⟨location, located, beside⟩
  · have unchanged : tried = session := by
      calc
        tried = ⟨tried.store, tried.cache, tried.health⟩ := rfl
        _ = ⟨session.store, session.cache, session.health⟩ := by rw [cache, health, same]
        _ = session := rfl
    rw [unchanged]
    exact ⟨⟨rfl, rfl, rfl, rfl, happened ▸ deliveries_logged records⟩,
      fun later _ => .refl _⟩
  · have beside : tried.SameBeside location session := ⟨cache, health, beside⟩
    refine ⟨⟨cache, health, beside.indistinct.remembered, beside.indistinct.entry,
      happened ▸ deliveries_logged records⟩, ?_⟩
    intro later spared
    exact (beside.course (spared location located)).indistinct

/-- A directory is in the place of the file, so a save writes the second file and then fails. The
directory is removed and a file is put there, and a reload shows what it would show if the save
had not been tried. -/
theorem failed_save_over_directory :
    let session := (ofPath .ofDirectory ⟨"config.yaml"⟩).course fileStore [.operation .reload]
    let tried := session.performed fileStore (.save "" false)
    let later : List Happening :=
      [.disk ((Change.removeDirectory ⟨"config.yaml"⟩).onDisk .ofDirectory),
        .disk ((Change.put ⟨"config.yaml"⟩ "".toUTF8).onDisk .ofDirectory), .operation .reload]
    (∀ answer, (session.perform (.save "" false)).1 ≠ .ok answer) ∧
      (tried.store.machine.disk.get? ["config.yaml.tmp"]).isSome ∧
      (session.store.machine.disk.get? ["config.yaml.tmp"]).isNone ∧
      (tried.course fileStore later).cache = (session.course fileStore later).cache ∧
      (session.course fileStore later).cache.state.snapshot.isSome := by
  intro session tried later
  have failed : ∀ answer, (session.perform (.save "" false)).1 ≠ .ok answer := by
    have refused : (session.perform (.save "" false)).1.value?.isNone := by decide +kernel
    intro answer ended
    rw [ended] at refused
    cases refused
  have second : (session.store.machine.disk.locate session.store.machine.directory
      session.store.temporaryPath).toOption = some ["config.yaml.tmp"] := by decide +kernel
  have never := (failed_write_never_happened .ofDirectory ⟨"config.yaml"⟩ [.operation .reload]
    (.save "" false) (.save "" false) failed).2 later ?spared
  · exact ⟨failed, by decide +kernel, by decide +kernel, never.cache, by decide +kernel⟩
  case spared =>
    intro location located change member
    rw [located] at second
    cases second
    simp only [later, List.mem_cons, List.not_mem_nil, Happening.disk.injEq, reduceCtorEq,
      or_false] at member
    rcases member with rfl | rfl
    · refine Change.Avoids.spares ⟨by decide +kernel, ?_⟩
      rintro path same
      cases same
      decide +kernel
    · refine Change.Avoids.spares ⟨by decide +kernel, ?_⟩
      rintro path same
      cases same

end Session

end LastGood
