import Mathlib.Data.List.Induction
import LastGood.Program
import LastGood.Proofs.Cache.Effect
import LastGood.Proofs.Cache.Reports
import LastGood.Proofs.Store.FileCalls

/-!
# The course of a session

Between two operations of a session others may do anything to the disk, and the environment
may become another one. A history is a list of such happenings, and a session takes its
course over it. Courses are defined for every store that keeps its configuration in the file
of the session, because the file store is compared with another one.

One operation over the file store does one of four things to the cache and the store. All
that is said of whole courses follows from these four.
-/

namespace LastGood

/-- A machine with nothing but an empty file. -/
def Machine.ofEmptyFile : Machine where
  disk := ⟨[(["config.yaml"], .file "".toUTF8)]⟩

/-- A new store of an empty file. -/
def FileStore.ofEmptyFile : FileStore := { path := ⟨"config.yaml"⟩, machine := Machine.ofEmptyFile }

/-- What happens to a session. -/
inductive Happening where
  /-- An operation of the cache. -/
  | operation (operation : Operation Config)
  /-- Others change the disk, in whatever way. -/
  | disk (change : Disk → Disk)
  /-- The environment becomes another one. -/
  | environment (environment : Environment)

/-- Texts among which no two have one checksum. -/
def CollisionFree (texts : String → Prop) : Prop :=
  ∀ text other : String, texts text → texts other → checksum text = checksum other → text = other

/-- Two texts with different checksums are told apart. -/
theorem collision_free_of_two {texts : String → Prop} {first second : String}
    (apart : checksum first ≠ checksum second)
    (two : ∀ {text}, texts text → text = first ∨ text = second) : CollisionFree texts := by
  intro text other held held' same
  rcases two held with rfl | rfl <;> rcases two held' with rfl | rfl
  · rfl
  · exact absurd same apart
  · exact absurd same.symm apart
  · rfl

/-- A locked write shows what a write does that brings its snapshot. -/
theorem CacheState.taking_locked {C : Type} (state : CacheState C)
    (outcome : Outcome (SaveResult C)) :
    state.taking (.locked outcome) = state.taking (.written (outcome.map SaveResult.snapshot)) := by
  cases outcome <;> rfl

namespace Session

/-- The session on a disk that others have changed. -/
def onDisk (session : Session) (disk : Disk) : Session :=
  { session with
    store := { session.store with machine := session.store.machine.withDisk disk } }

/-- The session in another environment. -/
def inEnvironment (session : Session) (environment : Environment) : Session :=
  { session with
    store := { session.store with machine := { session.store.machine with environment } } }

/-- The session after an operation over some store. -/
def performed (store : Store FileStore Config) (session : Session)
    (operation : Operation Config) : Session :=
  let step := session.cache.perform store operation session.store
  { store := step.store, cache := step.cache, health := (session.health.follow step.events).1 }

/-- The session after a happening. -/
def after (store : Store FileStore Config) (session : Session) : Happening → Session
  | .operation operation => session.performed store operation
  | .disk change => session.onDisk (change session.store.machine.disk)
  | .environment environment => session.inEnvironment environment

/-- The session after a history. -/
def course (store : Store FileStore Config) (session : Session) (history : List Happening) :
    Session :=
  history.foldl (after store) session

/-- A longer history starts with the shorter one. -/
theorem course_append (store : Store FileStore Config) (session : Session)
    (history further : List Happening) :
    session.course store (history ++ further) =
      (session.course store history).course store further := by
  simp [course]

/-- One happening more happens where the others got to. -/
theorem course_snoc (store : Store FileStore Config) (session : Session)
    (history : List Happening) (happening : Happening) :
    session.course store (history ++ [happening]) =
      (session.course store history).after store happening := by
  simp [course]

/-- The file held a text at some moment of a course: before the first happening, between two
of them, or after the last one. -/
def HeldDuring (session : Session) (history : List Happening) (text : String) : Prop :=
  ∃ before rest, history = before ++ rest ∧
    (session.course fileStore before).store.readText = .ok text

/-- What a longer course has held at its end it has held. -/
theorem held_at {session : Session} {history before rest : List Happening} {text : String}
    (split : history = before ++ rest)
    (held : (session.course fileStore before).store.readText = .ok text) :
    session.HeldDuring history text :=
  ⟨before, rest, split, held⟩

/-- A longer course holds what a shorter one held. -/
theorem held_longer {session : Session} {history : List Happening} {text : String}
    (further : List Happening) (held : session.HeldDuring history text) :
    session.HeldDuring (history ++ further) text := by
  obtain ⟨before, rest, rfl, holds⟩ := held
  exact ⟨before, rest ++ further, List.append_assoc .., holds⟩

/-- What was held during a longer course was held during its first part or the rest. -/
theorem held_append {session : Session} {history further : List Happening} {text : String}
    (held : session.HeldDuring (history ++ further) text) :
    session.HeldDuring history text ∨
      (session.course fileStore history).HeldDuring further text := by
  obtain ⟨before, rest, split, holds⟩ := held
  rcases List.append_eq_append_iff.mp split with ⟨others, rfl, rfl⟩ | ⟨others, rfl, rfl⟩
  · rw [course_append] at holds
    exact .inr ⟨others, rest, rfl, holds⟩
  · exact .inl ⟨before, others, rfl, holds⟩

/-- During no history the file holds its text. -/
theorem held_nil {session : Session} {text : String} (held : session.HeldDuring [] text) :
    session.store.readText = .ok text := by
  obtain ⟨before, rest, split, holds⟩ := held
  obtain ⟨rfl, rfl⟩ := List.append_eq_nil_iff.mp split.symm
  exact holds

/-- During a history the file holds its text before the first happening, and what it holds during
the rest. -/
theorem held_cons {session : Session} {happening : Happening} {history : List Happening}
    {text : String} (held : session.HeldDuring (happening :: history) text) :
    session.store.readText = .ok text ∨
      (session.after fileStore happening).HeldDuring history text := by
  obtain ⟨before, rest, split, holds⟩ := held
  cases before with
  | nil => exact .inl holds
  | cons first before =>
    obtain ⟨rfl, ends⟩ := List.cons.inj split
    exact .inr ⟨before, rest, ends, holds⟩

/-- A reload leaves the text of the file. -/
theorem reload_read_text (session : Session) :
    (session.performed fileStore .reload).store.readText = session.store.readText :=
  (congrArg FileStore.readText (session.cache.perform_store fileStore .reload session.store)).trans
    (FileStore.load_read_text session.store)

/-- A reload alone is a course with one text at most. -/
theorem reload_distinct (session : Session) :
    CollisionFree (session.HeldDuring [.operation .reload]) := by
  have held_before : ∀ text : String, session.HeldDuring [.operation .reload] text →
      session.store.readText = .ok text := by
    intro text held
    rcases held_cons held with now | held
    · exact now
    · exact (reload_read_text session).symm.trans (held_nil held)
  intro text other held held' _
  exact Except.ok.inj ((held_before text held).symm.trans (held_before other held'))

/-- What one operation over the file store does to a session, given the answers of the store
during it. -/
inductive Turn (before : Session) (answers : List (StoreAnswer Config)) (after : Session) :
    Prop where
  /-- The store handed out the snapshot of what the file holds now, and it is installed. -/
  | handedOut {snapshot : Snapshot Config}
      (brought : answers.filterMap StoreAnswer.snapshot? = [snapshot])
      (made : before.store.HandsOut after.store snapshot)
      (shown : after.cache.state = ⟨some snapshot, none⟩)
  /-- The installed snapshot was handed back, and is installed again. -/
  | handedBack {snapshot : Snapshot Config}
      (given : before.cache.state.snapshot = some snapshot)
      (shown : after.cache.state = ⟨some snapshot, none⟩)
      (store : after.store = before.store.remembering snapshot.checksum)
  /-- A load failed. -/
  | loadFailed {error : ConfigError}
      (shown : after.cache.state = { before.cache.state with lastError := some error })
      (store : after.store = before.store.forgetting)
  /-- Readers see what they saw, and the file still holds what it held. -/
  | left (shown : after.cache.state = before.cache.state)
      (text : before.store.LeavesText after.store)

namespace Turn

variable {before after : Session} {answers : List (StoreAnswer Config)}

/-- Nothing is done where no call is made to the store. -/
theorem of_no_call (store : after.store = before.store)
    (shown : after.cache.state = before.cache.state) : Turn before answers after := by
  refine .left shown ?_
  rw [store]
  exact FileStore.LeavesText.unmoved before.store

/-- A load ends in one of the four ways. -/
theorem of_load (store : after.store = before.store.load.state)
    (shown : after.cache.state =
      before.cache.state.taking (.loaded before.store.load.outcome)) :
    Turn before [.loaded before.store.load.outcome] after := by
  have ended := FileStore.load_end before.store
  generalize before.store.load.outcome = outcome at ended shown
  generalize before.store.load.state = state at ended store
  cases ended with
  | handedOut made machine => exact .handedOut rfl (store ▸ made) shown
  | known held remembered => exact .of_no_call store shown
  | failed => exact .loadFailed shown store
  | panicked => exact .of_no_call store shown

/-- A call that writes ends in one of the four ways. -/
theorem of_write {base : Option (Snapshot Config)} {outcome : Outcome (Snapshot Config)}
    {state : FileStore} (ended : FileStore.WriteEnd before.store base outcome state)
    (store : after.store = state)
    (based : ∀ snapshot, base = some snapshot → before.cache.state.snapshot = some snapshot)
    (brought : answers.filterMap StoreAnswer.snapshot? = outcome.value?.toList)
    (shown : after.cache.state = before.cache.state.taking (.written outcome)) :
    Turn before answers after := by
  cases ended with
  | handedOut made => exact .handedOut brought (store ▸ made) shown
  | handedBack given => exact .handedBack (based _ given) shown store
  | failed text => exact .left shown (store ▸ text)
  | panicked => exact .of_no_call store shown

/-- No operation moves the file or changes the environment. -/
theorem surroundings (turned : Turn before answers after) :
    before.store.SameSurroundings after.store := by
  cases turned with
  | handedOut brought made shown => exact made.toSameSurroundings
  | handedBack given shown store =>
    rw [store]
    exact ⟨rfl, rfl, rfl⟩
  | loadFailed shown store =>
    rw [store]
    exact ⟨rfl, rfl, rfl⟩
  | left shown text => exact text.toSameSurroundings

/-- No operation empties a cache. -/
theorem populated (turned : Turn before answers after)
    (installed : before.cache.state.snapshot.isSome) : after.cache.state.snapshot.isSome := by
  cases turned with
  | handedOut brought made shown => simp [shown]
  | handedBack given shown store => simp [shown]
  | loadFailed shown store => simpa [shown] using installed
  | left shown text => simpa [shown] using installed

end Turn

/-- Every operation over the file store does one of the four things. -/
theorem turn (session : Session) (operation : Operation Config) :
    Turn session (session.cache.answers fileStore operation session.store)
      (session.performed fileStore operation) := by
  have shown := session.cache.perform_state fileStore operation session.store
  have store := session.cache.perform_store fileStore operation session.store
  cases operation with
  | reload => exact .of_load store shown
  | ensureLoaded | forEditing =>
    by_cases populated : session.cache.state.snapshot.isSome
    · simp only [Cache.answers, populated, if_true] at shown store
      exact .of_no_call store shown
    · simp only [Cache.answers, populated] at shown store ⊢
      exact .of_load store shown
  | writeWithLock command =>
    have ended := FileStore.lock_end session.store command session.cache.state.snapshot
    refine .of_write ended store (fun _ same => same) ?_ (shown.trans ?_)
    · simp only [Cache.answers, fileStore]
      cases (session.store.writeWithLock command session.cache.state.snapshot).outcome <;> rfl
    · simp only [Cache.answers, List.foldl_cons, List.foldl_nil]
      exact CacheState.taking_locked _ _
  | save content migrate =>
    have ended := FileStore.write_end session.store content migrate
    refine .of_write ended store ?_ ?_ shown
    · intro snapshot impossible
      cases impossible
    · simp only [Cache.answers, fileStore]
      cases (session.store.write content migrate).outcome <;> rfl
  | register listener => exact .of_no_call store shown
  | renotify => exact .of_no_call store shown
  | clearListeners => exact .of_no_call store shown

/-- The file of a session stays at its path, seen from the same directory. -/
theorem course_place (session : Session) (history : List Happening) :
    (session.course fileStore history).store.path = session.store.path ∧
      (session.course fileStore history).store.machine.directory =
        session.store.machine.directory := by
  induction history using List.reverseRecOn with
  | nil => exact ⟨rfl, rfl⟩
  | append_singleton before happening ih =>
    rw [course_snoc]
    cases happening with
    | operation operation =>
      have same := (turn (session.course fileStore before) operation).surroundings
      exact ⟨same.path.trans ih.1, same.directory.trans ih.2⟩
    | disk change => exact ih
    | environment environment => exact ih

/-- The environment stays as it is unless it becomes another one. -/
theorem course_environment (session : Session) (history : List Happening)
    (steady : ∀ environment, Happening.environment environment ∉ history) :
    (session.course fileStore history).store.machine.environment =
      session.store.machine.environment := by
  induction history using List.reverseRecOn with
  | nil => rfl
  | append_singleton before happening ih =>
    rw [course_snoc]
    have earlier := ih fun environment member =>
      steady environment (List.mem_append_left _ member)
    cases happening with
    | operation operation =>
      have same := (turn (session.course fileStore before) operation).surroundings
      exact same.environment.trans earlier
    | disk change => exact earlier
    | environment environment => exact absurd (by simp) (steady environment)

/-- No history empties a cache. -/
theorem course_populated (session : Session) (history : List Happening)
    (installed : session.cache.state.snapshot.isSome) :
    (session.course fileStore history).cache.state.snapshot.isSome := by
  induction history using List.reverseRecOn with
  | nil => exact installed
  | append_singleton before happening ih =>
    rw [course_snoc]
    cases happening with
    | operation operation => exact (turn _ operation).populated ih
    | disk change => exact ih
    | environment environment => exact ih

/-- Health that showed what readers saw shows what they see after any history, over every
store. -/
theorem course_health (store : Store FileStore Config) (session : Session)
    (history : List Happening) (shown : session.health = session.cache.state.health) :
    (session.course store history).health =
      (session.course store history).cache.state.health := by
  induction history using List.reverseRecOn with
  | nil => exact shown
  | append_singleton before happening ih =>
    rw [course_snoc]
    cases happening with
    | operation operation =>
      simp only [after, performed, ih]
      exact Cache.perform_health store operation _ _
    | disk change => exact ih
    | environment environment => exact ih

/-- What the store of a session remembers is the checksum of the installed snapshot, and no
error is pending. -/
def InStep (session : Session) : Prop :=
  ∀ sum : String, session.store.remembered = some sum →
    ∃ snapshot : Snapshot Config, session.cache.state = ⟨some snapshot, none⟩ ∧
      snapshot.checksum = sum

/-- An operation over the file store keeps store and cache in step. -/
theorem Turn.in_step {before after : Session} {answers : List (StoreAnswer Config)}
    (turned : Turn before answers after) (stepping : before.InStep) : after.InStep := by
  intro sum remembered
  cases turned with
  | handedOut brought made shown =>
    exact ⟨_, shown, Option.some.inj (made.remembered.symm.trans remembered)⟩
  | handedBack given shown store =>
    rw [store] at remembered
    exact ⟨_, shown, Option.some.inj remembered⟩
  | loadFailed shown store =>
    rw [store] at remembered
    cases remembered
  | left shown text =>
    rw [shown]
    exact stepping sum (text.remembered.symm.trans remembered)

/-- Store and cache stay in step over every history. -/
theorem course_in_step (session : Session) (history : List Happening)
    (stepping : session.InStep) : (session.course fileStore history).InStep := by
  induction history using List.reverseRecOn with
  | nil => exact stepping
  | append_singleton before happening ih =>
    rw [course_snoc]
    cases happening with
    | operation operation => exact (turn _ operation).in_step ih
    | disk change => exact ih
    | environment environment => exact ih

end Session

end LastGood
