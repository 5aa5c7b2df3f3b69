import LastGood.Cache.Operation
import LastGood.Proofs.Store.Answer

/-!
# What operations do to a cache

Deliveries change nothing that a reader sees, whatever the listeners make of them. So an
operation changes what readers see by the answers of the store alone, one after another,
and each operation asks for at most one answer. The laws here say so for every operation,
every store and all listeners; later laws about runs need not look into operations again.

They hold whatever panics leave behind. Where that can be dropped without another panic, an
operation ends as the store and the state say, too.
-/

namespace LastGood

variable {σ C π α β : Type}

/-- What readers see after an answer of the store. -/
def CacheState.taking (state : CacheState C) (answer : StoreAnswer C) : CacheState C :=
  match answer.snapshot?, answer.loadFailure? with
  | some snapshot, _ => { snapshot := some snapshot, lastError := none }
  | none, some error => { state with lastError := some error }
  | none, none => state

/-- Taking the same answer once more changes nothing. -/
theorem CacheState.taking_twice (state : CacheState C) (answer : StoreAnswer C) :
    (state.taking answer).taking answer = state.taking answer := by
  unfold CacheState.taking
  cases answer.snapshot? with
  | some snapshot => rfl
  | none =>
    cases answer.loadFailure? with
    | some error => rfl
    | none => rfl

/-- Replacing a value twice is replacing it once. -/
theorem Outcome.map_map {γ : Type} (f : α → β) (g : β → γ) (outcome : Outcome α) :
    (outcome.map f).map g = outcome.map fun value => g (f value) := by
  cases outcome <;> rfl

/-- What a cache gives out for editing. -/
def CacheState.editing (state : CacheState C) : Outcome C :=
  match state.snapshot with
  | some snapshot => .ok snapshot.editable
  | none => .failed (.ofEmptyCache state.lastError)

namespace Cache

section

variable [Payload π]

/-- Notifying any listeners changes nothing that a reader sees. -/
@[simp] theorem notify_state (cache : Cache C π) (config : C) (listeners : List (Listener C π)) :
    (cache.notify config listeners).cache.state = cache.state := by
  induction listeners generalizing cache with
  | nil => rfl
  | cons listener rest ih =>
    simp only [notify]
    split
    · rfl
    · exact ih _

/-- After an install readers see the snapshot and no error. -/
@[simp] theorem install_state (cache : Cache C π) (snapshot : Snapshot C) :
    (cache.install snapshot).cache.state = { snapshot := some snapshot, lastError := none } := by
  simp [install]

/-- A load changes what readers see as its answer says. A panic of the store is an answer
that changes nothing. -/
theorem reload_state (store : Store σ C) (state : σ) (cache : Cache C π) :
    (cache.reload store state).cache.state =
      cache.state.taking (.loaded (store.load state).outcome) := by
  cases ended : (store.load state).outcome with
  | ok found =>
    cases found with
    | some snapshot => simp [reload, ended, CacheState.taking, StoreAnswer.snapshot?]
    | none => simp [reload, ended, CacheState.taking, StoreAnswer.snapshot?,
        StoreAnswer.loadFailure?]
  | failed error => simp [reload, ended, recordError, CacheState.taking,
      StoreAnswer.snapshot?, StoreAnswer.loadFailure?]
  | panicked message => simp [reload, ended, CacheState.taking, StoreAnswer.snapshot?,
      StoreAnswer.loadFailure?]

omit [Payload π] in
/-- Whoever is told does not end with an error. -/
theorem ending_not_failed (told : Told C π) (value : α) (error : ConfigError) :
    told.ending value ≠ .failed error := by
  unfold Told.ending
  cases told.escaped <;> exact nofun

/-- No load does. -/
theorem reload_not_failed (store : Store σ C) (state : σ) (cache : Cache C π)
    (error : ConfigError) : (cache.reload store state).outcome ≠ .failed error := by
  cases ended : (store.load state).outcome with
  | ok found =>
    cases found with
    | some snapshot =>
      simp only [reload, ended]
      exact ending_not_failed _ _ _
    | none => simp [reload, ended]
  | failed error => simp [reload, ended]
  | panicked message => simp [reload, ended]

/-- What is given out for editing is what the cache then has for it, unless the load panics. -/
theorem for_editing_outcome (store : Store σ C) (state : σ) (cache : Cache C π) :
    (cache.forEditing store state).outcome =
      (cache.ensureLoaded store state).outcome.andThen fun _ =>
        (cache.ensureLoaded store state).cache.state.editing := by
  have unfailed : ∀ error, (cache.ensureLoaded store state).outcome ≠ .failed error := by
    intro error
    unfold ensureLoaded
    split
    · exact nofun
    · exact reload_not_failed store state cache error
  unfold forEditing
  cases ended : (cache.ensureLoaded store state).outcome with
  | ok done =>
    simp only [ended]
    rfl
  | failed error => exact absurd ended (unfailed error)
  | panicked message =>
    simp only [ended]
    rfl

/-- The end of a call that may bring a snapshot decides alone what readers see after it. -/
theorem install_called_state (cache : Cache C π) (call : StoreCall) (called : Called σ α)
    (fields : α → List (String × FieldValue)) (snapshot : α → Snapshot C) (answer : α → β) :
    (cache.installCalled call called fields snapshot answer).cache.state =
      match called.outcome with
      | .ok value => { snapshot := some (snapshot value), lastError := none }
      | _ => cache.state := by
  cases ended : called.outcome with
  | ok value => simp [installCalled, ended]
  | failed error => simp [installCalled, ended]
  | panicked message => simp [installCalled, ended]

/-- A locked write changes what readers see as its answer says. -/
theorem write_with_lock_state (store : Store σ C) (command : Command C) (state : σ)
    (cache : Cache C π) :
    (cache.writeWithLock store command state).cache.state =
      cache.state.taking
        (.locked (store.writeWithLock state command cache.state.snapshot).outcome) := by
  rw [writeWithLock, install_called_state]
  cases (store.writeWithLock state command cache.state.snapshot).outcome <;> rfl

/-- A save changes what readers see as its answer says. -/
theorem save_state (store : Store σ C) (content : String) (migrate : Bool) (state : σ)
    (cache : Cache C π) :
    (cache.save store content migrate state).cache.state =
      cache.state.taking (.written (store.write state content migrate).outcome) := by
  rw [save, install_called_state]
  cases (store.write state content migrate).outcome <;> rfl

/-- A registration changes nothing that a reader sees. -/
theorem register_state (listener : Listener C π) (state : σ) (cache : Cache C π) :
    (cache.register listener state).cache.state = cache.state := by
  unfold register
  cases cache.state.snapshot <;> rfl

/-- The answers that an operation asks the store for: at most one. -/
def answers (store : Store σ C) (operation : Operation C π) (state : σ) (cache : Cache C π) :
    List (StoreAnswer C) :=
  match operation with
  | .reload => [.loaded (store.load state).outcome]
  | .ensureLoaded | .forEditing =>
      if cache.state.snapshot.isSome then [] else [.loaded (store.load state).outcome]
  | .writeWithLock command =>
      [.locked (store.writeWithLock state command cache.state.snapshot).outcome]
  | .save content migrate => [.written (store.write state content migrate).outcome]
  | .register _ | .renotify | .clearListeners => []

/-- Loading only into an empty cache changes what readers see as its answers say. -/
theorem ensure_loaded_state (store : Store σ C) (state : σ) (cache : Cache C π) :
    (cache.ensureLoaded store state).cache.state =
      (cache.answers store .ensureLoaded state).foldl CacheState.taking cache.state := by
  unfold ensureLoaded answers
  split
  · rfl
  · simp [reload_state]

/-- Every operation changes what readers see by the answers of the store, in order, and by
nothing else: not by listeners, and not by how the operation itself ends. -/
theorem perform_state (store : Store σ C) (operation : Operation C π) (state : σ)
    (cache : Cache C π) :
    (cache.perform store operation state).cache.state =
      (cache.answers store operation state).foldl CacheState.taking cache.state := by
  cases operation with
  | reload => exact reload_state store state cache
  | ensureLoaded => exact ensure_loaded_state store state cache
  | forEditing => exact ensure_loaded_state store state cache
  | writeWithLock command => exact write_with_lock_state store command state cache
  | save content migrate => exact save_state store content migrate state cache
  | register listener => exact register_state listener state cache
  | renotify => exact notify_state cache _ cache.listeners
  | clearListeners => rfl

/-- A call that may bring a snapshot decides alone how it leaves the store. -/
theorem install_called_store (cache : Cache C π) (call : StoreCall) (called : Called σ α)
    (fields : α → List (String × FieldValue)) (snapshot : α → Snapshot C) (answer : α → β) :
    (cache.installCalled call called fields snapshot answer).store = called.state := by
  cases ended : called.outcome <;> simp [installCalled, ended]

/-- A load leaves the store as its call did, however that ended. -/
theorem reload_store (store : Store σ C) (state : σ) (cache : Cache C π) :
    (cache.reload store state).store = (store.load state).state := by
  cases ended : (store.load state).outcome with
  | ok found => cases found <;> simp [reload, ended]
  | failed error => simp [reload, ended]
  | panicked message => simp [reload, ended]

/-- Loading only into an empty cache leaves the store of a populated one alone. -/
theorem ensure_loaded_store (store : Store σ C) (state : σ) (cache : Cache C π) :
    (cache.ensureLoaded store state).store =
      if cache.state.snapshot.isSome then state else (store.load state).state := by
  unfold ensureLoaded
  split
  · rfl
  · exact reload_store store state cache

/-- An operation leaves the store as its call did, and alone if it made none. -/
theorem perform_store (store : Store σ C) (operation : Operation C π) (state : σ)
    (cache : Cache C π) :
    (cache.perform store operation state).store =
      match operation with
      | .reload => (store.load state).state
      | .ensureLoaded | .forEditing =>
          if cache.state.snapshot.isSome then state else (store.load state).state
      | .writeWithLock command =>
          (store.writeWithLock state command cache.state.snapshot).state
      | .save content migrate => (store.write state content migrate).state
      | .register _ | .renotify | .clearListeners => state := by
  cases operation with
  | reload => exact reload_store store state cache
  | ensureLoaded => exact ensure_loaded_store store state cache
  | forEditing => exact ensure_loaded_store store state cache
  | writeWithLock command =>
    simp only [perform, Step.map, writeWithLock, install_called_store]
  | save content migrate => simp only [perform, Step.map, save, install_called_store]
  | register listener =>
    cases installed : cache.state.snapshot <;> simp [perform, Step.map, register, installed]
  | renotify => rfl
  | clearListeners => rfl

end

/-- What panics leave behind here can be dropped without another panic. -/
@[simp] theorem relapse_eq_none (reaction : Reaction) : reaction.relapse? = none := by
  cases reaction <;> rfl

/-- So nothing escapes a delivery. -/
@[simp] theorem deliver_escaped (cache : Cache C) (config : C) (listener : Listener C) :
    (cache.deliver config listener).escaped = none := relapse_eq_none _

/-- Nothing escapes telling listeners one after another. -/
@[simp] theorem notify_escaped (cache : Cache C) (config : C) (listeners : List (Listener C)) :
    (cache.notify config listeners).escaped = none := by
  induction listeners generalizing cache with
  | nil => rfl
  | cons listener rest ih => simp [notify, ih]

/-- Nothing escapes an install. -/
@[simp] theorem install_escaped (cache : Cache C) (snapshot : Snapshot C) :
    (cache.install snapshot).escaped = none := by
  simp [install]

/-- Only a panic of the store is an outcome of a load. -/
theorem reload_outcome (store : Store σ C) (state : σ) (cache : Cache C) :
    (cache.reload store state).outcome =
      match (store.load state).outcome with
      | .panicked message => .panicked message
      | _ => .ok () := by
  cases ended : (store.load state).outcome with
  | ok found => cases found <;> simp [reload, ended, Told.ending]
  | failed error => simp [reload, ended]
  | panicked message => simp [reload, ended]

/-- A load into an empty cache ends as a load, and nothing is loaded into any other. -/
theorem ensure_loaded_outcome (store : Store σ C) (state : σ) (cache : Cache C) :
    (cache.ensureLoaded store state).outcome =
      if cache.state.snapshot.isSome then .ok () else (cache.reload store state).outcome := by
  unfold ensureLoaded
  split <;> rfl

/-- A registration always succeeds. -/
theorem register_outcome (listener : Listener C) (state : σ) (cache : Cache C) :
    (cache.register listener state).outcome = .ok () := by
  cases installed : cache.state.snapshot <;> simp [register, installed, Told.ending]

/-- So does telling all listeners again. -/
theorem renotify_outcome (store : Store σ C) (state : σ) (cache : Cache C) :
    (cache.renotify store state).outcome = .ok () := by
  simp [renotify, Told.ending]

/-- A locked write ends as the store ended it, with the save state that the store gave. -/
theorem write_with_lock_outcome (store : Store σ C) (command : Command C) (state : σ)
    (cache : Cache C) :
    (cache.writeWithLock store command state).outcome =
      (store.writeWithLock state command cache.state.snapshot).outcome.map SaveResult.state := by
  cases ended : (store.writeWithLock state command cache.state.snapshot).outcome <;>
    simp [writeWithLock, installCalled, ended, Told.ending]

/-- A save ends as the store ended it. -/
theorem save_outcome (store : Store σ C) (content : String) (migrate : Bool) (state : σ)
    (cache : Cache C) :
    (cache.save store content migrate state).outcome =
      (store.write state content migrate).outcome.map fun _ => () := by
  cases ended : (store.write state content migrate).outcome <;>
    simp [save, installCalled, ended, Told.ending]

end Cache

end LastGood
