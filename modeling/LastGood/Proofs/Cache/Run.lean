import Mathlib.Data.List.Induction
import LastGood.Proofs.Cache.Effect

/-!
# Runs of a cache

A run performs operations one after another on a cache that starts out empty, over any
store. An operation that fails or panics ends there and the next one follows; what it left
of the cache and of the store is where the next one starts.

What the store answered during a run is read off a run over the store that keeps its
answers. Both runs pass through the same caches and the same states of the store.
-/

namespace LastGood.Cache

variable {σ C π : Type} [Payload π]

/-- The cache and the state of its store after an operation, however it ended. -/
def next (store : Store σ C) (reached : Cache C π × σ) (operation : Operation C π) :
    Cache C π × σ :=
  let step := reached.1.perform store operation reached.2
  (step.cache, step.store)

/-- An empty cache and its store after operations, one after another. -/
def run (store : Store σ C) (start : σ) (operations : List (Operation C π)) : Cache C π × σ :=
  operations.foldl (next store) ({}, start)

/-- What the store answered during a run, in order. -/
def answersDuring (store : Store σ C) (start : σ) (operations : List (Operation C π)) :
    List (StoreAnswer C) :=
  (run store.recorded (start, []) operations).2.2

/-- A run goes on from where its beginning got to. -/
theorem run_append (store : Store σ C) (start : σ) (operations further : List (Operation C π)) :
    run store start (operations ++ further) =
      further.foldl (next store) (run store start operations) := by
  simp [run]

/-- A run with one operation more does that operation where the run got to. -/
theorem run_snoc (store : Store σ C) (start : σ) (operations : List (Operation C π))
    (operation : Operation C π) :
    run store start (operations ++ [operation]) =
      next store (run store start operations) operation := by
  simp [run]

/-- Over the store that keeps its answers a load goes as over the store itself, and its
answer is kept behind the others. -/
theorem reload_recorded (store : Store σ C) (state : σ) (before : List (StoreAnswer C))
    (cache : Cache C π) :
    cache.reload store.recorded (state, before) =
      { outcome := (cache.reload store state).outcome
        cache := (cache.reload store state).cache
        store := ((cache.reload store state).store,
          before ++ [.loaded (store.load state).outcome])
        events := (cache.reload store state).events } := by
  cases ended : (store.load state).outcome with
  | ok found =>
    cases found with
    | some snapshot => simp [reload, Store.recorded, ended]
    | none => simp [reload, Store.recorded, ended]
  | failed error => simp [reload, Store.recorded, ended]
  | panicked message => simp [reload, Store.recorded, ended]

/-- The same of a load into an empty cache. -/
theorem ensure_loaded_recorded (store : Store σ C) (state : σ) (before : List (StoreAnswer C))
    (cache : Cache C π) :
    cache.ensureLoaded store.recorded (state, before) =
      { outcome := (cache.ensureLoaded store state).outcome
        cache := (cache.ensureLoaded store state).cache
        store := ((cache.ensureLoaded store state).store,
          before ++ cache.answers store .ensureLoaded state)
        events := (cache.ensureLoaded store state).events } := by
  by_cases populated : cache.state.snapshot.isSome
  · simp [ensureLoaded, answers, populated]
  · simp [ensureLoaded, answers, populated, reload_recorded]

/-- The same of a locked write. -/
theorem write_with_lock_recorded (store : Store σ C) (command : Command C) (state : σ)
    (before : List (StoreAnswer C)) (cache : Cache C π) :
    cache.writeWithLock store.recorded command (state, before) =
      { outcome := (cache.writeWithLock store command state).outcome
        cache := (cache.writeWithLock store command state).cache
        store := ((cache.writeWithLock store command state).store,
          before ++ cache.answers store (.writeWithLock command) state)
        events := (cache.writeWithLock store command state).events } := by
  cases ended : (store.writeWithLock state command cache.state.snapshot).outcome <;>
    simp [writeWithLock, installCalled, Store.recorded, answers, ended]

/-- The same of a save. -/
theorem save_recorded (store : Store σ C) (content : String) (migrate : Bool) (state : σ)
    (before : List (StoreAnswer C)) (cache : Cache C π) :
    cache.save store.recorded content migrate (state, before) =
      { outcome := (cache.save store content migrate state).outcome
        cache := (cache.save store content migrate state).cache
        store := ((cache.save store content migrate state).store,
          before ++ cache.answers store (.save content migrate) state)
        events := (cache.save store content migrate state).events } := by
  cases ended : (store.write state content migrate).outcome <;>
    simp [save, installCalled, Store.recorded, answers, ended]

/-- Keeping the answers changes nothing else, and an operation adds the answers that it
asked for. -/
theorem next_recorded (store : Store σ C) (cache : Cache C π) (state : σ)
    (before : List (StoreAnswer C)) (operation : Operation C π) :
    next store.recorded (cache, (state, before)) operation =
      ((next store (cache, state) operation).1, ((next store (cache, state) operation).2,
        before ++ cache.answers store operation state)) := by
  cases operation with
  | reload => simp [next, perform, Step.map, reload_recorded, answers]
  | ensureLoaded => simp [next, perform, Step.map, ensure_loaded_recorded]
  | forEditing => simp [next, perform, Step.map, forEditing, ensure_loaded_recorded, answers]
  | writeWithLock command => simp [next, perform, Step.map, write_with_lock_recorded]
  | save content migrate => simp [next, perform, Step.map, save_recorded]
  | register listener =>
    cases installed : cache.state.snapshot <;>
      simp [next, perform, Step.map, register, installed, answers]
  | renotify => simp [next, perform, Step.map, renotify, Store.recorded, answers]
  | clearListeners => simp [next, perform, Step.map, clearListeners, answers]

/-- The run that keeps the answers passes through the caches and stores of the run itself. -/
theorem run_recorded (store : Store σ C) (start : σ) (operations : List (Operation C π)) :
    run store.recorded (start, []) operations =
      ((run store start operations).1, ((run store start operations).2,
        answersDuring store start operations)) := by
  induction operations using List.reverseRecOn with
  | nil => rfl
  | append_singleton operations operation ih =>
    rw [answersDuring, run_snoc, run_snoc, ih, next_recorded]

/-- One operation more adds the answers that it asks for where the run got to. -/
theorem answers_during_snoc (store : Store σ C) (start : σ) (operations : List (Operation C π))
    (operation : Operation C π) :
    answersDuring store start (operations ++ [operation]) =
      answersDuring store start operations ++
        (run store start operations).1.answers store operation (run store start operations).2 := by
  rw [answersDuring, run_snoc, run_recorded, next_recorded]

omit [Payload π] in
/-- No operation asks for more than one answer. -/
theorem answers_length_le (store : Store σ C) (operation : Operation C π) (state : σ)
    (cache : Cache C π) : (cache.answers store operation state).length ≤ 1 := by
  cases operation with
  | ensureLoaded | forEditing =>
    simp only [answers]
    split <;> simp
  | _ => simp [answers]

end LastGood.Cache
