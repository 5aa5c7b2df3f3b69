import LastGood.Cache.Operation

/-!
# States of a store that a cache cannot tell apart

Two states of a store may differ in what no call shows. If each call ends the same way from both,
logs the same, and leaves two states that again differ so, then no operation of a cache tells
them apart: it ends the same way, leaves the same cache, and the same happens during it.
-/

namespace LastGood

variable {σ C α β : Type}

/-- Two calls with the same outcome and the same log, which left related states. -/
structure Called.Alike (related : σ → σ → Prop) (called other : Called σ α) : Prop where
  /-- They ended the same way. -/
  outcome : called.outcome = other.outcome
  /-- The same was logged. -/
  logs : called.logs = other.logs
  /-- The states they left are related. -/
  state : related called.state other.state

/-- Two steps that are the same but for the states of the store, which are related. -/
structure Step.Alike (related : σ → σ → Prop) (step other : Step σ C α) : Prop where
  /-- They ended the same way. -/
  outcome : step.outcome = other.outcome
  /-- They left the same cache. -/
  cache : step.cache = other.cache
  /-- The same happened. -/
  events : step.events = other.events
  /-- The states they left are related. -/
  store : related step.store other.store

/-- Related states of a store cannot be told apart by calls, and calls leave them related. -/
structure Store.Bisimulation (store : Store σ C) (related : σ → σ → Prop) : Prop where
  /-- Loads are alike. -/
  load : ∀ {state other}, related state other →
    (store.load state).Alike related (store.load other)
  /-- Writes are alike. -/
  write : ∀ {state other} content migrate, related state other →
    (store.write state content migrate).Alike related (store.write other content migrate)
  /-- Locked writes are alike. -/
  lock : ∀ {state other} command base, related state other →
    (store.writeWithLock state command base).Alike related
      (store.writeWithLock other command base)
  /-- The configuration is kept at the same place. -/
  location : ∀ {state other}, related state other → store.location state = store.location other

/-- Steps that are alike still are with their answers replaced by others. -/
theorem Step.Alike.map {related : σ → σ → Prop} {step other : Step σ C α}
    (alike : step.Alike related other) (f : α → β) :
    (step.map f).Alike related (other.map f) :=
  ⟨congrArg (Outcome.map f) alike.outcome, alike.cache, alike.events, alike.store⟩

namespace Cache

variable {store : Store σ C} {related : σ → σ → Prop}

/-- A load does not tell related states apart. -/
theorem reload_alike (bisimilar : store.Bisimulation related) {state other : σ}
    (same : related state other) (cache : Cache C) :
    (cache.reload store state).Alike related (cache.reload store other) := by
  obtain ⟨outcome, logs, after⟩ := bisimilar.load same
  have location := bisimilar.location after
  simp only [reload, ← outcome, ← logs]
  cases (store.load state).outcome with
  | ok found =>
    cases found with
    | some snapshot => exact ⟨rfl, rfl, rfl, after⟩
    | none => exact ⟨rfl, rfl, rfl, after⟩
  | failed error =>
    simp only [← location]
    exact ⟨rfl, rfl, rfl, after⟩
  | panicked message => exact ⟨rfl, rfl, rfl, after⟩

/-- Loading into an empty cache does not tell related states apart. -/
theorem ensure_loaded_alike (bisimilar : store.Bisimulation related) {state other : σ}
    (same : related state other) (cache : Cache C) :
    (cache.ensureLoaded store state).Alike related (cache.ensureLoaded store other) := by
  unfold ensureLoaded
  split
  · exact ⟨rfl, rfl, rfl, same⟩
  · exact reload_alike bisimilar same cache

/-- What is given out for editing does not tell related states apart. -/
theorem for_editing_alike (bisimilar : store.Bisimulation related) {state other : σ}
    (same : related state other) (cache : Cache C) :
    (cache.forEditing store state).Alike related (cache.forEditing store other) := by
  obtain ⟨outcome, after, events, left⟩ := ensure_loaded_alike bisimilar same cache
  refine ⟨?_, after, events, left⟩
  simp only [forEditing, outcome, after]

/-- Installing what a call brought does not tell related states apart. -/
theorem install_called_alike {called other : Called σ α} (alike : called.Alike related other)
    (cache : Cache C) (call : StoreCall) (fields : α → List (String × FieldValue))
    (snapshot : α → Snapshot C) (answer : α → β) :
    (cache.installCalled call called fields snapshot answer).Alike related
      (cache.installCalled call other fields snapshot answer) := by
  obtain ⟨outcome, logs, after⟩ := alike
  simp only [installCalled, ← outcome, ← logs]
  cases called.outcome with
  | ok value => exact ⟨rfl, rfl, rfl, after⟩
  | failed error => exact ⟨rfl, rfl, rfl, after⟩
  | panicked message => exact ⟨rfl, rfl, rfl, after⟩

/-- No operation tells related states apart. -/
theorem perform_alike (bisimilar : store.Bisimulation related) {state other : σ}
    (same : related state other) (operation : Operation C) (cache : Cache C) :
    (cache.perform store operation state).Alike related
      (cache.perform store operation other) := by
  cases operation with
  | reload => exact (reload_alike bisimilar same cache).map _
  | ensureLoaded => exact (ensure_loaded_alike bisimilar same cache).map _
  | forEditing => exact (for_editing_alike bisimilar same cache).map _
  | writeWithLock command =>
    exact (install_called_alike (bisimilar.lock command _ same) cache _ _ _ _).map _
  | save content migrate =>
    exact (install_called_alike (bisimilar.write content migrate same) cache _ _ _ _).map _
  | register listener =>
    refine Step.Alike.map ?_ _
    unfold register
    cases cache.state.snapshot with
    | some snapshot => exact ⟨rfl, rfl, rfl, same⟩
    | none => exact ⟨rfl, rfl, rfl, same⟩
  | renotify => exact ⟨rfl, rfl, rfl, same⟩
  | clearListeners => exact ⟨rfl, rfl, rfl, same⟩

end Cache

end LastGood
