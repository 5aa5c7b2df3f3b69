import LastGood.Proofs.Cache.Effect

/-!
# What a cache reports

An operation reports health exactly as the answers of the store ask for: an answer with a
snapshot leads to a good report, a failed load to a bad one, and every other answer to
none. There is one scope only, so the latest report is all that a health service keeps.

Hence a service that is told everything always shows what readers of the cache see, and
two caches that show the same have the same health.
-/

namespace LastGood

variable {σ C π α β : Type}

/-- The report that an answer leads to, if it leads to one. -/
def StoreAnswer.report? (answer : StoreAnswer C) : Option HealthState :=
  match answer.snapshot?, answer.loadFailure? with
  | some _, _ => some (.success .invalidConfig)
  | none, some error => some (.error .invalidConfig invalidConfiguration error.message)
  | none, none => none

/-- The reports among some events, in order. -/
def reportsOf : List (CacheEvent C) → List HealthState
  | [] => []
  | .reported report :: rest => report :: reportsOf rest
  | _ :: rest => reportsOf rest

/-- The reports of two stretches of events are those of the first and of the second. -/
@[simp] theorem reports_append (events others : List (CacheEvent C)) :
    reportsOf (events ++ others) = reportsOf events ++ reportsOf others := by
  induction events with
  | nil => rfl
  | cons event rest ih => cases event <;> simp [reportsOf, ih]

/-- Log records are no reports. -/
@[simp] theorem reports_logged (records : List LogRecord) :
    reportsOf (records.map CacheEvent.logged : List (CacheEvent C)) = [] := by
  induction records with
  | nil => rfl
  | cons record rest ih => simpa [reportsOf] using ih

namespace HealthService

/-- As all scopes are one, a report replaces whatever was reported before. -/
theorem update_reports (service : HealthService) (report : HealthState) :
    (service.update report).1 = ⟨[report]⟩ := by
  have single : ∀ other : HealthState, other.scope = report.scope := by
    intro other
    cases other.scope
    cases report.scope
    rfl
  have replaced : service.reports.filter (fun other => other.scope != report.scope) = [] := by
    rw [List.filter_eq_nil_iff]
    intro other _
    simp [single other]
  simp only [update, replaced, List.nil_append]

/-- Following events takes in the reports among them, in order, and nothing else. -/
theorem follow_reports (service : HealthService) (events : List (CacheEvent C)) :
    (service.follow events).1 =
      (reportsOf events).foldl (fun reached report => (reached.update report).1) service := by
  induction events generalizing service with
  | nil => rfl
  | cons event rest ih => cases event <;> simp [follow, ih, reportsOf]

end HealthService

namespace Cache

variable [Payload π]

/-- Deliveries report nothing. -/
@[simp] theorem notify_reports (cache : Cache C π) (config : C) (listeners : List (Listener C π)) :
    reportsOf (cache.notify config listeners).events = [] := by
  induction listeners generalizing cache with
  | nil => rfl
  | cons listener rest ih =>
    simp only [notify]
    split
    · simp [deliver, reportsOf]
    · simp [deliver, ih, reportsOf]

/-- An install makes one good report. -/
@[simp] theorem install_reports (cache : Cache C π) (snapshot : Snapshot C) :
    reportsOf (cache.install snapshot).events = [.success .invalidConfig] := by
  simp only [install]
  split <;> simp [reportsOf]

/-- A load reports as its answer asks for. -/
theorem reload_reports (store : Store σ C) (state : σ) (cache : Cache C π) :
    reportsOf (cache.reload store state).events =
      (StoreAnswer.loaded (store.load state).outcome).report?.toList := by
  cases ended : (store.load state).outcome with
  | ok found =>
    cases found with
    | some snapshot => simp [reload, ended, reportsOf, StoreAnswer.report?,
        StoreAnswer.snapshot?]
    | none => simp [reload, ended, reportsOf, StoreAnswer.report?, StoreAnswer.snapshot?,
        StoreAnswer.loadFailure?]
  | failed error => simp [reload, ended, recordError, reportsOf, StoreAnswer.report?,
      StoreAnswer.snapshot?, StoreAnswer.loadFailure?]
  | panicked message => simp [reload, ended, reportsOf, StoreAnswer.report?,
      StoreAnswer.snapshot?, StoreAnswer.loadFailure?]

/-- A call that may bring a snapshot makes a good report if it returns one. -/
theorem install_called_reports (cache : Cache C π) (call : StoreCall) (called : Called σ α)
    (fields : α → List (String × FieldValue)) (snapshot : α → Snapshot C) (answer : α → β) :
    reportsOf (cache.installCalled call called fields snapshot answer).events =
      match called.outcome with
      | .ok _ => [.success .invalidConfig]
      | _ => [] := by
  cases ended : called.outcome with
  | ok value => simp [installCalled, ended, reportsOf]
  | failed error => simp [installCalled, ended, reportsOf]
  | panicked message => simp [installCalled, ended, reportsOf]

/-- Every operation reports as the answers of the store ask for, in their order. -/
theorem perform_reports (store : Store σ C) (operation : Operation C π) (state : σ)
    (cache : Cache C π) :
    reportsOf (cache.perform store operation state).events =
      (cache.answers store operation state).filterMap StoreAnswer.report? := by
  have loading : reportsOf (cache.ensureLoaded store state).events =
      (cache.answers store .ensureLoaded state).filterMap StoreAnswer.report? := by
    by_cases populated : cache.state.snapshot.isSome
    · simp [ensureLoaded, answers, populated, reportsOf]
    · simp [ensureLoaded, answers, populated, reload_reports, List.filterMap_cons]
      cases (StoreAnswer.loaded (store.load state).outcome).report? <;> rfl
  cases operation with
  | reload =>
    refine (reload_reports store state cache).trans ?_
    simp only [answers, List.filterMap_cons, List.filterMap_nil]
    cases (StoreAnswer.loaded (store.load state).outcome).report? <;> rfl
  | ensureLoaded => exact loading
  | forEditing => exact loading
  | writeWithLock command =>
    simp only [perform, Step.map, writeWithLock, install_called_reports, answers]
    cases (store.writeWithLock state command cache.state.snapshot).outcome <;> rfl
  | save content migrate =>
    simp only [perform, Step.map, save, install_called_reports, answers]
    cases (store.write state content migrate).outcome <;> rfl
  | register listener =>
    cases installed : cache.state.snapshot <;>
      simp [perform, Step.map, register, installed, deliver, answers, reportsOf]
  | renotify => exact notify_reports cache _ cache.listeners
  | clearListeners => rfl

end Cache

/-- The health of a cache that shows this: no report before the first load that brought or
failed to bring a snapshot, and then whether there is an error. -/
def CacheState.health (state : CacheState C) : HealthService :=
  match state.lastError, state.snapshot with
  | some error, _ => ⟨[.error .invalidConfig invalidConfiguration error.message]⟩
  | none, some _ => ⟨[.success .invalidConfig]⟩
  | none, none => ⟨[]⟩

/-- The report that an answer leads to brings the health up to what readers see. -/
theorem CacheState.taking_health (state : CacheState C) (answer : StoreAnswer C) :
    (answer.report?.toList.foldl (fun reached report => (reached.update report).1)
      state.health) = (state.taking answer).health := by
  unfold taking StoreAnswer.report?
  cases answer.snapshot? with
  | some snapshot => exact HealthService.update_reports ..
  | none =>
    cases answer.loadFailure? with
    | some error => exact HealthService.update_reports ..
    | none => rfl

/-- A service that showed what readers saw, and follows an operation, shows what they see
then. -/
theorem Cache.perform_health (store : Store σ C) (operation : Operation C) (state : σ)
    (cache : Cache C) :
    (cache.state.health.follow (cache.perform store operation state).events).1 =
      (cache.perform store operation state).cache.state.health := by
  rw [HealthService.follow_reports, Cache.perform_reports, Cache.perform_state]
  -- An operation has a list of answers, so this is an induction over what one answer does.
  generalize cache.answers store operation state = answers
  generalize cache.state = shown
  induction answers generalizing shown with
  | nil => rfl
  | cons answer rest ih =>
    rw [List.foldl_cons, ← ih, ← CacheState.taking_health, List.filterMap_cons]
    cases answer.report? <;> rfl

end LastGood
