import LastGood.Proofs.Cache.Trail
import LastGood.Proofs.Session.Shortcut

/-!
# Getting a configuration to edit

A session gives out the installed configuration for editing, if there is one, and asks nobody.
Otherwise it makes one attempt to load. As long as nothing was ever installed nothing is
remembered, so that attempt reads the file and never finds nothing new. Hence a refusal names
the failure of just that attempt, whatever failed before.
-/

namespace LastGood

variable {C : Type}

/-- A service that follows events adds no call to them. -/
theorem HealthService.calls_of_follow (service : HealthService) (events : List (CacheEvent C)) :
    callsOf (service.follow events).2 = callsOf events := by
  induction events generalizing service with
  | nil => rfl
  | cons event rest ih =>
    cases event with
    | reported report =>
      have followed : (service.follow (.reported report :: rest)).2 =
          .reported report :: ((service.update report).2.map .logged ++
            ((service.update report).1.follow rest).2) := rfl
      have silent : ∀ others : List (CacheEvent C),
          callsOf (.reported report :: others) = callsOf others := fun _ => rfl
      rw [followed, silent, silent, calls_append, calls_logged, ih, List.nil_append]
    | called call => exact congrArg (call :: ·) (ih service)
    | logged _ | delivered _ _ => exact ih service

namespace Session

/-- As long as nothing was installed a load reads the file, and never finds nothing new. -/
theorem InStep.load_reads {session : Session} (stepping : session.InStep)
    (empty : session.cache.state.snapshot = none) :
    session.store.load.outcome = session.store.reading.map some ∧
      session.store.load.outcome ≠ .ok none := by
  rcases FileStore.load_skips_or_reads session.store with
    ⟨text, _, remembered, _⟩ | ⟨reads, _⟩
  · obtain ⟨snapshot, shown, _⟩ := stepping _ remembered
    rw [shown] at empty
    cases empty
  · refine ⟨reads, ?_⟩
    rw [reads]
    exact Outcome.map_some_ne_none _

/-- What is given out for editing as long as nothing was installed is what comes of a load. -/
theorem for_editing_of_empty {session : Session} (empty : session.cache.state.snapshot = none) :
    (session.perform .forEditing).1 =
      match session.store.load.outcome with
      | .ok (some snapshot) => .ok (.config snapshot.editable)
      | .ok none => .failed (.ofEmptyCache session.cache.state.lastError)
      | .failed error => .failed (.notLoadedAfter error)
      | .panicked message => .panicked message := by
  have call : fileStore.load session.store = session.store.load := rfl
  have shown : (session.cache.ensureLoaded fileStore session.store).cache.state =
      session.cache.state.taking (.loaded session.store.load.outcome) := by
    simp [Cache.ensure_loaded_state, Cache.answers, empty, call]
  simp only [perform, Cache.perform, Step.map, Cache.for_editing_outcome, shown,
    Cache.ensure_loaded_outcome, Cache.reload_outcome, empty, call, Option.isSome_none,
    Bool.false_eq_true, if_false]
  cases session.store.load.outcome with
  | ok found =>
    cases found with
    | some snapshot => rfl
    | none =>
      have unseen : session.cache.state.taking (.loaded (.ok none)) = session.cache.state := rfl
      simp only [unseen, CacheState.editing, empty]
      rfl
  | failed error =>
    have seen : session.cache.state.taking (.loaded (.failed error)) =
        { session.cache.state with lastError := some error } := rfl
    simp only [seen, CacheState.editing, empty]
    rfl
  | panicked message => rfl

/-- What is given out for editing once something was installed is the installed configuration.
Nothing else happens. -/
theorem for_editing_of_installed {session : Session} {snapshot : Snapshot Config}
    (installed : session.cache.state.snapshot = some snapshot) :
    session.perform .forEditing = (.ok (.config snapshot.editable), session, []) := by
  have loaded : session.cache.ensureLoaded fileStore session.store =
      ⟨.ok (), session.cache, session.store, []⟩ := by
    simp only [Cache.ensureLoaded, installed, Option.isSome_some, if_true]
  simp only [perform, Cache.perform, Step.map, Cache.forEditing, loaded, installed]
  rfl

/-- Editing is refused for a reason only. Whatever the history of a session, once something was
installed the installed configuration is given out, without any call to the store.

As long as nothing was, one call is made, which is a load. It reads and parses the file, and does
not find nothing new. If it gives a snapshot, then that one's editable configuration is given out,
which the text of the file is read as. If it fails, editing is refused with just its error for a
cause. If it panics, which reading an override of the environment may do, so does getting a
configuration to edit, and readers see what they saw. So a refusal never lacks a cause. -/
theorem for_editing_refused_for_reason (machine : Machine) (path : Path)
    (history : List Happening) :
    let session := (ofPath machine path).course fileStore history
    let editing := session.perform .forEditing
    let load := session.store.load
    (∀ before rest : List Happening, history = before ++ rest →
      ((ofPath machine path).course fileStore before).cache.state.snapshot.isSome →
      ∃ snapshot, session.cache.state.snapshot = some snapshot ∧
        editing = (.ok (.config snapshot.editable), session, [])) ∧
    (session.cache.state.snapshot = none →
      callsOf editing.2.2 = [.load] ∧
      load.outcome = session.store.reading.map some ∧ load.outcome ≠ .ok none ∧
      (∀ snapshot, load.outcome = .ok (some snapshot) →
        editing.1 = .ok (.config snapshot.editable) ∧
        ∃ text, session.store.readText = .ok text ∧ Config.ofYaml text = .ok snapshot.editable) ∧
      (∀ error, load.outcome = .failed error → editing.1 = .failed (.notLoadedAfter error)) ∧
      ∀ message, load.outcome = .panicked message →
        editing.1 = .panicked message ∧ editing.2.1.cache.state = session.cache.state) ∧
    editing.1 ≠ .failed .notLoaded := by
  intro session editing load
  have stepping : session.InStep := course_in_step _ history fun sum unknown => by cases unknown
  have given : session.cache.state.snapshot = none → editing.1 = _ := for_editing_of_empty
  refine ⟨?installed, ?empty, ?caused⟩
  case installed =>
    intro before rest split earlier
    have populated : session.cache.state.snapshot.isSome := by
      simp only [session, split, course_append]
      exact course_populated _ rest earlier
    obtain ⟨snapshot, installed⟩ := Option.isSome_iff_exists.mp populated
    exact ⟨snapshot, installed, for_editing_of_installed installed⟩
  case empty =>
    intro empty
    obtain ⟨reads, new⟩ := stepping.load_reads empty
    refine ⟨?_, reads, new, ?_, ?_, ?_⟩
    · have calls := session.cache.perform_calls fileStore .forEditing session.store
      rw [empty] at calls
      exact (HealthService.calls_of_follow _ _).trans calls
    · intro snapshot loaded
      refine ⟨by rw [given empty, show session.store.load.outcome = _ from loaded], ?_⟩
      have ended := FileStore.load_end session.store
      rw [show session.store.load.outcome = _ from loaded] at ended
      generalize session.store.load.state = after at ended
      cases ended with
      | handedOut made unmoved =>
        obtain ⟨text, held, parsed⟩ := made.text
        refine ⟨text, ?_, ((FileStore.snapshot_of_ok_iff _ _ _).mp parsed).1⟩
        rw [← held]
        simp only [FileStore.readText, made.path, unmoved]
    · intro error failed
      rw [given empty, show session.store.load.outcome = _ from failed]
    · intro message panicked
      refine ⟨by rw [given empty, show session.store.load.outcome = _ from panicked], ?_⟩
      have shown := session.cache.perform_state fileStore .forEditing session.store
      rw [Cache.answers, empty] at shown
      exact shown.trans (congrArg (fun outcome => session.cache.state.taking (.loaded outcome))
        panicked)
  case caused =>
    cases installed : session.cache.state.snapshot with
    | some snapshot =>
      simp only [editing, for_editing_of_installed installed]
      exact fun refused => by cases refused
    | none =>
      obtain ⟨_, new⟩ := stepping.load_reads installed
      rw [given installed]
      cases ended : session.store.load.outcome with
      | ok found =>
        cases found with
        | some snapshot => exact fun refused => by cases refused
        | none => exact absurd ended new
      | failed error => exact fun refused => by cases refused
      | panicked message => exact fun refused => by cases refused

/-- Where reading an override crashes, getting a configuration to edit neither gives one out nor
is refused. -/
theorem for_editing_crashes :
    let session := ofPath crashingMachine ⟨"config.yaml"⟩
    session.cache.state.snapshot = none ∧
      (∀ answer, (session.perform .forEditing).1 ≠ .ok answer) ∧
      ∀ error, (session.perform .forEditing).1 ≠ .failed error := by
  intro session
  obtain ⟨message, crashed⟩ : ∃ message,
      Config.runtimeOfYaml crashingMachine.environment "" = .error (.crash message) := ⟨_, rfl⟩
  have held : (ofPath crashingMachine ⟨"config.yaml"⟩).store.readText = .ok "" := rfl
  have edited : Config.ofYaml "" = .ok {} := rfl
  have environment : session.store.machine.environment = crashingMachine.environment := rfl
  have loaded : session.store.load.outcome = .panicked message := by
    have unremembered : session.store.load.outcome = session.store.reading.map some :=
      (FileStore.load_forgetting session.store).1
    rw [unremembered, FileStore.reading_of_editable held edited, environment, crashed]
    rfl
  have ended : (session.perform .forEditing).1 = _ := for_editing_of_empty rfl
  rw [loaded] at ended
  refine ⟨rfl, ?_, ?_⟩
  · intro answer given
    cases ended.symm.trans given
  · intro error refused
    cases ended.symm.trans refused

end Session

end LastGood
