import LastGood.Proofs.Cache.LastKnownGood
import LastGood.Proofs.Cache.Reports
import LastGood.Proofs.Cache.Trail

/-!
# Health and validity

A cache knows whether its latest load failed, and so does the health service that it reports
to. The two are told of it apart from each other. A service that follows everything that
happens in a cache, and nothing else, always says of health what the cache says of validity,
and logs every change of it, once.

The service logs as it takes in reports. An operation makes at most one report, and what is
logged of that is decided by validity before and after the operation. Along a run the logged
changes then come in turn, because a change leads to the opposite of what was before it.
-/

namespace LastGood

variable {σ C : Type}

/-- The record that an event is, if it is one. -/
def CacheEvent.record? : CacheEvent C → Option LogRecord
  | .logged record => some record
  | _ => none

/-- The log records among some events, in order. -/
def recordsOf (events : List (CacheEvent C)) : List LogRecord :=
  events.filterMap CacheEvent.record?

namespace HealthService

/-- The record of a change for the worse. -/
def degradedLog : LogRecord :=
  ⟨.warn, logTarget, "health degraded", [("scope", .text HealthScope.invalidConfig.display)]⟩

/-- The record of a change for the better. -/
def recoveredLog : LogRecord :=
  ⟨.info, logTarget, "health recovered", [("scope", .text HealthScope.invalidConfig.display)]⟩

/-- What a service logs of some reports, one after another. -/
def notes (service : HealthService) : List HealthState → List LogRecord
  | [] => []
  | report :: rest => (service.update report).2 ++ (service.update report).1.notes rest

/-- Notes of two stretches of reports are those of the first and, from where that led, of the
second. -/
theorem notes_append (service : HealthService) (reports others : List HealthState) :
    service.notes (reports ++ others) =
      service.notes reports ++
        (reports.foldl (fun reached report => (reached.update report).1) service).notes others := by
  induction reports generalizing service with
  | nil => rfl
  | cons report rest ih => simp [notes, ih]

/-- What a service logs of a report it logs in its own name. -/
theorem target_of_update {service : HealthService} {report : HealthState} {record : LogRecord}
    (logged : record ∈ (service.update report).2) : record.target = logTarget := by
  simp only [update, changeLog] at logged
  split at logged
  · rw [List.mem_singleton.mp logged]
  · rw [List.mem_singleton.mp logged]
  · cases logged

/-- Events without reports are followed as they are. -/
theorem follow_silent {service : HealthService} {events : List (CacheEvent C)}
    (silent : reportsOf events = []) : service.follow events = (service, events) := by
  induction events with
  | nil => rfl
  | cons event rest ih =>
    cases event with
    | reported report => cases silent
    | _ => simp only [follow, ih silent]

/-- Following goes on from where it got to. -/
theorem follow_append (service : HealthService) (events others : List (CacheEvent C)) :
    service.follow (events ++ others) =
      (((service.follow events).1.follow others).1,
        (service.follow events).2 ++ ((service.follow events).1.follow others).2) := by
  induction events generalizing service with
  | nil => rfl
  | cons event rest ih => cases event <;> simp [follow, ih]

/-- Notes of a single report stand in one place among the events that are followed. -/
theorem follow_single (service : HealthService) {events : List (CacheEvent C)}
    (few : (reportsOf events).length ≤ 1) :
    ∃ opening closing, events = opening ++ closing ∧
      (service.follow events).2 =
        opening ++ (service.notes (reportsOf events)).map .logged ++ closing := by
  induction events with
  | nil => exact ⟨[], [], rfl, rfl⟩
  | cons event rest ih =>
    cases event with
    | reported report =>
      have silent : reportsOf rest = [] := List.eq_nil_of_length_eq_zero (by
        simp only [reportsOf, List.length_cons] at few
        omega)
      refine ⟨[.reported report], rest, rfl, ?_⟩
      simp [follow, follow_silent silent, reportsOf, silent, notes]
    | called _ | logged _ | delivered _ _ =>
      obtain ⟨opening, closing, split, followed⟩ := ih few
      refine ⟨_ :: opening, closing, congrArg (_ :: ·) split, ?_⟩
      simp only [follow, followed, reportsOf, List.cons_append]

/-- Where nobody else logs in its name, the records of a service among the events that it
follows are its notes. -/
theorem own_records_of_follow (service : HealthService) {events : List (CacheEvent C)}
    (foreign : ∀ record ∈ recordsOf events, record.target ≠ logTarget) :
    (recordsOf (service.follow events).2).filter (fun record => record.target == logTarget) =
      service.notes (reportsOf events) := by
  induction events generalizing service with
  | nil => rfl
  | cons event rest ih =>
    cases event with
    | reported report =>
      have own : (service.update report).2.filter (fun record => record.target == logTarget) =
          (service.update report).2 :=
        List.filter_eq_self.mpr fun record logged => beq_iff_eq.mpr (target_of_update logged)
      have logs : ∀ (records : List LogRecord) (others : List (CacheEvent C)),
          recordsOf (records.map .logged ++ others) = records ++ recordsOf others := by
        intro records others
        simp [recordsOf, List.filterMap_map, Function.comp_def, CacheEvent.record?]
      have followed : (service.follow (.reported report :: rest)).2 =
          .reported report :: ((service.update report).2.map .logged ++
            ((service.update report).1.follow rest).2) := rfl
      have silent : ∀ others : List (CacheEvent C),
          recordsOf (.reported report :: others) = recordsOf others := fun _ => rfl
      rw [followed, silent, logs, List.filter_append, own, ih _ foreign]
      rfl
    | logged record =>
      have first : (record.target == logTarget) = false :=
        beq_false_of_ne (foreign record (List.mem_cons_self ..))
      have later := ih service fun other member => foreign other (List.mem_cons_of_mem _ member)
      exact (List.filter_cons_of_neg (by simpa using first)).trans later
    | called _ | delivered _ _ => exact ih service foreign

end HealthService

/-- What is logged when validity changes. Another message of a failure is no change. -/
def ConfigValidity.changeLog (before after : ConfigValidity) : List LogRecord :=
  match before.isValid, after.isValid with
  | true, false => [HealthService.degradedLog]
  | false, true => [HealthService.recoveredLog]
  | _, _ => []

/-- Validity that stays leaves nothing to log. -/
@[simp] theorem ConfigValidity.change_log_self (validity : ConfigValidity) :
    validity.changeLog validity = [] := by
  cases validity <;> rfl

/-- Changes that come in turn, for the worse first. -/
def alternation (count : Nat) : List LogRecord :=
  (List.range count).map fun position =>
    if position % 2 = 0 then HealthService.degradedLog else HealthService.recoveredLog

/-- One change more is for the worse after an even number, and for the better after an odd one. -/
theorem alternation_succ (count : Nat) :
    alternation (count + 1) = alternation count ++
      [if count % 2 = 0 then HealthService.degradedLog else HealthService.recoveredLog] := by
  simp [alternation, List.range_succ]

/-- Changes in turn that have led to some validity go on in turn when that changes. -/
theorem alternation_change {count : Nat} {before : ConfigValidity}
    (led : before.isValid = (count % 2 == 0)) (after : ConfigValidity) :
    ∃ more, alternation count ++ before.changeLog after = alternation more ∧
      after.isValid = (more % 2 == 0) := by
  cases was : before.isValid <;> cases is : after.isValid
  case true.true | false.false =>
    refine ⟨count, ?_, ?_⟩
    · simp only [ConfigValidity.changeLog, was, is, List.append_nil]
    · rw [← led, was]
  case true.false =>
    have even : count % 2 = 0 := beq_iff_eq.mp (led.symm.trans was)
    refine ⟨count + 1, ?_, ?_⟩
    · simp only [ConfigValidity.changeLog, was, is, alternation_succ, even, if_true]
    · exact (beq_false_of_ne (by omega)).symm
  case false.true =>
    have odd : ¬ count % 2 = 0 := ne_of_beq_false (led.symm.trans was)
    refine ⟨count + 1, ?_, ?_⟩
    · simp only [ConfigValidity.changeLog, was, is, alternation_succ, odd, if_false]
    · exact (beq_iff_eq.mpr (by omega)).symm

namespace CacheState

/-- Health that shows what readers see is good exactly if what they see is valid. -/
theorem health_is_healthy (state : CacheState C) :
    state.health.isHealthy = state.validity.isValid := by
  unfold health validity
  cases state.lastError with
  | some error => rfl
  | none => cases state.snapshot <;> rfl

/-- A failure is the one report there is, and an error. -/
theorem health_of_invalid {state : CacheState C} {message : String}
    (invalid : state.validity = .invalid message) :
    state.health = ⟨[.error .invalidConfig invalidConfiguration message]⟩ := by
  unfold validity at invalid
  cases failed : state.lastError with
  | none => simp [failed] at invalid
  | some error =>
    rw [failed] at invalid
    simp only [health, failed, ConfigValidity.invalid.inj invalid]

/-- There is no report exactly if there is neither an error nor a snapshot. -/
theorem no_report_iff (state : CacheState C) :
    state.health.reports = [] ↔ state.snapshot = none ∧ state.lastError = none := by
  unfold health
  cases state.lastError with
  | some error => simp
  | none => cases state.snapshot <;> simp

/-- Readers see neither a snapshot nor an error exactly if no answer brought the one or was the
other. -/
theorem of_answers_blank_iff (answers : List (StoreAnswer C)) :
    (ofAnswers answers).snapshot = none ∧ (ofAnswers answers).lastError = none ↔
      ∀ answer ∈ answers, answer.snapshot? = none ∧ answer.loadFailure? = none := by
  induction answers using List.reverseRecOn with
  | nil => simp [ofAnswers, latestSnapshot, pendingFailure, sinceSnapshot]
  | append_singleton answers answer ih =>
    rw [List.forall_mem_append, List.forall_mem_singleton, ← ih, ← taking_of_answers]
    unfold taking
    cases answer.snapshot? with
    | some snapshot => simp
    | none => cases answer.loadFailure? <;> simp

/-- What the service logs of the report that an answer leads to is the change of validity by
that answer. -/
theorem taking_notes (state : CacheState C) (answer : StoreAnswer C) :
    state.health.notes answer.report?.toList =
      state.validity.changeLog (state.taking answer).validity := by
  unfold taking StoreAnswer.report? health validity
  cases answer.snapshot? with
  | some snapshot =>
    cases state.lastError with
    | some error => rfl
    | none => cases state.snapshot <;> rfl
  | none =>
    cases answer.loadFailure? with
    | some error =>
      cases state.lastError with
      | some earlier => rfl
      | none => cases state.snapshot <;> rfl
    | none => exact (ConfigValidity.change_log_self _).symm

end CacheState

namespace Cache

/-- What the service logs during an operation is the change of validity by it. -/
theorem perform_notes (store : Store σ C) (operation : Operation C) (state : σ)
    (cache : Cache C) :
    let step := cache.perform store operation state
    (reportsOf step.events).length ≤ 1 ∧
      cache.state.health.notes (reportsOf step.events) =
        cache.state.validity.changeLog step.cache.state.validity := by
  intro step
  have few := answers_length_le store operation state cache
  have shown : step.cache.state = _ := perform_state store operation state cache
  rw [shown, show reportsOf step.events = _ from perform_reports store operation state cache]
  generalize cache.answers store operation state = answers at few ⊢
  match answers, few with
  | [], _ => exact ⟨Nat.zero_le 1, (ConfigValidity.change_log_self _).symm⟩
  | [answer], _ =>
    have reports : [answer].filterMap StoreAnswer.report? = answer.report?.toList := by
      cases report : answer.report? <;> simp [report]
    refine ⟨List.length_filterMap_le .., ?_⟩
    rw [reports]
    exact cache.state.taking_notes answer

/-- A service that follows a run from its start shows what readers see. -/
theorem run_health (store : Store σ C) (start : σ) (operations : List (Operation C)) :
    (({} : HealthService).follow (eventsDuring store start operations)).1 =
      (run store start operations).1.state.health := by
  induction operations using List.reverseRecOn with
  | nil => rfl
  | append_singleton operations operation ih =>
    rw [events_during_snoc, HealthService.follow_append, ih, run_snoc]
    exact perform_health store operation _ _

/-- What is logged when validity changes from one state of a run to the next. -/
def changesDuring (store : Store σ C) (start : σ) (operations : List (Operation C)) :
    List LogRecord :=
  (seenFrom store (fun reached operation =>
    reached.1.state.validity.changeLog (next store reached operation).1.state.validity)
    ({}, start) operations).flatten

/-- One operation more logs the change from the validity that the others left. -/
theorem changes_during_snoc (store : Store σ C) (start : σ) (operations : List (Operation C))
    (operation : Operation C) :
    changesDuring store start (operations ++ [operation]) =
      changesDuring store start operations ++
        (run store start operations).1.state.validity.changeLog
          (run store start (operations ++ [operation])).1.state.validity := by
  simp only [changesDuring, seen_snoc, List.flatten_append, List.flatten_cons, List.flatten_nil,
    List.append_nil, run_snoc]
  rfl

/-- What the service logs during a run are the changes of validity in it. -/
theorem run_notes (store : Store σ C) (start : σ) (operations : List (Operation C)) :
    ({} : HealthService).notes (reportsOf (eventsDuring store start operations)) =
      changesDuring store start operations := by
  induction operations using List.reverseRecOn with
  | nil => rfl
  | append_singleton operations operation ih =>
    have health := run_health store start operations
    rw [HealthService.follow_reports] at health
    rw [events_during_snoc, reports_append, HealthService.notes_append, ih, health,
      (perform_notes store operation _ _).2, changes_during_snoc, run_snoc]
    rfl

/-- The changes of validity in a run come in turn, for the worse first. -/
theorem changes_alternate (store : Store σ C) (start : σ) (operations : List (Operation C)) :
    ∃ count, changesDuring store start operations = alternation count ∧
      (run store start operations).1.state.validity.isValid = (count % 2 == 0) := by
  induction operations using List.reverseRecOn with
  | nil => exact ⟨0, rfl, rfl⟩
  | append_singleton operations operation ih =>
    obtain ⟨count, noted, led⟩ := ih
    rw [changes_during_snoc, noted]
    exact alternation_change led _

/-- Health and validity never disagree. Over any store, whatever it answers, and with any
listeners, let a service follow all events of a run. It is healthy exactly if the cache is
valid. If not, its one report says so, with the message of the failure for a description. It
has no report exactly as long as no load has failed and no snapshot was brought.

One operation more adds the answers that it asks for. When the service follows it, it logs, in one
place among the events of the operation, the change of validity by it, and nothing if that stays.
What it logs over the whole run is one record for each change, and these come in turn: that of a
change for the worse is the first, and each other one is followed by its opposite. Unless others log
in the name of the service, the records in its name among the events are just these.

Proof: after every operation the service shows what readers see (`run_health`), so what it logs
of a report is decided by validity before and after it (`perform_notes`). -/
theorem run_health_agrees (store : Store σ C) (start : σ) (operations : List (Operation C)) :
    let shown := (run store start operations).1.state
    let events := eventsDuring store start operations
    let service := (({} : HealthService).follow events).1
    let followed := (({} : HealthService).follow events).2
    (service.isHealthy = true ↔ shown.validity = .valid) ∧
    (∀ message, shown.validity = .invalid message →
      service.reports = [⟨.invalidConfig, .error "Invalid Configuration" message⟩] ∧
        service.errors = service.reports) ∧
    (service.reports = [] ↔ ∀ answer ∈ answersDuring store start operations,
      answer.snapshot? = none ∧ answer.loadFailure? = none) ∧
    (∀ operation,
      let reached := run store start operations
      let step := reached.1.perform store operation reached.2
      answersDuring store start (operations ++ [operation]) =
        answersDuring store start operations ++ reached.1.answers store operation reached.2 ∧
      ∃ opening closing, step.events = opening ++ closing ∧
        (({} : HealthService).follow (eventsDuring store start (operations ++ [operation]))).2 =
          followed ++ (opening ++
            (shown.validity.changeLog step.cache.state.validity).map .logged ++ closing)) ∧
    ∃ count, changesDuring store start operations = alternation count ∧
      ((∀ record ∈ recordsOf events, record.target ≠ HealthService.logTarget) →
        (recordsOf followed).filter (fun record => record.target == HealthService.logTarget) =
          alternation count) := by
  intro shown events service followed
  have health : service = shown.health := run_health store start operations
  obtain ⟨count, changes, _⟩ := changes_alternate store start operations
  refine ⟨?healthy, ?invalid, ?none, ?operation, count, changes, ?records⟩
  case healthy =>
    rw [health, CacheState.health_is_healthy]
    cases shown.validity <;> simp [ConfigValidity.isValid]
  case invalid =>
    intro message invalid
    rw [health, CacheState.health_of_invalid invalid]
    exact ⟨rfl, rfl⟩
  case none =>
    rw [health, CacheState.no_report_iff, show shown = _ from run_state store start operations]
    exact CacheState.of_answers_blank_iff _
  case operation =>
    intro operation reached step
    refine ⟨answers_during_snoc .., ?_⟩
    obtain ⟨few, noted⟩ := perform_notes store operation reached.2 reached.1
    obtain ⟨opening, closing, split, logged⟩ := service.follow_single few
    refine ⟨opening, closing, split, ?_⟩
    rw [events_during_snoc, HealthService.follow_append]
    rw [health, noted] at logged
    have whole : (service.follow step.events).2 = _ := health ▸ logged
    exact congrArg (followed ++ ·) whole
  case records =>
    intro foreign
    rw [HealthService.own_records_of_follow _ foreign, run_notes, changes]

-- The second failure is no change.
example :
    changesDuring scriptedStore
      { loads := [.failed (.parse "bad"), .failed (.parse "worse"),
          .ok (some ⟨"runs", "edits", "sum"⟩)] }
      [.reload, .reload, .reload] =
        [HealthService.degradedLog, HealthService.recoveredLog] := rfl

end Cache

end LastGood
