import LastGood.Proofs.Session.FailedWrites
import LastGood.Proofs.Session.Shortcut
import LastGood.Proofs.Session.Validity
import LastGood.Proofs.Store.Skipping

/-!
# No echo

What a session puts into its file it does not take for news when it reads the file again. A session
is at rest when something is installed and a load would find nothing new. A reload that returned
without an error brings it there, and so does every write that replaced the file. Reloads,
writes that do not succeed and changes of the environment leave it there, and nobody hears of them.

A reload that panicked is another matter: it leaves the cache valid, and yet the text that it could
not read is news to the next one.

After a load that failed nothing is known of the file. So it is read again each time, and fails
again each time, as long as neither the file nor the environment is another one.
-/

namespace LastGood

/-- A call that gives what a value was made into gave that value. -/
theorem Outcome.value_of_map {α β : Type} {f : α → β} {outcome : Outcome α} {made : β}
    (mapped : outcome.map f = .ok made) : ∃ value, outcome = .ok value ∧ f value = made := by
  cases outcome with
  | ok value => exact ⟨value, rfl, Outcome.ok.inj mapped⟩
  | failed error => cases mapped
  | panicked message => cases mapped

/-- What a call hands out, a load right after it does not bring again. -/
theorem FileStore.HandsOut.skipped {before after : FileStore} {snapshot : Snapshot Config}
    (made : before.HandsOut after snapshot) : after.load.outcome = .ok none := by
  obtain ⟨text, held, parsed⟩ := made.text
  obtain ⟨_, _, sum⟩ := (FileStore.snapshot_of_ok_iff _ _ _).mp parsed
  exact (FileStore.load_skips_iff after).mpr ⟨text, held, made.remembered.trans (congrArg some sum)⟩

/-- A load that finds nothing new changes nothing. -/
theorem FileStore.load_state_of_skipped {store : FileStore}
    (skipped : store.load.outcome = .ok none) : store.load.state = store := by
  have ended := store.load_end
  rw [skipped] at ended
  generalize store.load.state = after at ended ⊢
  cases ended with
  | known => rfl

/-- What a write that does not succeed leaves of a store reads the same, and remembers the same. -/
theorem FileStore.Leaves.reading {before after : FileStore} (left : before.Leaves after) :
    after.reading = before.reading ∧ after.remembered = before.remembered := by
  rcases left with rfl | ⟨location, _, beside⟩
  · exact ⟨rfl, rfl⟩
  · exact ⟨FileStore.reading_congr beside.readText.symm beside.machine.environment.symm,
      beside.remembered.symm⟩

/-- A store that remembers nothing cannot forget anything. -/
theorem FileStore.forgetting_of_forgotten {store : FileStore}
    (forgotten : store.remembered = none) : store.forgetting = store := by
  obtain ⟨path, sum, machine⟩ := store
  cases forgotten
  rfl

namespace Session

/-- A happening that gives a session nothing new to show: it loads, or writes without success, or
others change something but the text of the file. -/
inductive Idle (session : Session) : Happening → Prop where
  /-- A reload. -/
  | reload : Idle session (.operation .reload)
  /-- A load unless something was installed. -/
  | ensureLoaded : Idle session (.operation .ensureLoaded)
  /-- The configuration to edit is asked for. -/
  | forEditing : Idle session (.operation .forEditing)
  /-- A write that fails or panics. -/
  | failedWrite {operation : Operation Config} (writes : operation.Writes)
      (failed : ∀ answer, (session.perform operation).1 ≠ .ok answer) :
      Idle session (.operation operation)
  /-- Others change the disk, and the file reads as before. -/
  | elsewhere {change : Disk → Disk}
      (kept : (session.after fileStore (.disk change)).store.readText = session.store.readText) :
      Idle session (.disk change)
  /-- The environment becomes another one. -/
  | environment (environment : Environment) : Idle session (.environment environment)

/-- All of a history is idle, each part of it when it happens. -/
def Rests (start : Session) (history : List Happening) : Prop :=
  ∀ passed happening rest, history = passed ++ happening :: rest →
    (start.course fileStore passed).Idle happening

/-- An operation installs nothing: the store brings no snapshot during it, no health is reported and
no listener is told anything. -/
structure Silent (session : Session) (operation : Operation Config) : Prop where
  /-- There is no snapshot to install. -/
  unbrought : ∀ answer ∈ session.cache.answers fileStore operation session.store,
    answer.snapshot? = none
  /-- No health is reported. -/
  unreported : reportsOf (session.perform operation).2.2 = []
  /-- No listener is told anything. -/
  undelivered : deliveriesOf (session.perform operation).2.2 = []

/-- An operation that has just put the snapshot of the file into the cache, or found it there. -/
inductive Settles (session : Session) : Operation Config → Prop where
  /-- A reload that returned, and left the cache valid and with something installed. -/
  | reload (returned : (session.perform .reload).1 = .ok .done)
      (valid : (session.performed fileStore .reload).cache.state.validity = .valid)
      (populated : (session.performed fileStore .reload).cache.state.snapshot.isSome) :
      Settles session .reload
  /-- A save that succeeded. -/
  | save {content : String} {migrate : Bool}
      (succeeded : (session.perform (.save content migrate)).1 = .ok .done) :
      Settles session (.save content migrate)
  /-- A locked write that says that it has changed the file. -/
  | lock {command : Command Config}
      (updated : (session.perform (.writeWithLock command)).1 = .ok (.saved .updated)) :
      Settles session (.writeWithLock command)

/-- Something is installed, and a load would find nothing new. -/
structure AtRest (session : Session) : Prop where
  /-- Something is installed. -/
  populated : session.cache.state.snapshot.isSome
  /-- A load would find nothing new. -/
  known : session.store.load.outcome = .ok none

/-- A load would fail, and that is what is shown. -/
structure Failing (session : Session) (installed : Option (Snapshot Config))
    (error : ConfigError) : Prop where
  /-- Readers see the error, and what was installed before. -/
  shown : session.cache.state = ⟨installed, some error⟩
  /-- Nothing is known of the file. -/
  forgotten : session.store.remembered = none
  /-- Reading it fails. -/
  reading : session.store.reading = .failed error

variable {session start : Session} {operation : Operation Config} {happening : Happening}

/-- A history is idle if its beginning is, and its last happening is where that leads to. -/
theorem Rests.snoc {history : List Happening} (rests : start.Rests (history ++ [happening])) :
    start.Rests history ∧ (start.course fileStore history).Idle happening := by
  refine ⟨?_, rests history happening [] rfl⟩
  rintro passed other rest rfl
  exact rests passed other (rest ++ [happening]) (by simp)

/-- Nothing is idle. -/
theorem rests_nil (start : Session) : start.Rests [] := by
  intro passed happening rest split
  simp at split

/-- A history is idle if it starts with something idle and goes on so. -/
theorem rests_cons {history : List Happening} (idle : start.Idle happening)
    (rests : (start.after fileStore happening).Rests history) :
    start.Rests (happening :: history) := by
  intro passed other rest split
  cases passed with
  | nil =>
    obtain ⟨rfl, _⟩ := List.cons.inj split
    exact idle
  | cons first passed =>
    obtain ⟨rfl, later⟩ := List.cons.inj split
    exact rests passed other rest later

/-- What an idle history performs is idle. -/
theorem Rests.performs {history : List Happening} {asked : Session} (rests : start.Rests history)
    (performs : start.Performs history asked operation) : asked.Idle (.operation operation) := by
  obtain ⟨passed, rest, split, rfl⟩ := performs
  exact rests passed _ rest split

/-- The beginning of an idle history is idle. -/
theorem Rests.beginning {history passed rest : List Happening} (rests : start.Rests history)
    (split : history = passed ++ rest) : start.Rests passed := by
  rintro before happening others rfl
  exact rests before happening (others ++ rest) (by simp [split])

/-- An idle operation is none that tells listeners what is installed already. -/
theorem Idle.unprompted (idle : session.Idle (.operation operation)) :
    (∀ listener, operation ≠ .register listener) ∧ operation ≠ .renotify := by
  cases idle with
  | failedWrite writes => cases writes <;> simp
  | _ => simp

/-- A write that does not succeed gets neither a snapshot from the store nor an error of a load. -/
theorem unbrought_of_failed_write (writes : operation.Writes)
    (failed : ∀ answer, (session.perform operation).1 ≠ .ok answer) :
    ∀ answer ∈ session.cache.answers fileStore operation session.store, answer.report? = none := by
  intro answer asked
  cases writes with
  | save content migrate =>
    obtain rfl := List.mem_singleton.mp asked
    have vain : ∀ snapshot, (fileStore.write session.store content migrate).outcome ≠
        .ok snapshot := Cache.write_of_failed_save failed
    cases ended : (fileStore.write session.store content migrate).outcome with
    | ok snapshot => exact absurd ended (vain snapshot)
    | failed error => rfl
    | panicked message => rfl
  | lock command =>
    obtain rfl := List.mem_singleton.mp asked
    have vain : ∀ result, (fileStore.writeWithLock session.store command
        session.cache.state.snapshot).outcome ≠ .ok result := Cache.lock_of_failed_write failed
    cases ended : (fileStore.writeWithLock session.store command
        session.cache.state.snapshot).outcome with
    | ok result => exact absurd ended (vain result)
    | failed error => rfl
    | panicked message => rfl

/-- An answer that leads to no report changes nothing that readers see. -/
theorem taking_unreported {C : Type} (state : CacheState C) {answer : StoreAnswer C}
    (unreported : answer.report? = none) :
    answer.snapshot? = none ∧ state.taking answer = state := by
  unfold StoreAnswer.report? at unreported
  unfold CacheState.taking
  cases brought : answer.snapshot? with
  | some snapshot => simp [brought] at unreported
  | none =>
    cases failed : answer.loadFailure? with
    | some error => simp [brought, failed] at unreported
    | none => exact ⟨rfl, rfl⟩

/-- An idle operation that gets no answer to report installs nothing, and leaves what readers see
and the health as they are. -/
theorem Idle.silent (idle : session.Idle (.operation operation))
    (unreported : ∀ answer ∈ session.cache.answers fileStore operation session.store,
      answer.report? = none) :
    session.Silent operation ∧
      (session.performed fileStore operation).cache.state = session.cache.state ∧
      (session.performed fileStore operation).health = session.health := by
  have silent :
      reportsOf (session.cache.perform fileStore operation session.store).events = [] := by
    rw [Cache.perform_reports]
    exact List.filterMap_eq_nil_iff.mpr unreported
  have followed : session.health.follow
      (session.cache.perform fileStore operation session.store).events =
        (session.health, (session.cache.perform fileStore operation session.store).events) :=
    HealthService.follow_silent silent
  have happened : (session.perform operation).2.2 =
      (session.cache.perform fileStore operation session.store).events := congrArg Prod.snd followed
  have unbrought : ∀ answer ∈ session.cache.answers fileStore operation session.store,
      answer.snapshot? = none := fun answer asked =>
    (taking_unreported session.cache.state (unreported answer asked)).1
  refine ⟨⟨unbrought, happened ▸ silent, ?undelivered⟩, ?shown, congrArg Prod.fst followed⟩
  case undelivered =>
    rw [happened]
    exact Cache.quiet_deliveries unbrought idle.unprompted.1 idle.unprompted.2
  case shown =>
    have shown : (session.performed fileStore operation).cache.state = _ :=
      session.cache.perform_state fileStore operation session.store
    rw [shown]
    generalize session.cache.answers fileStore operation session.store = answers at unreported
    induction answers with
    | nil => rfl
    | cons answer rest ih =>
      rw [List.foldl_cons, (taking_unreported _ (unreported answer (by simp))).2]
      exact ih fun later member => unreported later (by simp [member])

/-- At rest an idle operation gets no answer to report. -/
theorem AtRest.unreported (rest : session.AtRest) (idle : session.Idle (.operation operation)) :
    ∀ answer ∈ session.cache.answers fileStore operation session.store, answer.report? = none := by
  cases idle with
  | reload =>
    intro answer asked
    obtain rfl := List.mem_singleton.mp asked
    have known : (fileStore.load session.store).outcome = .ok none := rest.known
    rw [known]
    rfl
  | ensureLoaded | forEditing => simp [Cache.answers, rest.populated]
  | failedWrite writes failed => exact unbrought_of_failed_write writes failed

/-- After an idle operation of a session at rest a load would still find nothing new. -/
theorem AtRest.known_after (rest : session.AtRest) (idle : session.Idle (.operation operation)) :
    (session.performed fileStore operation).store.load.outcome = .ok none := by
  have store : (session.performed fileStore operation).store = _ :=
    session.cache.perform_store fileStore operation session.store
  cases idle with
  | reload =>
    rw [store]
    exact (congrArg (fun left => left.load.outcome)
      (FileStore.load_state_of_skipped rest.known)).trans rest.known
  | ensureLoaded | forEditing =>
    rw [store]
    simp only [rest.populated, if_true]
    exact rest.known
  | failedWrite writes failed => exact (failed_write_leaves writes failed).load.trans rest.known

/-- What is idle leaves a session at rest, and what it shows as it is. -/
theorem AtRest.after (rest : session.AtRest) (idle : session.Idle happening) :
    (session.after fileStore happening).AtRest ∧
      (session.after fileStore happening).cache.state = session.cache.state ∧
      (session.after fileStore happening).health = session.health := by
  -- What others change is not the text of the file, nor what is remembered of it.
  have outside : ∀ changed : Session, changed.cache = session.cache →
      changed.store.remembered = session.store.remembered →
      changed.store.readText = session.store.readText → changed.AtRest := by
    intro changed cache remembered kept
    refine ⟨cache ▸ rest.populated, ?_⟩
    have known := rest.known
    rw [FileStore.load_skips_iff] at known ⊢
    rw [kept, remembered]
    exact known
  cases happening with
  | operation operation =>
    obtain ⟨_, shown, health⟩ := idle.silent (rest.unreported idle)
    exact ⟨⟨(congrArg (·.snapshot.isSome) shown).trans rest.populated, rest.known_after idle⟩,
      shown, health⟩
  | disk change =>
    cases idle with
    | elsewhere kept => exact ⟨outside _ rfl rfl kept, rfl, rfl⟩
  | environment environment => exact ⟨outside _ rfl rfl rfl, rfl, rfl⟩

/-- So does every idle history. -/
theorem AtRest.course (rest : start.AtRest) {history : List Happening}
    (rests : start.Rests history) :
    (start.course fileStore history).AtRest ∧
      (start.course fileStore history).cache.state = start.cache.state ∧
      (start.course fileStore history).health = start.health := by
  induction history using List.reverseRecOn with
  | nil => exact ⟨rest, rfl, rfl⟩
  | append_singleton history happening ih =>
    obtain ⟨earlier, idle⟩ := rests.snoc
    obtain ⟨reached, shown, health⟩ := ih earlier
    obtain ⟨rest, shown', health'⟩ := reached.after idle
    rw [course_snoc]
    exact ⟨rest, shown'.trans shown, health'.trans health⟩

/-- An operation that brings the snapshot of what the file holds leads to a session at rest. -/
theorem Renews.at_rest {snapshot : Snapshot Config} (renews : session.Renews operation snapshot) :
    (session.performed fileStore operation).AtRest :=
  ⟨by simp [renews.shown], renews.made.skipped⟩

/-- A reload that returned and left the cache valid and with something installed leads to a session
at rest. -/
theorem at_rest_of_reload (returned : (session.perform .reload).1 = .ok .done)
    (valid : (session.performed fileStore .reload).cache.state.validity = .valid)
    (populated : (session.performed fileStore .reload).cache.state.snapshot.isSome) :
    (session.performed fileStore .reload).AtRest := by
  have store : (session.performed fileStore .reload).store = session.store.load.state :=
    session.cache.perform_store fileStore .reload session.store
  have shown : (session.performed fileStore .reload).cache.state =
      session.cache.state.taking (.loaded session.store.load.outcome) :=
    Cache.reload_state fileStore session.store session.cache
  cases ended : session.store.load.outcome with
  | ok found =>
    cases found with
    | none =>
      refine ⟨populated, ?_⟩
      rw [store, FileStore.load_state_of_skipped ended]
      exact ended
    | some snapshot =>
      have loaded := session.store.load_end
      rw [ended] at loaded
      exact ⟨populated, store ▸ loaded.handed_out.skipped⟩
  | failed error =>
    rw [shown, ended] at valid
    cases valid
  | panicked message =>
    have outcome : (session.perform .reload).1 = _ :=
      congrArg (Outcome.map fun _ => Answer.done)
        (Cache.reload_outcome fileStore session.store session.cache)
    have panicked : (fileStore.load session.store).outcome = .panicked message := ended
    rw [outcome, panicked] at returned
    cases returned

/-- An operation that settles a session leads to one at rest. -/
theorem Settles.at_rest (settles : session.Settles operation) :
    (session.performed fileStore operation).AtRest := by
  cases settles with
  | reload returned valid populated => exact at_rest_of_reload returned valid populated
  | @save content migrate succeeded =>
    have ended : (session.perform (.save content migrate)).1 = _ :=
      congrArg (Outcome.map fun _ => Answer.done)
        (Cache.save_outcome fileStore content migrate session.store session.cache)
    rw [succeeded, Outcome.map_map] at ended
    obtain ⟨snapshot, written, _⟩ := Outcome.value_of_map ended.symm
    have changing : ¬ session.LeavesUnchanged (.save content migrate) := by
      rintro ⟨_, answered⟩
      cases succeeded.symm.trans answered
    have brought : (StoreAnswer.written
        (fileStore.write session.store content migrate).outcome).snapshot? = some snapshot := by
      rw [written, StoreAnswer.snapshot?]
    exact (renews_of_brought rfl brought changing).at_rest
  | @lock command updated =>
    have ended : (session.perform (.writeWithLock command)).1 = _ :=
      congrArg (Outcome.map Answer.saved)
        (Cache.write_with_lock_outcome fileStore command session.store session.cache)
    rw [updated, Outcome.map_map] at ended
    obtain ⟨result, written, _⟩ := Outcome.value_of_map ended.symm
    have changing : ¬ session.LeavesUnchanged (.writeWithLock command) := by
      rintro ⟨_, answered⟩
      cases updated.symm.trans answered
    have brought : (StoreAnswer.locked (fileStore.writeWithLock session.store command
        session.cache.state.snapshot).outcome).snapshot? = some result.snapshot := by
      rw [written, StoreAnswer.snapshot?]
    exact (renews_of_brought rfl brought changing).at_rest

/-- Where nothing is known of the file, a load that fails does so again and changes nothing. -/
theorem Failing.load {installed : Option (Snapshot Config)} {error : ConfigError}
    (failing : session.Failing installed error) :
    session.store.load.outcome = .failed error ∧ session.store.load.state = session.store := by
  have forgetting := FileStore.forgetting_of_forgotten failing.forgotten
  have failed : session.store.load.outcome = .failed error := by
    rw [← forgetting, (FileStore.load_forgetting session.store).1, failing.reading]
    rfl
  refine ⟨failed, ?_⟩
  have ended := session.store.load_end
  rw [failed] at ended
  generalize session.store.load.state = after at ended ⊢
  cases ended with
  | failed => exact forgetting

/-- What is idle in the same environment leaves a session failing as it fails. -/
theorem Failing.after {installed : Option (Snapshot Config)} {error : ConfigError}
    (failing : session.Failing installed error) (idle : session.Idle happening)
    (steady : ∀ environment, happening ≠ .environment environment) :
    (session.after fileStore happening).Failing installed error := by
  obtain ⟨failed, unmoved⟩ := failing.load
  have again : session.cache.state.taking (.loaded (fileStore.load session.store).outcome) =
      session.cache.state := by
    rw [show (fileStore.load session.store).outcome = .failed error from failed, failing.shown]
    rfl
  have same : ∀ after : Session, after.cache.state = session.cache.state →
      after.store = session.store → after.Failing installed error := by
    intro after shown store
    exact ⟨shown.trans failing.shown, store ▸ failing.forgotten, store ▸ failing.reading⟩
  cases idle with
  | reload =>
    refine same _ ?_ ((Cache.reload_store fileStore session.store session.cache).trans unmoved)
    exact (Cache.reload_state fileStore session.store session.cache).trans again
  | ensureLoaded | forEditing =>
    refine same _ ((session.cache.perform_state fileStore _ session.store).trans ?_)
      ((session.cache.perform_store fileStore _ session.store).trans ?_)
    · simp only [Cache.answers]
      split
      · rfl
      · exact again
    · simp only
      split
      · rfl
      · exact unmoved
  | @failedWrite operation writes vain =>
    obtain ⟨reading, remembered⟩ := (failed_write_leaves writes vain).reading
    have left : (session.performed fileStore operation).cache = session.cache :=
      (Cache.perform_failed_write writes vain).1
    exact ⟨(congrArg Cache.state left).trans failing.shown, remembered.trans failing.forgotten,
      reading.trans failing.reading⟩
  | elsewhere kept =>
    exact ⟨failing.shown, failing.forgotten,
      (FileStore.reading_congr kept rfl).trans failing.reading⟩
  | environment environment => exact absurd rfl (steady environment)

/-- So does every idle history in one environment. -/
theorem Failing.course {installed : Option (Snapshot Config)} {error : ConfigError}
    (failing : start.Failing installed error) {history : List Happening}
    (rests : start.Rests history)
    (steady : ∀ environment, Happening.environment environment ∉ history) :
    (start.course fileStore history).Failing installed error := by
  induction history using List.reverseRecOn with
  | nil => exact failing
  | append_singleton history happening ih =>
    obtain ⟨earlier, idle⟩ := rests.snoc
    rw [course_snoc]
    refine (ih earlier fun environment member => ?_).after idle fun environment same => ?_
    · exact steady environment (List.mem_append_left _ member)
    · exact steady environment (same ▸ List.mem_append_right _ (List.mem_singleton_self _))

/-- A reload whose load failed leads to a session that fails so. -/
theorem failing_of_reload {error : ConfigError}
    (failed : session.store.load.outcome = .failed error) :
    (session.performed fileStore .reload).Failing session.cache.state.snapshot error := by
  have store : (session.performed fileStore .reload).store = session.store.load.state :=
    session.cache.perform_store fileStore .reload session.store
  have shown : (session.performed fileStore .reload).cache.state =
      session.cache.state.taking (.loaded session.store.load.outcome) :=
    Cache.reload_state fileStore session.store session.cache
  have forgot : session.store.load.state = session.store.forgetting := by
    have ended := session.store.load_end
    rw [failed] at ended
    generalize session.store.load.state = after at ended ⊢
    cases ended with
    | failed => rfl
  have reading : session.store.reading = .failed error := by
    rcases FileStore.load_skips_or_reads session.store with ⟨_, _, _, skipped, _⟩ | ⟨read, _⟩
    · cases failed.symm.trans skipped
    · rw [failed] at read
      generalize session.store.reading = outcome at read ⊢
      cases outcome with
      | failed other =>
        cases read
        rfl
      | ok snapshot => cases read
      | panicked message => cases read
  rw [failed] at shown
  refine ⟨shown, ?_, ?_⟩
  · rw [store, forgot]
    rfl
  · rw [store, forgot]
    exact reading

/-- No echo. From whatever session, let a reload return and leave the cache valid and with something
installed, or a save succeed, or a locked write say that it has updated the configuration. From
there on, as long as others leave the text of the file alone, reloads, loads where nothing is
installed, requests for the configuration to edit, writes that fail or panic, and changes of the
environment, in whatever order, install nothing: the store brings no snapshot, what readers see is
the same, no health is reported, and no listener is told anything.

And let a reload fail. From there on, as long as the file and the environment are left alone, all of
these leave what was installed and the error; and whenever one of them is a reload, its load fails
with that error again. -/
theorem no_echo (session : Session) :
    (∀ operation, session.Settles operation → ∀ later : List Happening,
      (session.performed fileStore operation).Rests later →
      let settled := session.performed fileStore operation
      (settled.course fileStore later).cache.state = settled.cache.state ∧
        (settled.course fileStore later).health = settled.health ∧
        ∀ asked next, settled.Performs later asked next → asked.Silent next) ∧
    ∀ error, session.store.load.outcome = .failed error → ∀ later : List Happening,
      (session.performed fileStore .reload).Rests later →
      (∀ environment, Happening.environment environment ∉ later) →
      let failed := session.performed fileStore .reload
      (failed.course fileStore later).cache.state = ⟨session.cache.state.snapshot, some error⟩ ∧
        ∀ asked, failed.Performs later asked .reload →
          asked.store.load.outcome = .failed error ∧
            (asked.performed fileStore .reload).cache.state =
              ⟨session.cache.state.snapshot, some error⟩ := by
  constructor
  · intro operation settles later rests settled
    have rest : settled.AtRest := settles.at_rest
    obtain ⟨_, shown, health⟩ := rest.course rests
    refine ⟨shown, health, ?_⟩
    intro asked next performs
    have idle := rests.performs performs
    obtain ⟨passed, others, split, rfl⟩ := performs
    obtain ⟨reached, _, _⟩ := rest.course (rests.beginning split)
    exact (idle.silent (reached.unreported idle)).1
  · intro error failed later rests steady
    have failing := failing_of_reload failed
    refine ⟨(failing.course rests steady).shown, ?_⟩
    rintro asked ⟨passed, others, split, rfl⟩
    have reached := failing.course (rests.beginning split) fun environment member =>
      steady environment (split ▸ List.mem_append_left _ member)
    exact ⟨reached.load.1, (reached.after .reload (by simp)).shown⟩

/-- The first reload of an empty file settles a session. Another reload and one in another
environment show nothing else. -/
theorem no_echo_empty_file :
    let settled := (ofPath .ofEmptyFile ⟨"config.yaml"⟩).performed fileStore .reload
    let later : List Happening := [.operation .reload, .environment crashingMachine.environment,
      .operation .reload]
    (ofPath .ofEmptyFile ⟨"config.yaml"⟩).Settles .reload ∧ settled.Rests later ∧
      (settled.course fileStore later).cache.state = settled.cache.state ∧
      settled.cache.state.snapshot.isSome := by
  intro settled later
  have settles : (ofPath .ofEmptyFile ⟨"config.yaml"⟩).Settles .reload :=
    .reload (by decide +kernel) (by decide +kernel) (by decide +kernel)
  have rests : settled.Rests later :=
    rests_cons .reload (rests_cons (.environment _) (rests_cons .reload (rests_nil _)))
  have same := ((no_echo (ofPath .ofEmptyFile ⟨"config.yaml"⟩)).1 .reload settles later rests).1
  exact ⟨settles, rests, same, by decide +kernel⟩

/-- A reload that crashes leaves the cache valid and with something installed. Nothing changes the
file after it, and yet the next reload installs another snapshot, once the environment lets it. -/
theorem crashed_reload_echoes :
    let session := (ofPath .ofEmptyFile ⟨"config.yaml"⟩).course fileStore [.operation .reload,
      .disk ((Change.put ⟨"config.yaml"⟩ "schema_version: 7\n".toUTF8).onDisk .ofEmptyFile),
      .environment crashingMachine.environment]
    let reloaded := session.performed fileStore .reload
    let later : List Happening := [.environment [], .operation .reload]
    reloaded.cache.state.validity = .valid ∧ reloaded.cache.state.snapshot.isSome ∧
      reloaded.Rests later ∧
      (reloaded.course fileStore later).cache.state.snapshot ≠ reloaded.cache.state.snapshot := by
  intro session reloaded later
  -- The crash leaves what readers saw, which is what the first reload installed.
  have shown : reloaded.cache.state.lastError = none ∧ reloaded.cache.state.snapshot.isSome ∧
      (reloaded.course fileStore later).cache.state.snapshot ≠ reloaded.cache.state.snapshot := by
    decide +kernel
  obtain ⟨error, populated, other⟩ := shown
  refine ⟨by rw [CacheState.validity, error], populated, ?rests, other⟩
  case rests => exact rests_cons (.environment _) (rests_cons .reload (rests_nil _))

end Session

end LastGood
