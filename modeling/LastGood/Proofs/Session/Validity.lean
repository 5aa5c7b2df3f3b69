import LastGood.Proofs.Cache.HealthLog
import LastGood.Proofs.Session.Course
import LastGood.Proofs.Store.Memory

/-!
# How long a failure is shown

After a load that failed, a session is shown as invalid with just that failure. It stays so
until an operation reads the file with success, or replaces it. Both hand out the snapshot of
what the file holds right after.

One operation is an exception. A locked write on an installed snapshot that leaves the
configuration as it is neither reads the file nor replaces it, and yet its snapshot is
installed again. So it hides the failure, whatever the file holds.
-/

namespace LastGood.Session

/-- A session has a snapshot installed, and a locked write leaves the configuration as it is. -/
def LeavesUnchanged (session : Session) (operation : Operation Config) : Prop :=
  session.cache.state.snapshot.isSome ∧ (session.perform operation).1 = .ok (.saved .unchanged)

/-- A history performs an operation on the session that it has led to by then. -/
def Performs (start : Session) (history : List Happening) (asked : Session)
    (operation : Operation Config) : Prop :=
  ∃ passed rest, history = passed ++ .operation operation :: rest ∧
    asked = start.course fileStore passed

/-- An operation read the file with success, or replaced it: it brought the snapshot of what the
file holds right after it, and that is installed. -/
structure Renews (session : Session) (operation : Operation Config) (snapshot : Snapshot Config) :
    Prop where
  /-- The store answered with the snapshot. -/
  brought : (session.cache.answers fileStore operation session.store).filterMap
    StoreAnswer.snapshot? = [snapshot]
  /-- The file holds the text behind it. -/
  made : session.store.HandsOut (session.performed fileStore operation).store snapshot
  /-- It is installed. -/
  shown : (session.performed fileStore operation).cache.state = ⟨some snapshot, none⟩

/-- What a longer history performs is what a shorter one does, and the last operation. -/
theorem performs_snoc {start asked : Session} {history : List Happening} {happening : Happening}
    {operation : Operation Config} (performs : start.Performs history asked operation) :
    start.Performs (history ++ [happening]) asked operation := by
  obtain ⟨passed, rest, rfl, reached⟩ := performs
  exact ⟨passed, rest ++ [happening], by simp, reached⟩

/-- A history performs its last operation. -/
theorem performs_last (start : Session) (history : List Happening)
    (operation : Operation Config) :
    start.Performs (history ++ [.operation operation]) (start.course fileStore history)
      operation :=
  ⟨history, [], rfl, rfl⟩

/-- A locked write answers unchanged exactly if its call to the store does. -/
theorem locked_unchanged_iff (session : Session) (command : Command Config) :
    (session.perform (.writeWithLock command)).1 = .ok (.saved .unchanged) ↔
      ∃ snapshot, (session.store.writeWithLock command session.cache.state.snapshot).outcome =
        .ok ⟨snapshot, .unchanged⟩ := by
  have ended : (session.perform (.writeWithLock command)).1 =
      ((session.store.writeWithLock command session.cache.state.snapshot).outcome.map
        SaveResult.state).map .saved :=
    congrArg (Outcome.map Answer.saved)
      (Cache.write_with_lock_outcome fileStore command session.store session.cache)
  rw [ended]
  cases (session.store.writeWithLock command session.cache.state.snapshot).outcome with
  | ok result => cases result; simp [Outcome.map]
  | failed error => simp [Outcome.map]
  | panicked message => simp [Outcome.map]

/-- A load that brings a snapshot handed it out. -/
theorem handed_out_of_load {store : FileStore} {snapshot : Snapshot Config}
    (brought : (StoreAnswer.loaded store.load.outcome).snapshot? = some snapshot) :
    store.HandsOut store.load.state snapshot := by
  have ended := FileStore.load_end store
  cases outcome : store.load.outcome with
  | ok found =>
    rw [outcome] at brought ended
    have found_snapshot : found = some snapshot := brought
    rw [found_snapshot] at ended
    exact ended.handed_out
  | failed error =>
    rw [outcome] at brought
    cases brought
  | panicked message =>
    rw [outcome] at brought
    cases brought

/-- A write that brings a snapshot handed it out. -/
theorem handed_out_of_write {store : FileStore} {content : String} {migrate : Bool}
    {snapshot : Snapshot Config}
    (brought : (StoreAnswer.written (store.write content migrate).outcome).snapshot? =
      some snapshot) :
    store.HandsOut (store.write content migrate).state snapshot := by
  have ended := FileStore.write_end store content migrate
  cases outcome : (store.write content migrate).outcome with
  | ok made =>
    rw [outcome] at brought ended
    cases brought
    exact ended.handed_out
  | failed error =>
    rw [outcome] at brought
    cases brought
  | panicked message =>
    rw [outcome] at brought
    cases brought

/-- An operation that brings a snapshot has read or replaced the file, unless it was a locked
write that left an installed configuration as it is. -/
theorem renews_of_brought {session : Session} {operation : Operation Config}
    {answer : StoreAnswer Config} {snapshot : Snapshot Config}
    (asked : session.cache.answers fileStore operation session.store = [answer])
    (brought : answer.snapshot? = some snapshot)
    (changing : ¬ session.LeavesUnchanged operation) : session.Renews operation snapshot := by
  have shown := session.cache.perform_state fileStore operation session.store
  have store : (session.performed fileStore operation).store = _ :=
    session.cache.perform_store fileStore operation session.store
  rw [asked] at shown
  refine ⟨by simp [asked, brought], ?made, ?shown⟩
  case shown =>
    refine shown.trans ?_
    simp only [List.foldl_cons, List.foldl_nil, CacheState.taking, brought]
  case made =>
    rw [store]
    cases operation with
    | reload =>
      cases asked
      exact handed_out_of_load brought
    | ensureLoaded | forEditing =>
      by_cases populated : session.cache.state.snapshot.isSome
      · simp [Cache.answers, populated] at asked
      · simp only [Cache.answers, populated] at asked ⊢
        cases asked
        exact handed_out_of_load brought
    | save content migrate =>
      cases asked
      exact handed_out_of_write brought
    | writeWithLock command =>
      cases asked
      cases outcome : (fileStore.writeWithLock session.store command
          session.cache.state.snapshot).outcome with
      | failed error =>
        rw [outcome] at brought
        cases brought
      | panicked message =>
        rw [outcome] at brought
        cases brought
      | ok result =>
        rw [outcome] at brought
        cases brought
        refine FileStore.lock_handed_out outcome ?_
        cases installed : session.cache.state.snapshot with
        | none => exact .inl rfl
        | some base =>
          refine .inr ?_
          cases done : result.state with
          | updated => rfl
          | unchanged =>
            refine absurd ⟨by simp [installed], ?_⟩ changing
            rw [locked_unchanged_iff]
            exact ⟨result.snapshot, outcome.trans (by rw [← done])⟩
    | register _ | renotify | clearListeners => cases asked

/-- Where an operation asks for an answer, it asks for no other. -/
theorem answers_of_mem {session : Session} {operation : Operation Config}
    {answer : StoreAnswer Config}
    (asked : answer ∈ session.cache.answers fileStore operation session.store) :
    session.cache.answers fileStore operation session.store = [answer] := by
  have few := Cache.answers_length_le fileStore operation session.store session.cache
  obtain ⟨only, single⟩ := List.length_eq_one_iff.mp
    (Nat.le_antisymm few (List.length_pos_of_mem asked))
  rw [single, List.mem_singleton] at asked
  rw [single, asked]

/-- An operation that is no load that failed, and does not leave an installed configuration as
it is, keeps the pending error or renews. -/
theorem kept_or_renewed (session : Session) (operation : Operation Config)
    (unfailed : ∀ error, .loaded (.failed error) ∉
      session.cache.answers fileStore operation session.store)
    (changing : ¬ session.LeavesUnchanged operation) :
    (session.performed fileStore operation).cache.state = session.cache.state ∨
      ∃ snapshot, session.Renews operation snapshot := by
  have shown : (session.performed fileStore operation).cache.state = _ :=
    session.cache.perform_state fileStore operation session.store
  cases asked : session.cache.answers fileStore operation session.store with
  | nil =>
    rw [asked] at shown
    exact .inl shown
  | cons answer rest =>
    have only := answers_of_mem (asked ▸ List.mem_cons_self (a := answer) (l := rest))
    cases brought : answer.snapshot? with
    | some snapshot => exact .inr ⟨snapshot, renews_of_brought only brought changing⟩
    | none =>
      refine .inl ?_
      rw [only] at shown unfailed
      refine shown.trans ?_
      cases failed : answer.loadFailure? with
      | none => simp only [List.foldl_cons, List.foldl_nil, CacheState.taking, brought, failed]
      | some error =>
        cases answer with
        | loaded outcome =>
          cases outcome with
          | failed error => exact absurd (List.mem_singleton_self _) (unfailed error)
          | ok found => cases failed
          | panicked message => cases failed
        | written outcome => cases failed
        | locked outcome => cases failed

/-- From a session that shows a failure, a history during which no load fails and no locked
write leaves an installed configuration as it is leads to that failure, or has renewed and leads
to no failure. -/
theorem course_kept_or_renewed {start : Session} {error : ConfigError}
    (failed : start.cache.state.lastError = some error) (later : List Happening)
    (unfailed : ∀ (asked : Session) (operation : Operation Config),
      start.Performs later asked operation →
      ∀ other, .loaded (.failed other) ∉ asked.cache.answers fileStore operation asked.store)
    (changing : ∀ (asked : Session) (operation : Operation Config),
      start.Performs later asked operation → ¬ asked.LeavesUnchanged operation) :
    (start.course fileStore later).cache.state.lastError = some error ∨
      ((start.course fileStore later).cache.state.lastError = none ∧
        ∃ (asked : Session) (operation : Operation Config) (snapshot : Snapshot Config),
          start.Performs later asked operation ∧ asked.Renews operation snapshot) := by
  induction later using List.reverseRecOn with
  | nil => exact .inl failed
  | append_singleton later happening ih =>
    have earlier := ih (fun asked operation performs => unfailed asked operation
      (performs_snoc performs)) (fun asked operation performs => changing asked operation
      (performs_snoc performs))
    -- A happening after which readers see what they saw leaves the alternative as it was.
    have still : ((start.course fileStore later).after fileStore happening).cache.state =
        (start.course fileStore later).cache.state →
        (start.course fileStore (later ++ [happening])).cache.state.lastError = some error ∨
          ((start.course fileStore (later ++ [happening])).cache.state.lastError = none ∧
            ∃ (asked : Session) (operation : Operation Config) (snapshot : Snapshot Config),
              start.Performs (later ++ [happening]) asked operation ∧
                asked.Renews operation snapshot) := by
      intro same
      rw [course_snoc, same]
      rcases earlier with kept | ⟨cleared, asked, operation, snapshot, performs, renews⟩
      · exact .inl kept
      · exact .inr ⟨cleared, asked, operation, snapshot, performs_snoc performs, renews⟩
    cases happening with
    | disk change => exact still rfl
    | environment environment => exact still rfl
    | operation operation =>
      have last := performs_last start later operation
      rcases kept_or_renewed _ operation (unfailed _ _ last) (changing _ _ last) with
        same | ⟨snapshot, renews⟩
      · exact still same
      · refine .inr ⟨?_, _, operation, snapshot, last, renews⟩
        rw [course_snoc]
        exact congrArg CacheState.lastError renews.shown

/-- A locked write that leaves an installed configuration as it is shows no failure, and leaves
the machine alone. -/
theorem shown_of_unchanged {session : Session} {command : Command Config}
    (unchanged : session.LeavesUnchanged (.writeWithLock command)) :
    (session.performed fileStore (.writeWithLock command)).cache.state.lastError = none ∧
      (session.performed fileStore (.writeWithLock command)).store.machine =
        session.store.machine := by
  obtain ⟨populated, answered⟩ := unchanged
  obtain ⟨base, installed⟩ := Option.isSome_iff_exists.mp populated
  obtain ⟨snapshot, ended⟩ := (locked_unchanged_iff session command).mp answered
  have shown : (session.performed fileStore (.writeWithLock command)).cache.state =
      session.cache.state.taking (.locked (session.store.writeWithLock command
        session.cache.state.snapshot).outcome) :=
    session.cache.perform_state fileStore (.writeWithLock command) session.store
  have store : (session.performed fileStore (.writeWithLock command)).store =
      (session.store.writeWithLock command session.cache.state.snapshot).state :=
    session.cache.perform_store fileStore (.writeWithLock command) session.store
  refine ⟨?_, ?_⟩
  · rw [shown, ended]
    rfl
  · rw [installed] at ended store
    have ran := FileStore.lock_ran ended
    rw [ran] at ended store
    obtain ⟨_, done⟩ := FileStore.apply_ok ended
    split at done
    · rw [store, done.2]
    · cases done.1

/-- A session that shows no error is valid, and healthy if its health shows what readers see. -/
theorem valid_of_cleared {session : Session} (shown : session.health = session.cache.state.health)
    (cleared : session.cache.state.lastError = none) :
    session.cache.state.validity = .valid ∧ session.health.isHealthy = true := by
  have valid : session.cache.state.validity = .valid := by
    simp only [CacheState.validity, cleared]
  rw [shown, CacheState.health_is_healthy, valid]
  exact ⟨rfl, rfl⟩

/-- A session that shows an error is invalid with that one, and its one report is that of the
error if its health shows what readers see. -/
theorem invalid_of_pending {session : Session} {error : ConfigError}
    (shown : session.health = session.cache.state.health)
    (pending : session.cache.state.lastError = some error) :
    session.cache.state.validity = .invalid error.message ∧
      session.health = ⟨[.error .invalidConfig invalidConfiguration error.message]⟩ ∧
      session.health.isHealthy = false := by
  have invalid : session.cache.state.validity = .invalid error.message := by
    simp only [CacheState.validity, pending]
  have reported := shown.trans (CacheState.health_of_invalid invalid)
  rw [reported]
  exact ⟨invalid, rfl, rfl⟩

/-- A failure is shown until the file was read with success or replaced. Whatever the history of
a session, let a load fail, let no load have failed since, and let no locked write have left an
installed configuration as it is. Then the session is invalid with just that failure, which is
the one report of its health, or it is valid again and some operation since has renewed: it
brought the snapshot of the text that the file held right after it, and that was installed.

A locked write that does leave an installed configuration as it is makes the session valid and
healthy in any case, and does nothing to the machine. -/
theorem invalid_until_renewed (machine : Machine) (path : Path) (before later : List Happening)
    (failing : Operation Config) (error : ConfigError)
    (failed : .loaded (.failed error) ∈
      ((ofPath machine path).course fileStore before).cache.answers fileStore failing
        ((ofPath machine path).course fileStore before).store)
    (unfailed : ∀ (asked : Session) (operation : Operation Config),
      ((ofPath machine path).course fileStore (before ++ [.operation failing])).Performs later
        asked operation →
      ∀ other, .loaded (.failed other) ∉ asked.cache.answers fileStore operation asked.store)
    (changing : ∀ (asked : Session) (operation : Operation Config),
      ((ofPath machine path).course fileStore (before ++ [.operation failing])).Performs later
        asked operation →
      ¬ asked.LeavesUnchanged operation) :
    let start := (ofPath machine path).course fileStore (before ++ [.operation failing])
    let reached := (ofPath machine path).course fileStore (before ++ [.operation failing] ++ later)
    ((reached.cache.state.validity = .invalid error.message ∧
        reached.health = ⟨[.error .invalidConfig invalidConfiguration error.message]⟩ ∧
        reached.health.isHealthy = false) ∨
      (reached.cache.state.validity = .valid ∧ reached.health.isHealthy = true ∧
        ∃ (asked : Session) (operation : Operation Config) (snapshot : Snapshot Config),
          start.Performs later asked operation ∧ asked.Renews operation snapshot)) ∧
    ∀ command : Command Config, reached.LeavesUnchanged (.writeWithLock command) →
      let hidden := reached.performed fileStore (.writeWithLock command)
      hidden.cache.state.validity = .valid ∧ hidden.health.isHealthy = true ∧
        hidden.store.machine = reached.store.machine := by
  intro start reached
  have health : reached.health = reached.cache.state.health :=
    course_health fileStore (ofPath machine path) _ rfl
  refine ⟨?shown, ?hidden⟩
  case shown =>
    have pending : start.cache.state.lastError = some error := by
      have shown : start.cache.state = _ :=
        (congrArg (fun session => session.cache.state) (course_snoc ..)).trans
          (Cache.perform_state fileStore failing _ _)
      rw [shown, answers_of_mem failed]
      rfl
    have same : reached = start.course fileStore later := course_append ..
    rcases course_kept_or_renewed pending later unfailed changing with
      kept | ⟨cleared, renewed⟩
    · exact .inl (invalid_of_pending health (same ▸ kept))
    · obtain ⟨shown, healthy⟩ := valid_of_cleared health (same ▸ cleared)
      exact .inr ⟨shown, healthy, renewed⟩
  case hidden =>
    intro command unchanged hidden
    obtain ⟨cleared, unmoved⟩ := shown_of_unchanged unchanged
    have follows : hidden.health = hidden.cache.state.health := by
      have after := course_health fileStore (ofPath machine path)
        (before ++ [.operation failing] ++ later ++ [.operation (.writeWithLock command)]) rfl
      rw [course_snoc] at after
      exact after
    obtain ⟨shown, healthy⟩ := valid_of_cleared follows cleared
    exact ⟨shown, healthy, unmoved⟩

/-- A disk on which the text of the configuration file breaks off. -/
def brokenDisk : Disk := ⟨[(["config.yaml"], .file "server: [unclosed\n".toUTF8)]⟩

/-- An empty file is loaded, and then its text breaks off. -/
def breakingOff : List Happening := [.operation .reload, .disk fun _ => brokenDisk]

/-- The session of an empty file whose text has broken off since it was loaded. -/
def broken : Session := (ofPath Machine.ofEmptyFile ⟨"config.yaml"⟩).course fileStore breakingOff

/-- A load of the broken text fails, and the snapshot of the empty file stays installed. -/
theorem reload_of_broken : ∃ error : ConfigError, broken.store.load.outcome = .failed error ∧
    (broken.performed fileStore .reload).cache.state =
      ⟨some ⟨{}, {}, checksum ""⟩, some error⟩ := by
  obtain ⟨fault, refused⟩ : ∃ fault, Config.ofYaml "server: [unclosed\n" = .error fault := ⟨_, rfl⟩
  have held : broken.store.readText = .ok "server: [unclosed\n" := rfl
  have new : broken.store.remembered ≠ some (checksum "server: [unclosed\n") := by decide +kernel
  have installed : broken.cache.state = ⟨some ⟨{}, {}, checksum ""⟩, none⟩ := rfl
  rcases FileStore.load_skips_or_reads broken.store with
    ⟨text, found, remembered, _⟩ | ⟨reads, _⟩
  · cases held.symm.trans found
    exact absurd remembered new
  · rw [FileStore.reading_of_malformed held refused] at reads
    refine ⟨_, reads, ?_⟩
    have shown : (broken.performed fileStore .reload).cache.state =
        broken.cache.state.taking (.loaded broken.store.load.outcome) :=
      Cache.reload_state fileStore broken.store broken.cache
    rw [shown, reads, installed]
    rfl

/-- After a load of the broken text failed, a locked write that is refused leaves the failure as
it is. -/
theorem invalid_after_refusal :
    ∃ error : ConfigError,
      .loaded (.failed error) ∈ broken.cache.answers fileStore .reload broken.store ∧
      ((ofPath Machine.ofEmptyFile ⟨"config.yaml"⟩).course fileStore
        (breakingOff ++ [.operation .reload] ++
          [.operation (.writeWithLock (Command.setServerPort 0))])).cache.state.validity =
        .invalid error.message := by
  obtain ⟨error, failed, shown⟩ := reload_of_broken
  have asked : .loaded (.failed error) ∈ broken.cache.answers fileStore .reload broken.store :=
    List.mem_singleton.mpr (congrArg StoreAnswer.loaded failed.symm)
  have reached : (ofPath Machine.ofEmptyFile ⟨"config.yaml"⟩).course fileStore
      (breakingOff ++ [.operation .reload]) = broken.performed fileStore .reload := course_snoc ..
  obtain ⟨refusal, refused⟩ : ∃ refusal, ((broken.performed fileStore .reload).store.writeWithLock
      (Command.setServerPort 0) (broken.performed fileStore .reload).cache.state.snapshot).outcome =
        .failed refusal := by
    rw [shown, FileStore.lock_on_snapshot]
    exact ⟨_, rfl⟩
  have answers : (broken.performed fileStore .reload).cache.answers fileStore
      (.writeWithLock (Command.setServerPort 0)) (broken.performed fileStore .reload).store =
        [.locked (.failed refusal)] :=
    congrArg (fun outcome => [StoreAnswer.locked outcome]) refused
  have only : ∀ {asked operation},
      ((ofPath Machine.ofEmptyFile ⟨"config.yaml"⟩).course fileStore
        (breakingOff ++ [.operation .reload])).Performs
          [.operation (.writeWithLock (Command.setServerPort 0))] asked operation →
      asked = broken.performed fileStore .reload ∧
        operation = .writeWithLock (Command.setServerPort 0) := by
    rintro asked operation ⟨passed, rest, split, rfl⟩
    cases passed with
    | nil =>
      cases split
      exact ⟨reached, rfl⟩
    | cons happening passed => simp at split
  have stays := invalid_until_renewed Machine.ofEmptyFile ⟨"config.yaml"⟩ breakingOff
    [.operation (.writeWithLock (Command.setServerPort 0))] .reload error asked ?unfailed ?changing
  · rcases stays.1 with ⟨invalid, _⟩ | ⟨_, _, _, _, snapshot, performs, renews⟩
    · exact ⟨error, asked, invalid⟩
    · obtain ⟨rfl, rfl⟩ := only performs
      have brought := renews.brought
      rw [answers] at brought
      cases brought
  case unfailed =>
    intro asked operation performs other
    obtain ⟨rfl, rfl⟩ := only performs
    simp [answers]
  case changing =>
    intro asked operation performs unchanged
    obtain ⟨rfl, rfl⟩ := only performs
    obtain ⟨snapshot, ended⟩ := (locked_unchanged_iff _ _).mp unchanged.2
    cases refused.symm.trans ended

/-- After a load of the broken text failed, a locked write that changes nothing makes the session
valid and healthy, though the file still holds the broken text. -/
theorem unchanged_hides_failure :
    let failed := broken.performed fileStore .reload
    let hidden := failed.performed fileStore (.writeWithLock (Command.setServerPort 8153))
    (∃ message, failed.cache.state.validity = .invalid message) ∧
      failed.health.isHealthy = false ∧
      hidden.cache.state.validity = .valid ∧ hidden.health.isHealthy = true ∧
      ∃ text fault, hidden.store.readText = .ok text ∧ Config.ofYaml text = .error fault := by
  intro failed hidden
  obtain ⟨error, _, shown⟩ := reload_of_broken
  have shown : failed.cache.state = ⟨some ⟨{}, {}, checksum ""⟩, some error⟩ := shown
  have followed : broken.health = broken.cache.state.health := course_health fileStore _ _ rfl
  have health : failed.health = failed.cache.state.health :=
    course_health fileStore broken [.operation .reload] followed
  have health' : hidden.health = hidden.cache.state.health :=
    course_health fileStore failed
      [.operation (.writeWithLock (Command.setServerPort 8153))] health
  have unchanged : failed.LeavesUnchanged (.writeWithLock (Command.setServerPort 8153)) := by
    refine ⟨by rw [shown]; rfl, (locked_unchanged_iff _ _).mpr ?_⟩
    rw [shown, FileStore.lock_on_snapshot]
    exact ⟨_, rfl⟩
  obtain ⟨cleared, unmoved⟩ := shown_of_unchanged unchanged
  obtain ⟨invalid, _, unhealthy⟩ := invalid_of_pending health (congrArg CacheState.lastError shown)
  obtain ⟨valid, healthy⟩ := valid_of_cleared health' cleared
  refine ⟨⟨_, invalid⟩, unhealthy, valid, healthy, "server: [unclosed\n", _, ?_, rfl⟩
  have path : hidden.store.path = failed.store.path := (turn failed _).surroundings.path
  calc
    hidden.store.readText = failed.store.readText := by
      simp only [FileStore.readText, path]
      rw [show hidden.store.machine = failed.store.machine from unmoved]
    _ = broken.store.load.state.readText :=
      congrArg FileStore.readText (Cache.reload_store fileStore broken.store broken.cache)
    _ = broken.store.readText := FileStore.load_read_text broken.store
    _ = .ok "server: [unclosed\n" := rfl

end LastGood.Session
