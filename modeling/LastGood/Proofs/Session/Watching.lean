import LastGood.Proofs.Session.Shortcut
import LastGood.Proofs.Session.Validity
import LastGood.Proofs.Watcher.Loop

/-!
# The last change of a watched file

Whatever the order in which files change, notices arrive and reloads run, readers see the last
change of the file once the watcher is settled. A reload that was started after that change has
read what the file holds since. It may have skipped a text that it knew, but then that text was
shown already; and an earlier failure made it read the text again.

Each step of the loop and around it is a happening of the session behind the cache, or none:
a change is a change, and a reload happens when it calls the store. So what is known of loads
over the course of a session is known of the reloads of a watcher, too.
-/

namespace LastGood

namespace Watching

/-- The watcher of the file of a session, when it has just been started. -/
def ofSession (session : Session) : Watching where
  watcher := .ofStore fileStore session.store
  cache := session.cache
  store := session.store

/-- The file held a text at some moment of a run. -/
def HeldWhile (watching : Watching) (steps : List WatchStep) (text : String) : Prop :=
  ∃ passed rest, steps = passed ++ rest ∧ (watching.run passed).store.readText = .ok text

/-- What readers see as soon as the answer of the store, if there is one, has been taken. -/
def shown (watching : Watching) : CacheState Config :=
  match watching.phase with
  | .answered called => watching.cache.state.taking (.loaded called.outcome)
  | _ => watching.cache.state

/-- While no answer is to be taken, readers see what they see. -/
theorem shown_of_free {watching : Watching}
    (free : ∀ called, watching.phase ≠ .answered called) :
    watching.shown = watching.cache.state := by
  unfold shown
  split
  · exact absurd ‹_› (free _)
  · rfl

/-- A session over the same store that shows the same. -/
structure Matches (watching : Watching) (session : Session) : Prop where
  /-- The stores are the same. -/
  store : watching.store = session.store
  /-- Readers see the same. -/
  shown : watching.shown = session.cache.state

/-- A reload of a matching session is the reload that is made here. -/
theorem Matches.reloaded {before after : Watching} {session : Session}
    (matching : before.Matches session)
    (store : after.store = before.store.load.state)
    (shown : after.shown = before.shown.taking (.loaded before.store.load.outcome)) :
    after.Matches (session.after fileStore (.operation .reload)) := by
  constructor
  · rw [store, matching.store]
    exact (Cache.reload_store fileStore session.store session.cache).symm
  · rw [shown, matching.shown, matching.store]
    exact (Cache.reload_state fileStore session.store session.cache).symm

/-- A step is a happening of the session behind the cache, or none. -/
theorem Moves.matches {before after : Watching} {step : WatchStep} {session : Session}
    (moves : Moves before step after) (matching : before.Matches session) :
    after.Matches session ∨ ∃ happening : Happening,
      (∀ environment, happening ≠ .environment environment) ∧
        after.Matches (session.after fileStore happening) := by
  cases moves with
  | none => exact .inl matching
  | heard | ignored | drained => exact .inl ⟨matching.store, matching.shown⟩
  | received waiting =>
    have free := matching.shown
    simp only [shown, waiting] at free
    exact .inl ⟨matching.store, free⟩
  | started drained =>
    have free := matching.shown
    simp only [shown, drained.1] at free
    exact .inl ⟨matching.store, free⟩
  | @ended called alive answered =>
    have taken := matching.shown
    simp only [shown, answered] at taken
    refine .inl ⟨matching.store, Eq.trans ?_ taken⟩
    exact Cache.reload_state _ _ _
  | changes change notices =>
    refine .inr ⟨.disk change, by simp, ?_, matching.shown⟩
    simp only [Session.after, Session.onDisk, matching.store]
  | called reloading =>
    refine .inr ⟨.operation .reload, by simp, matching.reloaded rfl ?_⟩
    simp only [shown, reloading]
  | elsewhere free =>
    refine .inr ⟨.operation .reload, by simp, matching.reloaded ?_ ?_⟩
    · exact Cache.reload_store fileStore before.store before.cache
    · rw [shown_of_free free]
      refine (shown_of_free ?_).trans (Cache.reload_state fileStore before.store before.cache)
      exact free

/-- A run takes the session behind the cache through a course, in the same environment, during
which the file holds nothing that it does not hold while the watcher runs. -/
theorem run_matches (session : Session) (steps : List WatchStep) :
    ∃ happenings : List Happening,
      (∀ environment, Happening.environment environment ∉ happenings) ∧
        ((ofSession session).run steps).Matches (session.course fileStore happenings) ∧
        ∀ text, session.HeldDuring happenings text →
          (ofSession session).HeldWhile steps text := by
  induction steps using List.reverseRecOn with
  | nil =>
    refine ⟨[], by simp, ⟨rfl, rfl⟩, ?_⟩
    rintro text ⟨before, rest, split, held⟩
    obtain ⟨rfl, rfl⟩ := List.append_eq_nil_iff.mp split.symm
    exact ⟨[], [], rfl, held⟩
  | append_singleton steps step ih =>
    obtain ⟨happenings, steady, matching, held⟩ := ih
    -- What was held earlier is held during the longer run; a happening adds one moment at most.
    have held_longer : ∀ text, (ofSession session).HeldWhile steps text →
        (ofSession session).HeldWhile (steps ++ [step]) text := by
      rintro text ⟨passed, rest, rfl, holds⟩
      exact ⟨passed, rest ++ [step], by simp, holds⟩
    rcases (moves _ step).matches matching with matching | ⟨happening, steady', matching⟩
    · rw [← run_snoc] at matching
      exact ⟨happenings, steady, matching, fun text holds => held_longer text (held text holds)⟩
    · rw [← run_snoc, ← Session.course_snoc] at matching
      refine ⟨happenings ++ [happening], ?_, matching, ?_⟩
      · intro environment member
        rcases List.mem_append.mp member with earlier | last
        · exact steady environment earlier
        · exact steady' environment (List.mem_singleton.mp last).symm
      · rintro text ⟨before, rest, split, holds⟩
        rcases List.eq_nil_or_concat rest with rfl | ⟨others, final, rfl⟩
        · rw [List.append_nil] at split
          rw [← split, ← matching.store] at holds
          exact ⟨steps ++ [step], [], by simp, holds⟩
        · rw [List.concat_eq_append, ← List.append_assoc] at split
          exact held_longer text (held text ⟨before, others, List.append_inj_left' split rfl, holds⟩)

/-- A load made now may skip what the file holds, but shows what reading it would show, and panics
if that does. -/
structure Rereads (watching : Watching) : Prop where
  /-- Readers see what reading the file would show. -/
  shown : watching.shown.taking (.loaded watching.store.load.outcome) =
    watching.shown.taking (.loaded (watching.store.reading.map some))
  /-- A panic is not skipped. -/
  panics : ∀ message, watching.store.reading = .panicked message →
    watching.store.load.outcome = .panicked message

/-- At every moment of a run a load shows what reading the file would show, in one environment and
if checksums tell the texts that the file has held apart. -/
theorem run_rereads (machine : Machine) (path : Path) (history : List Happening)
    (steady : ∀ environment, Happening.environment environment ∉ history)
    (steps : List WatchStep)
    (distinct : CollisionFree fun text =>
      (Session.ofPath machine path).HeldDuring history text ∨
        (ofSession ((Session.ofPath machine path).course fileStore history)).HeldWhile steps text)
    (passed rest : List WatchStep) (split : steps = passed ++ rest) :
    let reached := (ofSession ((Session.ofPath machine path).course fileStore history)).run passed
    reached.Rereads ∧ reached.store.machine.environment = machine.environment := by
  intro reached
  obtain ⟨happenings, steady', matching, held⟩ :=
    run_matches ((Session.ofPath machine path).course fileStore history) passed
  rw [← Session.course_append] at matching
  have unmoved : ∀ environment, Happening.environment environment ∉ history ++ happenings := by
    intro environment member
    rcases List.mem_append.mp member with earlier | later
    · exact steady environment earlier
    · exact steady' environment later
  have apart : CollisionFree ((Session.ofPath machine path).HeldDuring (history ++ happenings)) := by
    have known : ∀ text, (Session.ofPath machine path).HeldDuring (history ++ happenings) text →
        (Session.ofPath machine path).HeldDuring history text ∨
          (ofSession ((Session.ofPath machine path).course fileStore history)).HeldWhile steps
            text := by
      intro text holds
      rcases Session.held_append holds with earlier | later
      · exact .inl earlier
      · obtain ⟨before, others, inner, holds⟩ := held text later
        exact .inr ⟨before, others ++ rest, by rw [split, inner, List.append_assoc], holds⟩
    intro text other holds holds'
    exact distinct text other (known text holds) (known other holds')
  have knows := Session.course_knows machine path (history ++ happenings) unmoved apart
  have environment := Session.course_environment (Session.ofPath machine path)
    (history ++ happenings) unmoved
  refine ⟨⟨?_, ?_⟩, ?_⟩
  · rw [matching.shown, matching.store]
    exact knows.load.1
  · intro message crashed
    rw [matching.store] at crashed ⊢
    exact knows.load_panics crashed
  · rw [matching.store]
    exact environment

/-- No step but a change from outside changes what the file holds. -/
theorem Moves.read_text {before after : Watching} {step : WatchStep}
    (moves : Moves before step after) (inside : ∀ change notices, step ≠ .changes change notices) :
    after.store.readText = before.store.readText := by
  cases moves with
  | changes change notices => exact absurd rfl (inside change notices)
  | called => exact FileStore.load_read_text before.store
  | elsewhere =>
    have store := Cache.reload_store fileStore before.store before.cache
    exact (congrArg FileStore.readText store).trans (FileStore.load_read_text before.store)
  | _ => rfl

/-- Others leave the text of the file alone while some steps are made. Other files may change. -/
def LeftAlone (watching : Watching) (steps : List WatchStep) : Prop :=
  ∀ passed change notices rest, steps = passed ++ .changes change notices :: rest →
    (watching.run (passed ++ [.changes change notices])).store.readText =
      (watching.run passed).store.readText

/-- A file that is left alone holds the same at every moment. -/
theorem LeftAlone.read_text {watching : Watching} {steps : List WatchStep}
    (alone : watching.LeftAlone steps) {passed rest : List WatchStep}
    (split : steps = passed ++ rest) :
    (watching.run passed).store.readText = watching.store.readText := by
  induction passed using List.reverseRecOn generalizing rest with
  | nil => rfl
  | append_singleton passed step ih =>
    rw [List.append_assoc, List.singleton_append] at split
    refine Eq.trans ?_ (ih split)
    by_cases outside : ∃ change notices, step = .changes change notices
    · obtain ⟨change, notices, rfl⟩ := outside
      exact alone passed change notices rest split
    · rw [run_snoc]
      refine (moves _ step).read_text ?_
      intro change notices same
      exact outside ⟨change, notices, same⟩

/-- A reload has panicked, or is about to. -/
def Breaks (watching : Watching) : Prop :=
  watching.alive = false ∨
    ∃ called message, watching.phase = .answered called ∧ called.outcome = .panicked message

/-- How far a watcher has come with a change of its file, after which it read as it does now. It
shows what it showed at the change, or that and what reading the file makes of it. The latter it
shows already if no reload is owed and none is about to call the store. -/
structure Catching (base : CacheState Config) (reading : Outcome (Snapshot Config))
    (watching : Watching) : Prop where
  /-- Readers see one of two things. -/
  seen : watching.shown = base ∨ watching.shown = base.taking (.loaded (reading.map some))
  /-- A reload is still to come, or the file has been read. -/
  close : 0 < watching.owed ∨ watching.phase = .reloading ∨
    watching.shown = base.taking (.loaded (reading.map some)) ∧
      ∀ message, reading = .panicked message → watching.Breaks

/-- A load shows what reading the file makes of what was shown at the change. -/
theorem Catching.load {base : CacheState Config} {reading : Outcome (Snapshot Config)}
    {watching : Watching} (catching : watching.Catching base reading)
    (rereads : watching.Rereads) (same : watching.store.reading = reading) :
    watching.shown.taking (.loaded watching.store.load.outcome) =
      base.taking (.loaded (reading.map some)) := by
  rw [rereads.shown, same]
  rcases catching.seen with seen | seen
  · rw [seen]
  · rw [seen, CacheState.taking_twice]

/-- Every step keeps up with the change, if loads show what reading the file would show. -/
theorem Moves.catching {base : CacheState Config} {reading : Outcome (Snapshot Config)}
    {before after : Watching} {step : WatchStep} (moves : Moves before step after)
    (rereads : before.Rereads) (same : before.store.reading = reading)
    (catching : before.Catching base reading) : after.Catching base reading := by
  have read := catching.load rereads same
  have paid := moves.owed.1
  -- Most steps touch nothing that is shown, and start no reload.
  have still : after.shown = before.shown → after.phase = before.phase →
      after.alive = before.alive → step ≠ .starts → after.Catching base reading := by
    intro shown phase alive other
    refine ⟨shown ▸ catching.seen, ?_⟩
    rcases catching.close with owing | reloading | ⟨showing, breaks⟩
    · exact .inl ((paid owing).resolve_right fun started => other started.1)
    · exact .inr (.inl (phase.trans reloading))
    · refine .inr (.inr ⟨shown.trans showing, ?_⟩)
      simpa only [Breaks, phase, alive] using breaks
  cases moves with
  | none => exact catching
  | changes | heard | ignored | drained => exact still rfl rfl rfl (by simp)
  | received waiting arrived =>
    have shown := catching.seen
    simp only [Watching.shown, waiting] at shown
    exact ⟨shown, .inl (by simp [Watching.owed, takenCount])⟩
  | started drained =>
    have shown := catching.seen
    simp only [Watching.shown, drained.1] at shown
    exact ⟨shown, .inr (.inl rfl)⟩
  | called reloading =>
    rw [shown_of_free (by simp [reloading])] at read
    refine ⟨.inr read, .inr (.inr ⟨read, ?_⟩)⟩
    intro message crashed
    exact .inr ⟨_, message, rfl, rereads.panics message (same.trans crashed)⟩
  | @ended called alive answered broken dead =>
    have shown : (before.cache.reload { fileStore with load := fun _ => called }
        before.store).cache.state = before.shown := by
      simp only [Watching.shown, answered]
      exact Cache.reload_state _ _ _
    have seen := catching.seen
    rw [← shown] at seen
    refine ⟨seen, ?_⟩
    rcases catching.close with owing | reloading | ⟨showing, breaks⟩
    · exact .inl ((paid owing).resolve_right (by simp))
    · exact absurd (answered.symm.trans reloading) (by simp)
    · refine .inr (.inr ⟨shown.trans showing, ?_⟩)
      intro message crashed
      rcases breaks message crashed with ended | ⟨other, text, phase, panicked⟩
      · exact .inl (dead ended)
      · cases answered.symm.trans phase
        exact .inl (broken text panicked)
  | elsewhere free =>
    rw [shown_of_free free] at read
    have shown : Watching.shown
        { before with
          cache := (before.cache.reload fileStore before.store).cache
          store := (before.cache.reload fileStore before.store).store } =
        base.taking (.loaded (reading.map some)) := by
      refine (shown_of_free ?_).trans
        ((Cache.reload_state fileStore before.store before.cache).trans read)
      exact free
    refine ⟨.inr shown, ?_⟩
    rcases catching.close with owing | reloading | ⟨_, breaks⟩
    · exact .inl ((paid owing).resolve_right (by simp))
    · exact .inr (.inl reloading)
    · exact .inr (.inr ⟨shown, breaks⟩)

/-- At every moment since others have left the text of the file alone, a load shows what reading
the file in the end shows. -/
theorem run_alike (machine : Machine) (path : Path) (history : List Happening)
    (steady : ∀ environment, Happening.environment environment ∉ history)
    (before after : List WatchStep)
    (distinct : CollisionFree fun text =>
      (Session.ofPath machine path).HeldDuring history text ∨
        (ofSession ((Session.ofPath machine path).course fileStore history)).HeldWhile
          (before ++ after) text)
    (alone : ((ofSession ((Session.ofPath machine path).course fileStore history)).run
      before).LeftAlone after) :
    let start := ofSession ((Session.ofPath machine path).course fileStore history)
    ∀ passed rest, after = passed ++ rest →
      ((start.run before).run passed).Rereads ∧
        ((start.run before).run passed).store.reading =
          (start.run (before ++ after)).store.reading := by
  intro start passed rest split
  have here := run_rereads machine path history steady _ distinct (before ++ passed) rest
    (by rw [split, List.append_assoc])
  have there := run_rereads machine path history steady _ distinct (before ++ after) []
    (List.append_nil _).symm
  rw [run_append] at here there
  refine ⟨here.1, ?_⟩
  rw [run_append]
  refine FileStore.reading_congr ?_ (here.2.trans there.2.symm)
  exact (alone.read_text split).trans (alone.read_text (List.append_nil after).symm).symm

/-- A run keeps up with the change, if at every moment a load shows what reading the file would
show, and that stays the same. -/
theorem run_catching {base : CacheState Config} {reading : Outcome (Snapshot Config)}
    {changed : Watching} {steps : List WatchStep}
    (alike : ∀ passed rest, steps = passed ++ rest →
      (changed.run passed).Rereads ∧ (changed.run passed).store.reading = reading)
    (catching : changed.Catching base reading) {passed rest : List WatchStep}
    (split : steps = passed ++ rest) : (changed.run passed).Catching base reading := by
  induction passed using List.reverseRecOn generalizing rest with
  | nil => exact catching
  | append_singleton passed step ih =>
    rw [List.append_assoc] at split
    obtain ⟨rereads, same⟩ := alike passed ([step] ++ rest) split
    rw [run_snoc]
    exact (moves _ step).catching rereads same (ih split)

/-- A settled watcher that has kept up with a change shows what reading the file makes of what was
shown before. That is no panic, which would have ended the loop. -/
theorem Catching.settled {base : CacheState Config} {reading : Outcome (Snapshot Config)}
    {reached : Watching} (catching : reached.Catching base reading) (settled : reached.Settled) :
    reached.cache.state = base.taking (.loaded (reading.map some)) ∧
      ∀ message, reading ≠ .panicked message := by
  have free : ∀ called, reached.phase ≠ .answered called := by simp [settled.waiting]
  rcases catching.close with owing | reloading | ⟨shown, breaks⟩
  · simp [settled.owes_nothing] at owing
  · simp [settled.waiting] at reloading
  · refine ⟨(shown_of_free free).symm.trans shown, ?_⟩
    intro message crashed
    rcases breaks message crashed with ended | ⟨called, _, answered, _⟩
    · simp [settled.alive] at ended
    · exact free called answered

/-- A reading that fails leaves the snapshot that was installed when the reload was started. -/
theorem Catching.failed {base : CacheState Config} {reading : Outcome (Snapshot Config)}
    {asked : Watching} {error : ConfigError} (catching : asked.Catching base reading)
    (drained : asked.Drained) (failed : reading = .failed error) :
    base.taking (.loaded (reading.map some)) =
      { asked.cache.state with lastError := some error } := by
  have shown : asked.shown = asked.cache.state := shown_of_free (by simp [drained.1])
  rw [← shown]
  rcases catching.seen with seen | seen
  · rw [seen, failed]
    rfl
  · rw [seen, failed]
    rfl

/-- A watcher does not miss the last change of its file. Let a cache be watched after any history
in one environment, and let any steps follow in any order: changes of the disk, notices that
arrive, and what the loop does, while others may reload the cache, too.

Notices that do not announce the file make no difference, and no more reloads are started than
notices announce it.

Let one of the changes be announced, and others leave the text of the file alone from then on. If
the watcher is settled in the end, and checksums tell the texts apart that the file has held, then
a reload was started after that change. If both readings of the text succeed, they are installed
with its checksum, and the state is valid. If the file has no text, or one of the readings is an
error, then the state is invalid with that error, and the snapshot is the one that was installed
when the reload was started. A reading that crashes is never behind it: that ends the loop. -/
theorem last_change_shown (machine : Machine) (path : Path) (history : List Happening)
    (steady : ∀ environment, Happening.environment environment ∉ history) :
    let start := ofSession ((Session.ofPath machine path).course fileStore history)
    (∀ steps : List WatchStep,
      start.run (steps.map (·.announcing start.watcher.path)) = (start.run steps).announced ∧
        (start.run steps).reloads ≤
          (steps.flatMap WatchStep.notices).countP (·.Announces start.watcher.path)) ∧
    ∀ (before after : List WatchStep) (change : Disk → Disk) (notices : List Notice),
      let steps := before ++ [.changes change notices] ++ after
      let changed := start.run (before ++ [.changes change notices])
      let reached := start.run steps
      (∃ notice ∈ notices, notice.Announces start.watcher.path) →
      changed.LeftAlone after →
      CollisionFree (fun text =>
        (Session.ofPath machine path).HeldDuring history text ∨ start.HeldWhile steps text) →
      reached.Settled →
      ∃ passed rest, after = passed ++ .starts :: rest ∧
        let asked := changed.run passed
        let state := reached.cache.state
        let fails := fun error : ConfigError =>
          state = { asked.cache.state with lastError := some error } ∧
            state.validity = .invalid error.message
        asked.Drained ∧
        (∀ error, reached.store.readText = .error error → fails error) ∧
        ∀ text, reached.store.readText = .ok text →
          (∀ fault, Config.ofYaml text = .error fault → fails (.parse fault.message)) ∧
          ∀ editable, Config.ofYaml text = .ok editable →
            (∀ runtime, Config.runtimeOfYaml machine.environment text = .ok runtime →
              state = ⟨some ⟨runtime, editable, checksum text⟩, none⟩ ∧
                state.current fileStore.fallback = runtime ∧ state.validity = .valid) ∧
            ∀ fault, Config.runtimeOfYaml machine.environment text = .error fault →
              (∀ message, fault ≠ .crash message) ∧ fails (.parse fault.message) := by
  intro start
  refine ⟨?noise, ?change⟩
  case noise =>
    intro steps
    refine ⟨run_announced start steps, ?_⟩
    have bounded := run_reloads start steps
    have nothing : start.reloads + start.owed = 0 := rfl
    omega
  case change =>
    intro before after change notices steps changed reached announced alone distinct settled
    have reached_eq : reached = changed.run after := run_append ..
    have environment : reached.store.machine.environment = machine.environment :=
      (run_rereads machine path history steady steps distinct steps []
        (List.append_nil steps).symm).2
    have alike : ∀ passed rest, after = passed ++ rest →
        (changed.run passed).Rereads ∧
          (changed.run passed).store.reading = reached.store.reading :=
      run_alike machine path history steady _ after distinct alone
    have owing : 0 < changed.owed := by
      rw [← run_watcher start before] at announced
      simpa only [changed, run_snoc] using owed_of_announced announced change
    have catching : changed.Catching changed.shown reached.store.reading := ⟨.inl rfl, .inl owing⟩
    obtain ⟨passed, rest, split, drained⟩ :=
      run_started owing (reached_eq ▸ settled.owes_nothing)
    refine ⟨passed, rest, split, ?_⟩
    intro asked state fails
    have asking : asked.Catching changed.shown reached.store.reading :=
      run_catching alike catching split
    have ending : reached.Catching changed.shown reached.store.reading :=
      reached_eq ▸ run_catching alike catching (List.append_nil after).symm
    obtain ⟨shown, uncrashed⟩ := ending.settled settled
    have failing : ∀ error, reached.store.reading = .failed error → fails error := by
      intro error failed
      have same : state = { asked.cache.state with lastError := some error } :=
        shown.trans (asking.failed drained failed)
      exact ⟨same, by rw [same]; rfl⟩
    refine ⟨drained, ?_, ?_⟩
    · intro error unread
      refine failing error ?_
      simp only [FileStore.reading, unread]
    intro text held
    refine ⟨?_, ?_⟩
    · intro fault refused
      exact failing _ (FileStore.reading_of_malformed held refused)
    intro editable edited
    have reading := FileStore.reading_of_editable held edited
    rw [environment] at reading
    refine ⟨?_, ?_⟩
    · intro runtime read
      have same : state = ⟨some ⟨runtime, editable, checksum text⟩, none⟩ := by
        refine shown.trans ?_
        rw [reading, read]
        rfl
      rw [same]
      exact ⟨rfl, rfl, rfl⟩
    · intro fault refused
      rw [refused] at reading
      have plain : ∀ message, fault ≠ .crash message := by
        rintro message rfl
        exact uncrashed message reading
      rw [FileStore.outcome_of_error plain] at reading
      exact ⟨plain, failing _ reading⟩

/-- Steps among which there is no change of the disk leave the file alone. -/
theorem left_alone_of_inside {watching : Watching} {steps : List WatchStep}
    (inside : ∀ change notices, .changes change notices ∉ steps) : watching.LeftAlone steps := by
  intro passed change notices rest split
  exact absurd (split ▸ by simp) (inside change notices)

/-- A machine on which the text of the configuration file breaks off. -/
def brokenMachine : Machine := { disk := Session.brokenDisk }

/-- The broken file is watched. -/
def ofBroken : Watching :=
  ofSession ((Session.ofPath brokenMachine ⟨"config.yaml"⟩).course fileStore [])

/-- The broken file is known to have been touched, and a reload has read it. -/
def touching : List WatchStep :=
  let touched : Notice := ⟨.modified, [⟨"config.yaml"⟩]⟩
  [.changes id [touched], .arrives touched, .receives, .starts, .calls]

/-- Another file has taken the place of the file. -/
def replaced : Notice := ⟨.modified, [⟨"config.yaml.tmp"⟩, ⟨"config.yaml"⟩]⟩

/-- An empty file takes the place of the file. -/
def replacing : WatchStep := .changes (fun _ => Machine.ofEmptyFile.disk) [replaced]

/-- The first reload ends, and the loop makes another one. -/
def catchingUp : List WatchStep :=
  [.ends, .arrives replaced, .receives, .starts, .calls, .ends]

/-- The texts of that run are the broken one and the empty one. -/
theorem texts_of_replaced {text : String}
    (held : (Session.ofPath brokenMachine ⟨"config.yaml"⟩).HeldDuring [] text ∨
      ofBroken.HeldWhile (touching ++ [replacing] ++ catchingUp) text) :
    text = "server: [unclosed\n" ∨ text = "" := by
  have broken : ofBroken.store.readText = .ok "server: [unclosed\n" := rfl
  have empty : (ofBroken.run (touching ++ [replacing])).store.readText = .ok "" := rfl
  have touched : ofBroken.LeftAlone touching := by
    intro passed change notices rest split
    cases passed with
    | nil =>
      cases split
      rfl
    | cons first passed =>
      have later : .changes change notices ∈ touching.tail := by
        rw [split]
        simp
      simp [touching] at later
  have still : (ofBroken.run (touching ++ [replacing])).LeftAlone catchingUp :=
    left_alone_of_inside (by simp [catchingUp])
  rcases held with ⟨passed, rest, split, held⟩ | ⟨passed, rest, split, held⟩
  · obtain ⟨rfl, rfl⟩ := List.append_eq_nil_iff.mp split.symm
    exact .inl (Except.ok.inj (held.symm.trans broken))
  · rcases List.append_eq_append_iff.mp split with ⟨others, rfl, inner⟩ | ⟨others, inner, rfl⟩
    · rw [run_append] at held
      exact .inr (Except.ok.inj (held.symm.trans ((still.read_text inner).trans empty)))
    · rcases List.eq_nil_or_concat others with rfl | ⟨others, final, rfl⟩
      · rw [List.append_nil] at inner
        rw [← inner] at held
        exact .inr (Except.ok.inj (held.symm.trans empty))
      · rw [List.concat_eq_append, ← List.append_assoc] at inner
        have same := touched.read_text (List.append_inj_left' inner rfl)
        exact .inl (Except.ok.inj (held.symm.trans (same.trans broken)))

/-- An empty file takes the place of a broken one while a reload has read the latter and not ended
yet. Another reload follows, and the empty file is what is shown in the end. -/
theorem last_change_shown_replaced :
    (ofBroken.run (touching ++ [replacing] ++ catchingUp)).Settled ∧
      (ofBroken.run (touching ++ [replacing] ++ catchingUp)).cache.state =
        ⟨some ⟨{}, {}, checksum ""⟩, none⟩ := by
  have settled : (ofBroken.run (touching ++ [replacing] ++ catchingUp)).Settled :=
    ⟨rfl, rfl, rfl, rfl⟩
  have distinct : CollisionFree fun text =>
      (Session.ofPath brokenMachine ⟨"config.yaml"⟩).HeldDuring [] text ∨
        ofBroken.HeldWhile (touching ++ [replacing] ++ catchingUp) text :=
    collision_free_of_two (by decide +kernel) texts_of_replaced
  have announced : ∃ notice ∈ [replaced], notice.Announces ofBroken.watcher.path := by
    decide +kernel
  have alone : (ofBroken.run (touching ++ [replacing])).LeftAlone catchingUp :=
    left_alone_of_inside (by simp [catchingUp])
  obtain ⟨passed, rest, _, _, _, shown⟩ :=
    (last_change_shown brokenMachine ⟨"config.yaml"⟩ [] (by simp)).2 touching catchingUp
      (fun _ => Machine.ofEmptyFile.disk) [replaced] announced alone distinct settled
  exact ⟨settled, (((shown "" rfl).2 {} rfl).1 {} rfl).1⟩

end Watching

end LastGood
