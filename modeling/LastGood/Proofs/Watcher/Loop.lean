import Mathlib.Data.List.Count
import Mathlib.Data.List.Induction
import LastGood.Proofs.Cache.Effect
import LastGood.Store.File
import LastGood.Watcher

/-!
# The loop of a watcher among others

While the loop of a watcher takes notices and reloads, others change the disk, what they made
known is on its way, and it arrives in whatever order. Someone else may reload the cache, too,
but not while a reload holds it, which is from its call of the store to its end. All of these
steps may come in any order and any number. A step that cannot be made at the time is none.

A reload is owed for every notice that asks for one, from the moment it is on its way to the
moment a reload is started. So where nothing is owed any more, a reload was started since the
latest of them; and where there was none, no reload was started.
-/

namespace LastGood

/-- A notice says that what has the name of a file was created or modified. -/
def Notice.Announces (path : Path) (notice : Notice) : Prop :=
  (notice.kind = .created ∨ notice.kind = .modified) ∧
    ∃ named ∈ notice.paths, named.fileName? = path.fileName?

instance (path : Path) (notice : Notice) : Decidable (notice.Announces path) :=
  inferInstanceAs (Decidable (_ ∧ _))

/-- A watcher is asked for a reload by the notices that announce its file, and by no other. -/
theorem Watcher.is_relevant_iff (watcher : Watcher) (notice : Notice) :
    watcher.isRelevant notice = true ↔ notice.Announces watcher.path := by
  simp [Watcher.isRelevant, Notice.Announces]

/-- A step of the loop of a watcher, or of what goes on around it. -/
inductive WatchStep where
  /-- Others change the disk, and what is made known of that is on its way. -/
  | changes (change : Disk → Disk) (notices : List Notice)
  /-- A notice arrives. -/
  | arrives (notice : Notice)
  /-- The loop takes the first notice of a burst. -/
  | receives
  /-- The loop takes another notice of a burst. -/
  | drains
  /-- The loop starts to reload. -/
  | starts
  /-- The reload calls the store. -/
  | calls
  /-- The reload ends. -/
  | ends
  /-- Someone else reloads the cache. -/
  | elsewhere

namespace WatchStep

/-- What is on its way from a step on. -/
def notices : WatchStep → List Notice
  | .changes _ notices => notices
  | _ => []

/-- The same step, after which only what announces a file is on its way. -/
def announcing (path : Path) : WatchStep → WatchStep
  | .changes change notices => .changes change (notices.filter (·.Announces path))
  | step => step

end WatchStep

/-- A watched file, with what is on its way to its watcher. -/
structure Watching extends Watched FileStore Config where
  /-- The notices that are on their way. -/
  inFlight : List Notice := []
  /-- How many reloads the loop has started. -/
  reloads : Nat := 0

namespace Watching

/-- The loop has taken all notices that have arrived, and starts to reload next. -/
def Drained (watching : Watching) : Prop :=
  watching.phase = .draining ∧ watching.pending = 0

/-- What is watched after a step. -/
def after (watching : Watching) : WatchStep → Watching
  | .changes change notices =>
      { watching with
        store := { watching.store with
          machine := watching.store.machine.withDisk (change watching.store.machine.disk) }
        inFlight := watching.inFlight ++ notices }
  | .arrives notice =>
      if notice ∈ watching.inFlight then
        { watching with
          toWatched := watching.toWatched.notice notice
          inFlight := watching.inFlight.erase notice }
      else watching
  | .receives => { watching with toWatched := watching.toWatched.receive }
  | .drains => { watching with toWatched := watching.toWatched.drain }
  | .starts =>
      -- One record is logged of a reload that is started.
      let (started, records) := watching.toWatched.startReload
      { watching with toWatched := started, reloads := watching.reloads + records.length }
  | .calls => { watching with toWatched := watching.toWatched.callStore fileStore }
  | .ends => { watching with toWatched := (watching.toWatched.endReload fileStore).1 }
  | .elsewhere =>
      match watching.phase with
      | .answered _ => watching
      | _ =>
          let step := watching.cache.reload fileStore watching.store
          { watching with cache := step.cache, store := step.store }

/-- What is watched after some steps. -/
def run (watching : Watching) (steps : List WatchStep) : Watching :=
  steps.foldl after watching

/-- Further steps are made where the first ones got to. -/
theorem run_append (watching : Watching) (steps further : List WatchStep) :
    watching.run (steps ++ further) = (watching.run steps).run further :=
  List.foldl_append

/-- One step more is made where the others got to. -/
theorem run_snoc (watching : Watching) (steps : List WatchStep) (step : WatchStep) :
    watching.run (steps ++ [step]) = (watching.run steps).after step := by
  simp [run]

/-- Notices that are on their way arrive one after another. -/
theorem run_arrives (watching : Watching) (notices : List Notice) :
    { watching with inFlight := notices }.run (notices.map .arrives) =
      { watching with
        toWatched := notices.foldl Watched.notice watching.toWatched, inFlight := [] } := by
  induction notices generalizing watching with
  | nil => rfl
  | cons notice notices ih =>
    have first : { watching with inFlight := notice :: notices }.after (.arrives notice) =
        { watching with toWatched := watching.toWatched.notice notice, inFlight := notices } := by
      simp [after]
    exact (congrArg (run · (notices.map .arrives)) first).trans
      (ih { watching with toWatched := watching.toWatched.notice notice })

/-- Notices are taken one after another. -/
theorem run_drains (watching : Watching) (count : Nat) :
    watching.run (List.replicate count .drains) =
      { watching with toWatched := Nat.repeat Watched.drain count watching.toWatched } := by
  induction count with
  | zero => rfl
  | succ count ih =>
    rw [List.replicate_succ', run_snoc, ih]
    rfl

/-- Where notices arrive together and the loop takes care of them before anything else happens,
it makes its steps in order. -/
theorem settle_run (watched : Watched FileStore Config) (notices : List Notice) :
    let noticed := notices.foldl Watched.notice watched
    (({ toWatched := watched, inFlight := notices } : Watching).run
      (notices.map .arrives ++ [.receives] ++ List.replicate noticed.pending .drains ++
        [.starts, .calls, .ends])).toWatched =
      (watched.settle fileStore notices).1 := by
  intro noticed
  have arrived := run_arrives { toWatched := watched, inFlight := notices } notices
  rw [run_append, run_append, run_append, arrived, run_drains]
  rfl

/-- All that a step can do. -/
inductive Moves (before : Watching) : WatchStep → Watching → Prop where
  /-- The step cannot be made. -/
  | none {step : WatchStep} (unchanging : step.notices = []) : Moves before step before
  /-- The disk is another one, and more is on its way. -/
  | changes (change : Disk → Disk) (notices : List Notice) :
      Moves before (.changes change notices)
        { before with
          store := { before.store with
            machine := before.store.machine.withDisk (change before.store.machine.disk) }
          inFlight := before.inFlight ++ notices }
  /-- A notice that asks for a reload is waiting to be taken. -/
  | heard {notice : Notice} (flying : notice ∈ before.inFlight)
      (announces : notice.Announces before.watcher.path) :
      Moves before (.arrives notice)
        { before with
          pending := before.pending + 1, inFlight := before.inFlight.erase notice }
  /-- Any other notice is gone. -/
  | ignored {notice : Notice} (flying : notice ∈ before.inFlight)
      (silent : ¬ notice.Announces before.watcher.path) :
      Moves before (.arrives notice) { before with inFlight := before.inFlight.erase notice }
  /-- A notice is taken, and a reload will be started. -/
  | received {count : Nat} (waiting : before.phase = .waiting)
      (arrived : before.pending = count + 1) :
      Moves before .receives { before with pending := count, phase := .draining }
  /-- One notice more is taken. -/
  | drained {count : Nat} (draining : before.phase = .draining)
      (arrived : before.pending = count + 1) :
      Moves before .drains { before with pending := count }
  /-- A reload is started. -/
  | started (drained : before.Drained) :
      Moves before .starts { before with phase := .reloading, reloads := before.reloads + 1 }
  /-- The store has answered. -/
  | called (reloading : before.phase = .reloading) :
      Moves before .calls
        { before with
          store := before.store.load.state, phase := .answered before.store.load }
  /-- A reload has ended, and the loop with it if the reload panicked. -/
  | ended {called : Called FileStore (Option (Snapshot Config))} {alive : Bool}
      (answered : before.phase = .answered called)
      (broken : ∀ message, called.outcome = .panicked message → alive = false)
      (dead : before.alive = false → alive = false) :
      Moves before .ends
        { before with
          cache :=
            (before.cache.reload { fileStore with load := fun _ => called } before.store).cache
          phase := .waiting
          alive }
  /-- Someone else has reloaded the cache. -/
  | elsewhere (free : ∀ called, before.phase ≠ .answered called) :
      Moves before .elsewhere
        { before with
          cache := (before.cache.reload fileStore before.store).cache
          store := (before.cache.reload fileStore before.store).store }

/-- Every step does one of these things. -/
theorem moves (before : Watching) (step : WatchStep) : Moves before step (before.after step) := by
  cases step with
  | changes change notices => exact .changes change notices
  | arrives notice =>
    by_cases flying : notice ∈ before.inFlight
    · by_cases announces : notice.Announces before.watcher.path
      · have heard := Moves.heard flying announces
        rw [← Watcher.is_relevant_iff] at announces
        simpa only [after, Watched.notice, flying, announces, if_true] using heard
      · have ignored := Moves.ignored flying announces
        rw [← Watcher.is_relevant_iff] at announces
        simpa [after, Watched.notice, flying, announces] using ignored
    · simpa only [after, flying, if_false] using Moves.none rfl
  | receives =>
    simp only [after, Watched.receive]
    split
    · exact .received ‹_› ‹_›
    · exact .none rfl
  | drains =>
    simp only [after, Watched.drain]
    split
    · exact .drained ‹_› ‹_›
    · exact .none rfl
  | starts =>
    simp only [after, Watched.startReload]
    split
    · exact .started ⟨‹_›, ‹_›⟩
    · exact .none rfl
  | calls =>
    simp only [after, Watched.callStore]
    split
    · exact .called ‹_›
    · exact .none rfl
  | ends =>
    simp only [after, Watched.endReload]
    split
    · refine .ended ‹_› ?_ ?_
      · intro message panicked
        simp only [Cache.reload_outcome, panicked]
      · intro dead
        simp only [dead]
        split <;> rfl
    · exact .none rfl
  | elsewhere =>
    simp only [after]
    split
    · exact .none rfl
    · exact .elsewhere ‹_›

/-- One if the loop has taken notices for which no reload was started yet. -/
def takenCount (watching : Watching) : Nat :=
  match watching.phase with
  | .draining => 1
  | _ => 0

/-- How many reloads are owed. Notices that were taken in one burst are owed one reload. -/
def owed (watching : Watching) : Nat :=
  watching.inFlight.countP (·.Announces watching.watcher.path) + watching.pending +
    watching.takenCount

/-- The loop waits, and nothing is on its way to it or waiting to be taken. -/
structure Settled (watching : Watching) : Prop where
  /-- The loop waits for a notice. -/
  waiting : watching.phase = .waiting
  /-- It has not ended. -/
  alive : watching.alive = true
  /-- No notice is waiting to be taken. -/
  taken : watching.pending = 0
  /-- No notice is on its way. -/
  arrived : watching.inFlight = []

/-- A settled loop owes nothing. -/
theorem Settled.owes_nothing {watching : Watching} (settled : watching.Settled) :
    watching.owed = 0 := by
  simp [owed, takenCount, settled.waiting, settled.taken, settled.arrived]

/-- A change that is announced is owed a reload. -/
theorem owed_of_announced {watching : Watching} {notices : List Notice}
    (announced : ∃ notice ∈ notices, notice.Announces watching.watcher.path)
    (change : Disk → Disk) : 0 < (watching.after (.changes change notices)).owed := by
  have counted : 0 < (watching.inFlight ++ notices).countP
      (·.Announces watching.watcher.path) := by
    obtain ⟨notice, member, announces⟩ := announced
    exact List.countP_pos_iff.mpr
      ⟨notice, List.mem_append_right _ member, by simpa using announces⟩
  exact Nat.add_pos_left (Nat.add_pos_left counted _) _

/-- A debt is only paid by starting a reload after all notices were taken that have arrived, and
only notices make debts: as many as announce the file. -/
theorem Moves.owed {before after : Watching} {step : WatchStep}
    (moves : Moves before step after) :
    (0 < before.owed → 0 < after.owed ∨ (step = .starts ∧ before.Drained)) ∧
      after.reloads + after.owed ≤ before.reloads + before.owed +
        step.notices.countP (·.Announces before.watcher.path) := by
  cases moves with
  | none unchanging =>
    simp only [unchanging, List.countP_nil]
    omega
  | changes change notices =>
    simp only [Watching.owed, takenCount, WatchStep.notices, List.countP_append]
    omega
  | @heard notice flying announces =>
    have counted : 0 < before.inFlight.countP (·.Announces before.watcher.path) :=
      List.countP_pos_iff.mpr ⟨notice, flying, by simpa using announces⟩
    have left : (before.inFlight.erase notice).countP (·.Announces before.watcher.path) + 1 =
        before.inFlight.countP (·.Announces before.watcher.path) := by
      simp only [List.countP_erase, flying, announces, decide_true, true_and, if_true]
      omega
    simp only [Watching.owed, takenCount, WatchStep.notices, List.countP_nil]
    omega
  | ignored flying silent =>
    simp only [Watching.owed, takenCount, WatchStep.notices, List.countP_nil, List.countP_erase,
      silent, decide_false, Bool.false_eq_true, and_false, if_false]
    omega
  | received waiting arrived =>
    simp only [Watching.owed, takenCount, waiting, arrived, WatchStep.notices, List.countP_nil]
    omega
  | drained draining arrived =>
    simp only [Watching.owed, takenCount, draining, arrived, WatchStep.notices, List.countP_nil]
    omega
  | started drained =>
    obtain ⟨draining, taken⟩ := drained
    refine ⟨fun _ => .inr ⟨rfl, draining, taken⟩, ?_⟩
    simp only [Watching.owed, takenCount, draining, taken, WatchStep.notices, List.countP_nil]
    omega
  | called reloading =>
    simp only [Watching.owed, takenCount, reloading, WatchStep.notices, List.countP_nil]
    omega
  | ended answered =>
    simp only [Watching.owed, takenCount, answered, WatchStep.notices, List.countP_nil]
    omega
  | elsewhere free =>
    simp only [Watching.owed, takenCount, WatchStep.notices, List.countP_nil]
    omega

/-- The watcher is the same after every step. -/
theorem Moves.watcher {before after : Watching} {step : WatchStep}
    (moves : Moves before step after) : after.watcher = before.watcher := by
  cases moves <;> rfl

/-- The watcher is the same after every run. -/
theorem run_watcher (watching : Watching) (steps : List WatchStep) :
    (watching.run steps).watcher = watching.watcher := by
  induction steps using List.reverseRecOn with
  | nil => rfl
  | append_singleton steps step ih =>
    rw [run_snoc]
    exact (moves _ step).watcher.trans ih

/-- If something is owed, and nothing is owed any more after some steps, then a reload was started
in between, after all notices were taken that had arrived by then. -/
theorem run_started {watching : Watching} {steps : List WatchStep} (owing : 0 < watching.owed)
    (paid : (watching.run steps).owed = 0) :
    ∃ passed rest, steps = passed ++ .starts :: rest ∧ (watching.run passed).Drained := by
  -- The first step that pays anything is looked for, so the induction goes forward.
  induction steps generalizing watching with
  | nil => exact absurd paid (by simpa [run] using Nat.pos_iff_ne_zero.mp owing)
  | cons step steps ih =>
    rcases (moves watching step).owed.1 owing with owing | ⟨rfl, drained⟩
    · obtain ⟨passed, rest, rfl, drained⟩ := ih owing paid
      exact ⟨step :: passed, rest, rfl, drained⟩
    · exact ⟨[], steps, rfl, drained⟩

/-- No more reloads are started than notices announce the file. -/
theorem run_reloads (watching : Watching) (steps : List WatchStep) :
    (watching.run steps).reloads + (watching.run steps).owed ≤
      watching.reloads + watching.owed +
        (steps.flatMap WatchStep.notices).countP (·.Announces watching.watcher.path) := by
  induction steps using List.reverseRecOn with
  | nil => simp [run]
  | append_singleton steps step ih =>
    have last := (moves (watching.run steps) step).owed.2
    rw [run_watcher] at last
    simp only [run_snoc, List.flatMap_append, List.flatMap_singleton, List.countP_append]
    omega

/-- The same, with nothing on its way but what announces the file. -/
def announced (watching : Watching) : Watching :=
  { watching with
    inFlight := watching.inFlight.filter (·.Announces watching.watcher.path) }

/-- A step does the same if nothing is on its way but what announces the file. -/
theorem after_announced (watching : Watching) (step : WatchStep) :
    watching.announced.after (step.announcing watching.watcher.path) =
      (watching.after step).announced := by
  have same := (moves watching step).watcher
  unfold announced
  rw [same]
  cases step with
  | changes change notices =>
    simp only [after, WatchStep.announcing, List.filter_append]
  | receives => rfl
  | drains => rfl
  | starts => rfl
  | calls => rfl
  | ends => rfl
  | elsewhere =>
    simp only [after, WatchStep.announcing]
    split <;> rfl
  | arrives notice =>
    by_cases announces : notice.Announces watching.watcher.path
    · by_cases flying : notice ∈ watching.inFlight
      · simp [after, WatchStep.announcing, List.mem_filter, flying, announces, List.erase_filter]
      · simp [after, WatchStep.announcing, List.mem_filter, flying]
    · have kept : (watching.inFlight.erase notice).filter (·.Announces watching.watcher.path) =
          watching.inFlight.filter (·.Announces watching.watcher.path) := by
        rw [← List.erase_filter]
        exact List.erase_of_not_mem (by simp [announces])
      have silent : ¬ watching.watcher.isRelevant notice = true := by
        rwa [Watcher.is_relevant_iff]
      by_cases flying : notice ∈ watching.inFlight
      · simp [after, WatchStep.announcing, Watched.notice, List.mem_filter, flying, announces,
          silent, kept]
      · simp [after, WatchStep.announcing, List.mem_filter, flying]

/-- A run is the same if nothing is on its way but what announces the file. -/
theorem run_announced (watching : Watching) (steps : List WatchStep) :
    watching.announced.run (steps.map (·.announcing watching.watcher.path)) =
      (watching.run steps).announced := by
  induction steps using List.reverseRecOn with
  | nil => rfl
  | append_singleton steps step ih =>
    have last := after_announced (watching.run steps) step
    rw [run_watcher] at last
    rw [List.map_append, List.map_singleton, run_snoc, run_snoc, ih, last]

end Watching

end LastGood
