import LastGood.Proofs.Store.Answer
import LastGood.Proofs.Store.Leftover

/-!
# When a load skips

Calls of a file store come one after another, and between them others change the disk. What the
store remembers is then a matter of its answers alone: the checksum of the latest snapshot that it
handed out or back, whichever call that was, and nothing if a load has failed since. So a load
finds nothing new exactly when the file holds a text of that checksum.

A load that panics is no load that failed: it leaves the checksum as it is.
-/

namespace LastGood

namespace StoreAnswer

variable {C : Type}

/-- What a store remembers when it has given an answer, given what it remembered before. -/
def remembering : StoreAnswer C → Option String → Option String
  | .loaded (.failed _), _ => none
  | answer, before => (answer.snapshot?.map Snapshot.checksum).or before

end StoreAnswer

/-- The checksum to remember after some answers: that of the latest snapshot, unless a load failed
since. -/
def rememberedOf {C : Type} (answers : List (StoreAnswer C)) : Option String :=
  if pendingFailure answers = none then (latestSnapshot answers).map Snapshot.checksum else none

/-- It changes with each answer as that one says. -/
theorem remembered_of_snoc {C : Type} (answers : List (StoreAnswer C)) (answer : StoreAnswer C) :
    rememberedOf (answers ++ [answer]) = answer.remembering (rememberedOf answers) := by
  unfold rememberedOf
  rw [pending_failure_snoc, latest_snapshot_snoc]
  rcases answer with (outcome | error | message) | (outcome | error | message) |
    (outcome | error | message)
  case loaded.ok =>
    cases outcome <;>
      simp [StoreAnswer.snapshot?, StoreAnswer.loadFailure?, StoreAnswer.remembering]
  all_goals simp [StoreAnswer.snapshot?, StoreAnswer.loadFailure?, StoreAnswer.remembering]

/-- No failure is pending exactly when no load has failed since the latest snapshot. -/
theorem pending_failure_eq_none_iff {C : Type} (answers : List (StoreAnswer C)) :
    pendingFailure answers = none ↔ ∀ error, .loaded (.failed error) ∉ sinceSnapshot answers := by
  unfold pendingFailure
  rw [List.getLast?_eq_none_iff, List.filterMap_eq_nil_iff]
  constructor
  · intro none_failed error member
    cases none_failed _ member
  · intro none_failed answer member
    rcases answer with (outcome | error | message) | _ | _
    case loaded.failed => exact absurd member (none_failed error)
    all_goals rfl

/-- What happens to a file store. -/
inductive StoreStep where
  /-- A load. -/
  | load
  /-- A write. -/
  | write (content : String) (migrate : Bool)
  /-- A locked write, on any base or on none. -/
  | lock (command : Command Config) (base : Option (Snapshot Config))
  /-- Others change the disk, in whatever way. -/
  | disk (change : Disk → Disk)
  /-- The environment becomes another one. -/
  | environment (environment : Environment)

namespace FileStore

/-- A file store and all its answers, after something has happened to it. -/
def stepped (kept : FileStore × List (StoreAnswer Config)) :
    StoreStep → FileStore × List (StoreAnswer Config)
  | .load => (fileStore.recorded.load kept).state
  | .write content migrate => (fileStore.recorded.write kept content migrate).state
  | .lock command base => (fileStore.recorded.writeWithLock kept command base).state
  | .disk change =>
      ({ kept.1 with machine := kept.1.machine.withDisk (change kept.1.machine.disk) }, kept.2)
  | .environment environment =>
      ({ kept.1 with machine := { kept.1.machine with environment } }, kept.2)

/-- A new file store and its answers after a course of such steps. -/
def stepsOn (machine : Machine) (path : Path) (steps : List StoreStep) :
    FileStore × List (StoreAnswer Config) :=
  steps.foldl stepped (⟨path, none, machine⟩, [])

/-- A store remembers what its answers say. -/
def Remembers (kept : FileStore × List (StoreAnswer Config)) : Prop :=
  kept.1.remembered = rememberedOf kept.2

/-- A load remembers what its answer says. -/
theorem load_remembered (store : FileStore) :
    store.load.state.remembered =
      (StoreAnswer.loaded store.load.outcome).remembering store.remembered := by
  have ended := store.load_end
  generalize store.load.outcome = outcome at ended ⊢
  generalize store.load.state = after at ended ⊢
  cases ended with
  | handedOut made => exact made.remembered
  | known => rfl
  | failed => rfl
  | panicked => rfl

/-- A write on a base, if there is one, leaves remembered what its end says. -/
theorem WriteEnd.remembered {before after : FileStore} {base : Option (Snapshot Config)}
    {outcome : Outcome (Snapshot Config)} (ended : WriteEnd before base outcome after) :
    after.remembered = (StoreAnswer.written outcome).remembering before.remembered := by
  cases ended with
  | handedOut made => exact made.remembered
  | handedBack => rfl
  | failed left => exact left.remembered
  | panicked => rfl

/-- The answer of a locked write has remembered what that of a write would. -/
theorem remembering_locked (outcome : Outcome (SaveResult Config)) (before : Option String) :
    (StoreAnswer.locked outcome).remembering before =
      (StoreAnswer.written (outcome.map SaveResult.snapshot)).remembering before := by
  cases outcome <;> rfl

/-- Whatever happens to a store, it goes on to remember what its answers say. -/
theorem Remembers.stepped {kept : FileStore × List (StoreAnswer Config)}
    (remembers : Remembers kept) (step : StoreStep) : Remembers (stepped kept step) := by
  obtain ⟨store, answers⟩ := kept
  have before : store.remembered = rememberedOf answers := remembers
  cases step with
  | load =>
    refine (load_remembered store).trans ?_
    rw [before, ← remembered_of_snoc]
    rfl
  | write content migrate =>
    refine (write_end store content migrate).remembered.trans ?_
    rw [before, ← remembered_of_snoc]
    rfl
  | lock command base =>
    refine (lock_end store command base).remembered.trans ?_
    rw [before, ← remembering_locked, ← remembered_of_snoc]
    rfl
  | disk change => exact before
  | environment environment => exact before

/-- So it does after any course. -/
theorem steps_remembers (machine : Machine) (path : Path) (steps : List StoreStep) :
    Remembers (stepsOn machine path steps) := by
  have course : ∀ kept : FileStore × List (StoreAnswer Config), Remembers kept →
      Remembers (steps.foldl stepped kept) := by
    induction steps with
    | nil => exact fun kept remembers => remembers
    | cons step rest ih => exact fun kept remembers => ih _ (remembers.stepped step)
  exact course _ rfl

/-- A load finds nothing new exactly when the file holds a text that is remembered. -/
theorem load_skips_iff (store : FileStore) :
    store.load.outcome = .ok none ↔
      ∃ text, store.readText = .ok text ∧ store.remembered = some (checksum text) := by
  constructor
  · intro skipped
    have ended := store.load_end
    rw [skipped] at ended
    generalize store.load.state = after at ended
    cases ended with
    | known held remembered => exact ⟨_, held, remembered⟩
  · rintro ⟨text, held, remembered⟩
    simp only [load, held, remembered, if_true]

/-- What a write that did not succeed leaves of a store loads as the store did. -/
theorem Leaves.load {before after : FileStore} (left : before.Leaves after) :
    after.load.outcome = before.load.outcome := by
  rcases left with rfl | ⟨location, _, beside⟩
  · rfl
  · exact beside.load.outcome

/-- After any course of calls and changes from outside, a load finds nothing new if and only if
the file holds a text, some call has brought a snapshot, the latest one that was brought has the
checksum of that text, and no load has failed since. Writes and locked writes that do not succeed
have no part in this, however they end: the next load ends as it would have without them. -/
theorem skips_exactly (machine : Machine) (path : Path) (steps : List StoreStep) :
    let store := (stepsOn machine path steps).1
    let answers := (stepsOn machine path steps).2
    (store.load.outcome = .ok none ↔
      ∃ text snapshot, store.readText = .ok text ∧ latestSnapshot answers = some snapshot ∧
        snapshot.checksum = checksum text ∧
        ∀ error, .loaded (.failed error) ∉ sinceSnapshot answers) ∧
    (∀ content migrate,
      (∀ snapshot, (store.write content migrate).outcome ≠ .ok snapshot) →
      (store.write content migrate).state.load.outcome = store.load.outcome) ∧
    ∀ command base,
      (∀ result, (store.writeWithLock command base).outcome ≠ .ok result) →
      (store.writeWithLock command base).state.load.outcome = store.load.outcome := by
  intro store answers
  have remembers : store.remembered = rememberedOf answers := steps_remembers machine path steps
  refine ⟨?_, fun _ _ failed => (write_leaves failed).load,
    fun _ _ failed => (lock_leaves failed).load⟩
  rw [load_skips_iff, remembers]
  unfold rememberedOf
  constructor
  · rintro ⟨text, held, remembered⟩
    split at remembered
    case isFalse => cases remembered
    case isTrue unfailed =>
      obtain ⟨snapshot, latest, sum⟩ := Option.map_eq_some_iff.mp remembered
      exact ⟨text, snapshot, held, latest, sum, (pending_failure_eq_none_iff answers).mp unfailed⟩
  · rintro ⟨text, snapshot, held, latest, sum, unfailed⟩
    refine ⟨text, held, ?_⟩
    rw [if_pos ((pending_failure_eq_none_iff answers).mpr unfailed), latest, ← sum]
    rfl

/-- A base that is handed back counts, too, even though the file has never held its text. -/
example :
    let machine : Machine := { disk := ⟨[(["config.yaml"], .file "".toUTF8)]⟩ }
    let stale : Snapshot Config := ⟨{}, {}, checksum "# another text\n"⟩
    let steps := [.load, .lock (Command.setServerPort 8153) (some stale),
      .disk fun _ => ⟨[(["config.yaml"], .file "# another text\n".toUTF8)]⟩]
    (stepsOn machine ⟨"config.yaml"⟩ steps).1.load.outcome = .ok none := by
  decide +kernel

end FileStore

end LastGood
