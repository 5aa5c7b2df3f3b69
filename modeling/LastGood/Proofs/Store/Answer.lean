import LastGood.Store

/-!
# Answers of a store

Every call to a store ends with an answer. An answer may bring a snapshot to install, and
the answer to a load may be the error that it failed with; any other answer brings
neither. What a cache may know of the persisted configuration is in the answers alone.

A store can be made to keep its answers. It answers as before, so a run over the keeping
store is a run over the store itself, and what was kept is all that the cache was told.
-/

namespace LastGood

variable {σ C : Type}

/-- How a call to a store ended, by the kind of the call. -/
inductive StoreAnswer (C : Type) where
  /-- The end of a load. -/
  | loaded (outcome : Outcome (Option (Snapshot C)))
  /-- The end of a write. -/
  | written (outcome : Outcome (Snapshot C))
  /-- The end of a locked write. -/
  | locked (outcome : Outcome (SaveResult C))

namespace StoreAnswer

/-- The snapshot that an answer brings. Only a call that returned a value brings one, and
a load that found nothing new does not. -/
def snapshot? : StoreAnswer C → Option (Snapshot C)
  | .loaded (.ok found) => found
  | .written (.ok snapshot) => some snapshot
  | .locked (.ok result) => some result.snapshot
  | _ => none

/-- The error of a load that failed. Writes that fail, and panics, have none. -/
def loadFailure? : StoreAnswer C → Option ConfigError
  | .loaded (.failed error) => some error
  | _ => none

end StoreAnswer

/-- The snapshot that the latest of the answers with a snapshot brought. -/
def latestSnapshot (answers : List (StoreAnswer C)) : Option (Snapshot C) :=
  (answers.filterMap StoreAnswer.snapshot?).getLast?

/-- The answers behind the latest one that brought a snapshot. -/
def sinceSnapshot (answers : List (StoreAnswer C)) : List (StoreAnswer C) :=
  (answers.reverse.takeWhile fun answer => answer.snapshot?.isNone).reverse

/-- The error of the latest load that failed, unless a snapshot was brought since. -/
def pendingFailure (answers : List (StoreAnswer C)) : Option ConfigError :=
  ((sinceSnapshot answers).filterMap StoreAnswer.loadFailure?).getLast?

/-- An answer with a snapshot makes it the latest one; any other keeps the one before. -/
theorem latest_snapshot_snoc (answers : List (StoreAnswer C)) (answer : StoreAnswer C) :
    latestSnapshot (answers ++ [answer]) = answer.snapshot?.or (latestSnapshot answers) := by
  cases brought : answer.snapshot? with
  | none => simp [latestSnapshot, List.filterMap_append, brought]
  | some snapshot => simp [latestSnapshot, List.filterMap_append, brought]

/-- An answer with a snapshot leaves no failure pending, and a failed load its own error. -/
theorem pending_failure_snoc (answers : List (StoreAnswer C)) (answer : StoreAnswer C) :
    pendingFailure (answers ++ [answer]) =
      if answer.snapshot?.isSome then none
      else answer.loadFailure?.or (pendingFailure answers) := by
  cases brought : answer.snapshot? with
  | some snapshot => simp [pendingFailure, sinceSnapshot, brought]
  | none =>
    cases failed : answer.loadFailure? with
    | none => simp [pendingFailure, sinceSnapshot, brought, failed]
    | some error => simp [pendingFailure, sinceSnapshot, brought, failed]

namespace Store

/-- The store that also keeps all its answers, in order. -/
def recorded (store : Store σ C) : Store (σ × List (StoreAnswer C)) C where
  fallback := store.fallback
  load
    | (state, answers) =>
      let called := store.load state
      ⟨called.outcome, (called.state, answers ++ [.loaded called.outcome]), called.logs⟩
  write
    | (state, answers), content, migrate =>
      let called := store.write state content migrate
      ⟨called.outcome, (called.state, answers ++ [.written called.outcome]), called.logs⟩
  writeWithLock
    | (state, answers), command, base =>
      let called := store.writeWithLock state command base
      ⟨called.outcome, (called.state, answers ++ [.locked called.outcome]), called.logs⟩
  location state := store.location state.1

end Store

end LastGood
